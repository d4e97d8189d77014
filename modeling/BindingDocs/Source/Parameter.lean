import BindingDocs.Source.TypeName

/-! Arguments, parameters and attributes. -/
namespace BindingDocs.Source
open Reader BindingDocs.Reference

/-- An argument of a call: an expression, or a variable declared in its place. -/
def argument (inner : Inner) : Reader Code := do
  discard (maybe (do discard identifier; punctNot ":" ":"))
  discard (maybe (keyword "ref" <|> keyword "out" <|> keyword "in"))
  declared <|> inner.code (.expression true)
where
  declared : Reader Code := do
    let code ← inner.code .type
    discard newName
    guard ((← ahead ",") || (← ahead ")") || (← ahead "]"))
    pure code

def argumentList (inner : Inner) : Reader Code := do
  punct "("
  let code ← commaList (argument inner) <|> pure []
  punct ")"
  pure code

/-- Arguments in square brackets, at least one. -/
def bracketedArguments (inner : Inner) : Reader Code := do
  punct "["
  let code ← commaList (argument inner)
  discard (maybe (punct ","))
  punct "]"
  pure code

def attributeArgument (inner : Inner) : Reader Code := do
  discard (maybe (do
    discard identifier
    punctNot ":" ":" <|> punctNot "=" "=>"))
  inner.code (.expression true)

def attributeEntry (inner : Inner) : Reader Code := do
  let name ← qualifiedName inner
  let arguments ← (do
    punct "("
    let code ← commaList (attributeArgument inner) <|> pure []
    punct ")"
    pure code) <|> pure []
  pure (name ++ arguments)

def attributeTargets : List String :=
  ["field", "event", "method", "param", "property", "return", "type", "typevar"]

def attributeList (inner : Inner) : Reader Code := do
  punct "["
  discard (maybe (do guard (attributeTargets.contains (← word)); punctNot ":" ":"))
  let code ← commaList (attributeEntry inner)
  discard (maybe (punct ","))
  punct "]"
  pure code

/-- The attribute lists in front of a declaration; a list may stand in a region under a condition,
whose first branch is then never left out. -/
def attributes (inner : Inner) : Reader Code := do
  let lists ← many do
    attributeList inner <|> do
      let region ← conditional (attributeList inner <|> pure []) fun _ body alt => .other (body ++ alt)
      pure [region]
  pure lists.flatten

def parameterModifiers : List String := ["this", "scoped", "ref", "out", "in", "readonly"]

/-- The type and name of a parameter. -/
def typeAndName (inner : Inner) (modifiers : List String) :
    Reader (List String × String × String × Code) := do
  guard (!(← aheadWord "ref"))
  skip
  let (code, type) ← withText (inner.code .type)
  let name ← word
  guard ((← ahead ",") || (← ahead ")") || (← ahead "]") || (← ahead "="))
  pure (modifiers, type, name, code)

/-- The modifiers of a parameter, at most `n`, followed by its type and name. The word `scoped` in
front of a name belongs to the type, in front of `ref` it is a modifier. -/
def typedParameter (inner : Inner) : Nat → List String → Reader (List String × String × String × Code)
  | 0, _ => failure
  | n + 1, seen =>
    (do guard (← aheadWord "scoped")
        guard (!(← canRead (keyword "scoped" *> keyword "ref")))
        typeAndName inner seen) <|>
    (do let w ← word
        guard (parameterModifiers.contains w)
        typedParameter inner n (seen ++ [w])) <|>
    typeAndName inner seen

/-- One parameter. Without a type only its name is given. -/
def parameter (inner : Inner) : Reader (WrittenParameter × Code) := do
  let lists ← attributes inner
  let (modifiers, type, name, code) ←
    typedParameter inner (← get).length [] <|> (do
      let name ← identifier
      pure ([], "", name, []))
  let (value, text) ← (do punctNot "=" "=>"; skip; withText (inner.code (.expression true))) <|> pure ([], "")
  pure (⟨modifiers, type, name, text⟩, lists ++ code ++ value)

/-- A trailing parameter that takes any number of arguments; its type is an array or nullable. -/
def restParameter (inner : Inner) : Reader (WrittenParameter × Code) := do
  let lists ← attributes inner
  keyword "params"
  skip
  let ((form, code), type) ← withText (formedType inner)
  guard (form == .array || form == .nullable)
  let name ← word
  pure (⟨["params"], type, name, ""⟩, lists ++ code)

/-- The parameters between two brackets, and the code inside them. -/
def parametersBetween (left right : String) (inner : Inner) :
    Reader (List WrittenParameter × Code) := do
  punct left
  let ps ← sepBy (restParameter inner <|> parameter inner) (punct ",")
  punct right
  pure (ps.map (·.1), (ps.map (·.2)).flatten)

def parameterList (inner : Inner) : Reader (List WrittenParameter × Code) :=
  parametersBetween "(" ")" inner

end BindingDocs.Source
