import BindingDocs.Source.Statement

/-! Declarations of types and their members, and whole source texts. -/
namespace BindingDocs.Source
open Reader BindingDocs.Reference

/-- A list of siblings: each may have comments and directives in front of it. -/
def siblings (p : Reader Item) : Reader (List Item) := do
  let groups ← many do
    let before ← leading
    pure (before ++ [← p])
  pure groups.flatten

def optionalSemicolon : Reader Unit := discard (maybe (punct ";"))

/-- The members of a type between braces. -/
def memberBlock (inner : Inner) : Reader (List Item) := do
  punct "\x7b"
  let items ← inner.code .members
  punct "\x7d"
  pure items

/-! ### Types -/

def baseTypes (inner : Inner) : Reader Code := do
  punct ":"
  commaList do
    let type ← inner.code .type
    pure (type ++ (← argumentList inner <|> pure []))

/-- The parts between the name of a type and its body. -/
def typeHeader (inner : Inner) : Reader Code := do
  let parts ← many (typeParameters inner <|> (do pure (← parameterList inner).2) <|> baseTypes inner)
  pure (parts.flatten ++ (← constraints inner))

/-- A type that has members: what stands in its body, or in its header if it has no body. -/
def typeWithMembers (inner : Inner) : Reader Item := do
  let name ← word
  let header ← typeHeader inner
  (do let body ← memberBlock inner
      optionalSemicolon
      pure (.typeBlock name body)) <|>
  (do punct ";"; pure (.typeBlock name header))

def enumMember (inner : Inner) : Reader Code := do
  let lists ← attributes inner
  discard word
  pure (lists ++ (← initialValue inner))

def enumBody (inner : Inner) : Reader Unit :=
  (do discard (bracketed "\x7b" "\x7d" (codeRegion (enumMember inner) <|> enumMember inner))
      optionalSemicolon) <|>
  punct ";"

def interfaceBody (inner : Inner) : Reader Unit := do
  discard word
  discard (maybe (typeParameters inner))
  discard (maybe (baseTypes inner))
  discard (constraints inner)
  (do discard (memberBlock inner); optionalSemicolon) <|> punct ";"

def delegateBody (inner : Inner) : Reader Unit := do
  discard (inner.code .type)
  discard word
  discard (maybe (typeParameters inner))
  discard (parameterList inner)
  discard (constraints inner)
  punct ";"

/-- A type declaration behind its attributes and modifiers. -/
def typeKeyword (inner : Inner) : Reader Item := do
  match ← peekWord with
  | some "class" | some "struct" => do discard word; typeWithMembers inner
  | some "ref" => do discard word; keyword "struct"; typeWithMembers inner
  | some "record" => do
    discard word
    discard (maybe (keyword "class" <|> keyword "struct"))
    typeWithMembers inner
  | some "enum" => do
    discard word
    discard word
    discard (maybe (baseTypes inner))
    enumBody inner
    pure (.other [])
  | some "interface" => do discard word; interfaceBody inner; pure (.other [])
  | some "delegate" => do discard word; delegateBody inner; pure (.other [])
  | _ => failure

def typeDeclaration (inner : Inner) : Reader Item := do
  discard (attributes inner)
  discard modifiers
  typeKeyword inner

/-! ### Namespaces and using directives -/

def namespaceName (inner : Inner) : Reader String := do
  skip
  pure (← withText (qualifiedName inner)).2

def namespaceDeclaration (inner : Inner) : Reader Item := do
  keyword "namespace"
  let name ← namespaceName inner
  let body ← memberBlock inner
  optionalSemicolon
  pure (.namespaceBlock name body)

def fileNamespace (inner : Inner) : Reader Item := do
  keyword "namespace"
  let name ← namespaceName inner
  punct ";"
  pure (.fileNamespace name)

def usingDirective (inner : Inner) : Reader Item := do
  discard (maybe (keyword "global"))
  keyword "using"
  let code ←
    (do discard (maybe (keyword "unsafe"))
        discard identifier
        punctNot "=" "=>"
        inner.code .type) <|>
    (do discard (many (keyword "static" <|> keyword "unsafe"))
        qualifiedName inner)
  punct ";"
  pure (.other code)

/-! ### Members -/

def accessor (inner : Inner) : Reader Code := do
  let lists ← attributes inner
  discard modifiers
  discard word
  pure (lists ++ (← functionBody inner))

def accessorList (inner : Inner) : Reader Code := do
  punct "\x7b"
  let accessors ← many (accessor inner)
  punct "\x7d"
  pure accessors.flatten

/-- The name of a member, behind the interface it belongs to if that is given. -/
def declaredName (inner : Inner) : Reader (String × Code) := do
  discard (maybe (do discard identifier; punct "::"))
  let owners ← many do
    let code ← simpleName inner
    punct "."
    pure code
  pure (← word, owners.flatten)

def operatorSigns : List String :=
  ["++", "--", "<<", ">>>", ">>", "==", "!=", ">=", "<=", "!", "~", "+", "-", "*", "/", "%", "^",
   "|", "&", ">", "<"]

def operatorTail (inner : Inner) : Reader Code := do
  discard (maybe (keyword "checked"))
  firstSign operatorSigns <|> keyword "true" <|> keyword "false"
  let (_, params) ← parameterList inner
  pure (params ++ (← functionBody inner))

def conversionTail (inner : Inner) : Reader Code := do
  let part : Reader Code :=
    (do keyword "operator" <|> keyword "checked"; pure []) <|>
    (do let code ← simpleName inner; punct "."; pure code)
  let first ← part
  let others ← many part
  let type ← inner.code .type
  let (_, params) ← parameterList inner
  pure (first ++ others.flatten ++ type ++ params ++ (← functionBody inner))

def indexerTail (inner : Inner) : Reader Code := do
  let (_, params) ← parametersBetween "[" "]" inner
  let body ← accessorList inner <|> (do let code ← arrowClause inner; punct ";"; pure code)
  pure (params ++ body)

def methodTail (inner : Inner) : Reader (List WrittenParameter) := do
  discard (maybe (typeParameters inner))
  let (params, _) ← parameterList inner
  discard (constraints inner)
  discard (functionBody inner)
  pure params

def propertyTail (inner : Inner) : Reader Unit :=
  (do discard (accessorList inner)
      discard (maybe (do
        punctNot "=" "=>"
        discard (inner.code (.expression true))
        punct ";"))) <|>
  (do discard (arrowClause inner); punct ";")

def fieldTail (inner : Inner) : Reader Code := do
  let first ← declaratorTail inner
  let others ← many (do punct ","; declarator inner)
  punct ";"
  pure (first ++ others.flatten)

def eventTail (inner : Inner) : Reader Code :=
  (do let type ← inner.code .type
      let (_, owner) ← declaredName inner
      let body ← accessorList inner <|> (do punct ";"; pure [])
      pure (type ++ owner ++ body)) <|>
  (do let code ← declaredVariables inner; punct ";"; pure code)

def constructorTail (inner : Inner) : Reader (List WrittenParameter) := do
  let (params, _) ← parameterList inner
  discard (maybe (do
    punct ":"
    keyword "base" <|> keyword "this"
    discard (argumentList inner)))
  discard (functionBody inner)
  pure params

/-- A member that begins with its type, behind its attributes and modifiers. -/
def typedMember (inner : Inner) (before : Code) (modifiers : List String) : Reader Item := do
  skip
  let (typeCode, type) ← withText (inner.code .type)
  (do let (name, owner) ← declaredName inner
      let code := before ++ typeCode ++ owner
      match name with
      | "operator" => pure (.other (code ++ (← operatorTail inner)))
      | "this" => pure (.other (code ++ (← indexerTail inner)))
      | _ =>
        (do let params ← methodTail inner
            pure (.member ⟨modifiers, .method name type params⟩)) <|>
        (do propertyTail inner
            pure (.member ⟨modifiers, .property name type⟩)) <|>
        (do pure (.other (code ++ (← fieldTail inner))))) <|>
  (do let code ← commaList (declarator inner)
      punct ";"
      pure (.other (before ++ typeCode ++ code)))

/-- One declaration inside a type or a namespace. -/
def memberDeclaration (inner : Inner) : Reader Item := do
  match ← peek with
  | some '#' => conditional (inner.code .members) .conditional <|> declared
  | _ => namespaceDeclaration inner <|> usingDirective inner <|> declared
where
  declared : Reader Item := do
    let lists ← attributes inner
    let ms ← modifiers
    match ← peek with
    | some '~' => do
      guard (ms == [] || ms == ["extern"])
      punct "~"
      discard word
      let (_, params) ← parameterList inner
      pure (.other (lists ++ params ++ (← functionBody inner)))
    | _ =>
      match ← peekWord with
      | some "event" => do discard word; pure (.other (lists ++ (← eventTail inner)))
      | some "implicit" | some "explicit" => do
        discard word
        pure (.other (lists ++ (← conversionTail inner)))
      | _ =>
        typeKeyword inner <|>
        (do discard identifier
            guard (← ahead "(")
            let params ← constructorTail inner
            pure (.member ⟨ms, .constructor params⟩)) <|>
        typedMember inner lists ms

/-! ### Source texts -/

def externAlias : Reader Item := do
  keyword "extern"
  keyword "alias"
  discard word
  punct ";"
  pure (.other [])

def globalAttribute (inner : Inner) : Reader Item := do
  punct "["
  keyword "assembly" <|> keyword "module"
  punctNot ":" ":"
  let code ← commaList (attributeEntry inner)
  discard (maybe (punct ","))
  punct "]"
  pure (.other code)

/-- One sibling at the top of a source text, or in a region under a condition inside code. -/
def topLevelItem (inner : Inner) : Reader Item := do
  match ← peek with
  | some '#' =>
    conditional (inner.code .items) .conditional <|> typeDeclaration inner <|> statementItem
  | some '[' => globalAttribute inner <|> typeDeclaration inner <|> statementItem
  | _ =>
    match ← peekWord with
    | some "namespace" => namespaceDeclaration inner <|> fileNamespace inner
    | some "using" | some "global" => usingDirective inner <|> statementItem
    | some "extern" => externAlias <|> typeDeclaration inner <|> statementItem
    | _ => typeDeclaration inner <|> statementItem
where
  statementItem : Reader Item := do pure (.other (← inner.code .statement))

/-- One layer of every kind of phrase, over a reading of the phrases inside it. -/
def layer (inner : Inner) : Inner
  | .type => do pure (.value, ← typeRule inner)
  | .expression arrows => expressionRule inner arrows
  | .operand arrows => operandRule inner arrows
  | .target arrows => targetRule inner arrows
  | .pattern => do pure (.value, ← patternRule inner)
  | .statement => do pure (.value, ← statementRule inner)
  | .members => do pure (.value, ← siblings (memberDeclaration inner))
  | .items => do pure (.value, ← siblings (topLevelItem inner))

/-- Phrases nested at most `n` deep. -/
def phrase : Nat → Inner
  | 0, _ => failure
  | n + 1, c => layer (phrase n) c

/-- A script may begin with a line that names its interpreter. -/
def shebang : Reader Unit := do
  Trivia.literally "#!"
  set ((← get).dropWhile (· ≠ '\n'))

/-- The siblings at the top of a source text, or nothing if it is not well formed. Each level of
nesting takes a character, so twice the length of the text bounds the depth. -/
def parse? (source : String) : Option (List Item) := do
  let text := source.toList
  let whole : Reader (List Item) := do
    discard (maybe (do skip; shebang))
    let items ← (phrase (2 * text.length + 8)).code .items
    skip
    guard (← get).isEmpty
    pure items
  let r ← whole.run text
  pure r.1

end BindingDocs.Source
