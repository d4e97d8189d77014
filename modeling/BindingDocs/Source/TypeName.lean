import BindingDocs.Source.Category

/-! Type expressions. -/
namespace BindingDocs.Source
open Reader

/-- The outermost form of a type, as far as it decides what may follow. -/
inductive TypeForm where
  | named
  | builtin
  | tuple
  | function
  | array
  | nullable
  | pointer
  | reference
  deriving DecidableEq

/-- Type arguments: types, or only the commas between them. -/
def typeArguments (inner : Inner) : Reader Code := do
  punct "<"
  let code ← commaList (inner.code .type) <|> (do discard (many (punct ",")); pure [])
  punct ">"
  pure code

def simpleName (inner : Inner) : Reader Code := do
  discard identifier
  typeArguments inner <|> pure []

/-- A dotted name, perhaps with an alias in front. -/
def qualifiedName (inner : Inner) : Reader Code := do
  discard (maybe (do discard identifier; punct "::"))
  pure (← sepBy1 (simpleName inner) (punctNot "." ".")).flatten

def rankSpecifier (inner : Inner) : Reader Code := do
  punct "["
  let slot : Reader Code := inner.code (.expression true) <|> pure []
  let code ← (do pure (← sepBy1 slot (punct ",")).flatten)
  punct "]"
  pure code

def tupleType (inner : Inner) : Reader Code := do
  punct "("
  let element : Reader Code := do
    let code ← inner.code .type
    discard (maybe newName)
    pure code
  let first ← element
  punct ","
  let others ← commaList element
  punct ")"
  pure (first ++ others)

def callingConvention : Reader Unit :=
  keyword "managed" <|> do
    keyword "unmanaged"
    discard (maybe (bracketed "[" "]" (do discard word; pure [])))

def functionPointer (inner : Inner) : Reader Code := do
  keyword "delegate"
  punct "*"
  discard (maybe callingConvention)
  punct "<"
  let code ← commaList do
    discard (maybe (keyword "ref" <|> keyword "out" <|> keyword "in"))
    inner.code .type
  punct ">"
  pure code

/-- A type without its suffixes. -/
def baseType (inner : Inner) : Reader (TypeForm × Code) := do
  match ← peek with
  | some '(' => pure (.tuple, ← tupleType inner)
  | _ =>
    let w ← peekWord
    if w == some "delegate" then pure (.function, ← functionPointer inner)
    else if predefinedTypes.contains (w.getD "") then discard word; pure (.builtin, [])
    else pure (.named, ← qualifiedName inner)

/-- The suffixes of a type: array ranks, the mark of nullable types and pointer stars. -/
def typeSuffixes (inner : Inner) : Nat → TypeForm → Code → Reader (TypeForm × Code)
  | 0, form, code => pure (form, code)
  | n + 1, form, code =>
    (do let rank ← rankSpecifier inner
        typeSuffixes inner n .array (code ++ rank)) <|>
    (do guard (form == .array || form == .named || form == .builtin || form == .tuple)
        punctNot "?" "?"
        typeSuffixes inner n .nullable code) <|>
    (do guard (form != .array)
        punctNot "*" "="
        typeSuffixes inner n .pointer code) <|>
    pure (form, code)

/-- A type with its form. -/
def formedType (inner : Inner) : Reader (TypeForm × Code) := do
  match ← peekWord with
  | some "ref" => do
    discard word
    discard (maybe (keyword "readonly"))
    pure (.reference, ← inner.code .type)
  | some "scoped" =>
    (do discard word
        let code ← (do guard (← aheadWord "ref"); inner.code .type) <|> qualifiedName inner
        -- a scoped type is the type of something named after it
        guard (← canRead newName)
        pure (.reference, code)) <|> plain
  | _ => plain
where
  plain : Reader (TypeForm × Code) := do
    let (form, code) ← baseType inner
    typeSuffixes inner (← get).length form code

def typeRule (inner : Inner) : Reader Code := do pure (← formedType inner).2

/-- The names bound by taking a tuple apart. -/
def tuplePattern : Nat → Reader Unit
  | 0 => failure
  | n + 1 => do
    punct "("
    discard (sepBy1 (discard newName <|> tuplePattern n) (punct ","))
    punct ")"

end BindingDocs.Source
