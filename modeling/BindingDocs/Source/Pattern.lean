import BindingDocs.Source.Expression

/-! Patterns. -/
namespace BindingDocs.Source
open Reader

/-- The names a pattern binds, nested at most `n` deep. -/
def designation : Nat → Reader Unit
  | 0 => failure
  | n + 1 =>
    discard boundName <|> do
      punct "("
      discard (sepBy (designation n) (punct ","))
      punct ")"

def anyDesignation : Reader Unit := do designation ((← get).length + 1)

def subpattern (inner : Inner) : Reader Code := do
  let name ← (do
    let code ← inner.code (.operand false)
    punctNot ":" ":"
    pure code) <|> pure []
  pure (name ++ (← inner.code .pattern))

def positionalClause (inner : Inner) : Reader Code := do
  punct "("
  let code ← commaList (subpattern inner) <|> pure []
  punct ")"
  pure code

def propertyClause (inner : Inner) : Reader Code := bracketed "\x7b" "\x7d" (subpattern inner)

def listPattern (inner : Inner) : Reader Code :=
  bracketed "[" "]" (inner.code .pattern <|> (do punct ".."; pure []))

/-- Clauses behind the type of a pattern, or without one. -/
def patternClauses (inner : Inner) : Reader Code :=
  (do let positions ← positionalClause inner
      pure (positions ++ (← propertyClause inner <|> pure []))) <|>
  propertyClause inner

/-- A type, the clauses about its parts, and the names bound to it. -/
def typePattern (inner : Inner) : Reader Code := do
  let type ← testedType inner
  let clauses ← patternClauses inner <|> pure []
  discard (maybe anyDesignation)
  pure (type ++ clauses)

def simplePattern (inner : Inner) : Reader Code := do
  let named (p : Reader Code) : Reader Code := do
    let code ← p
    discard (maybe anyDesignation)
    pure code
  match ← peek with
  | some '[' => named (listPattern inner)
  | some '{' => named (propertyClause inner)
  | some '(' => longer (named (patternClauses inner)) (inner.code (.expression false))
  | some '<' => do punct "<=" <|> punct "<"; inner.code (.expression false)
  | some '>' => do punct ">=" <|> punct ">"; inner.code (.expression false)
  | _ =>
    match ← peekWord with
    | some "not" =>
      (do discard word; inner.code .pattern) <|>
        longer (typePattern inner) (inner.code (.expression false))
    | some "var" => (do discard word; anyDesignation; pure []) <|> typePattern inner
    | _ => longer (typePattern inner) (inner.code (.expression false))

def patternRule (inner : Inner) : Reader Code := do
  let joint : Reader Unit := keyword "and" <|> keyword "or"
  pure (← sepBy1 (simplePattern inner) joint).flatten

end BindingDocs.Source
