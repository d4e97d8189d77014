import BindingDocs.Source.Pattern

/-! Statements. -/
namespace BindingDocs.Source
open Reader

/-- Type parameters of a declaration. -/
def typeParameters (inner : Inner) : Reader Code := do
  punct "<"
  let code ← commaList do
    let lists ← attributes inner
    discard (maybe (do
      keyword "in" <|> keyword "out"))
    discard word
    pure lists
  punct ">"
  pure code

def constraint (inner : Inner) : Reader Code :=
  (do keyword "class"; discard (maybe (punct "?")); pure []) <|>
  (do keyword "struct"; pure []) <|>
  (do keyword "new"; punct "("; punct ")"; pure []) <|>
  inner.code .type

def constraints (inner : Inner) : Reader Code := do
  let clauses ← many do
    keyword "where"
    discard word
    punct ":"
    commaList (constraint inner)
  pure clauses.flatten

def arrowClause (inner : Inner) : Reader Code := do punct "=>"; inner.code (.expression true)

/-- The body of a function: a block, an arrow clause, or nothing. -/
def functionBody (inner : Inner) : Reader Code :=
  block inner <|>
  (do let code ← arrowClause inner; punct ";"; pure code) <|>
  (do punct ";"; pure [])

/-- The value a declared variable begins with. -/
def initialValue (inner : Inner) : Reader Code :=
  (do punctNot "=" "=>"; inner.code (.expression true)) <|> pure []

/-- What follows the name of a declared variable. -/
def declaratorTail (inner : Inner) : Reader Code := do
  let size ← bracketedArguments inner <|> pure []
  pure (size ++ (← initialValue inner))

def declarator (inner : Inner) : Reader Code := do
  discard newName <|> do tuplePattern ((← get).length + 1)
  declaratorTail inner

/-- Variables of one type. -/
def declaredVariables (inner : Inner) : Reader Code := do
  let type ← inner.code .type
  pure (type ++ (← commaList (declarator inner)))

def modifiers : Reader (List String) := many do
  let w ← word
  guard (modifierWords.contains w)
  pure w

/-- A function inside code. -/
def localFunction (inner : Inner) : Reader Code := do
  let lists ← attributes inner
  discard modifiers
  let type ← inner.code .type
  discard newName
  let generics ← typeParameters inner <|> pure []
  let (_, params) ← parameterList inner
  let clauses ← constraints inner
  pure (lists ++ type ++ generics ++ params ++ clauses ++ (← functionBody inner))

def localVariables (inner : Inner) : Reader Code := do
  discard (maybe (keyword "await"))
  discard (maybe (keyword "using"))
  discard modifiers
  let code ← declaredVariables inner
  punct ";"
  pure code

def expressionStatement (inner : Inner) : Reader Code := do
  let (use, code) ← expressionRule inner true
  guard (use = .action)
  punct ";"
  pure code

/-! ### Statements that begin with a word -/

def parenCondition (inner : Inner) : Reader Code := inParens (inner.code (.expression true))

def forHeader (inner : Inner) : Reader Code := do
  let expressions : Reader Code := commaList (inner.code (.expression true)) <|> pure []
  punct "("
  let start ←
    (do let code ← declaredVariables inner; punct ";"; pure code) <|>
    (do let code ← expressions; punct ";"; pure code)
  let test ← inner.code (.expression true) <|> pure []
  punct ";"
  let step ← expressions
  punct ")"
  pure (start ++ test ++ step)

def foreachHeader (inner : Inner) : Reader Code := do
  punct "("
  let variable_ ←
    (do let type ← inner.code .type
        discard newName <|> do tuplePattern ((← get).length + 1)
        keyword "in"
        pure type) <|>
    (do let code ← inner.code (.expression true)
        keyword "in"
        pure code)
  let source ← inner.code (.expression true)
  punct ")"
  pure (variable_ ++ source)

def catchClause (inner : Inner) : Reader Code := do
  keyword "catch"
  let filters ← many (
    (do punct "("
        let type ← inner.code .type
        discard (maybe newName)
        punct ")"
        pure type) <|>
    (do keyword "when"; parenCondition inner))
  pure (filters.flatten ++ (← block inner))

/-- What follows a `case` or `default` label and its colon is a list of statements. -/
def switchSection (inner : Inner) : Reader Code := do
  let label ←
    (do keyword "default"; punct ":"; pure []) <|>
    (do keyword "case"
        (do let p ← inner.code .pattern
            let filter ← (do keyword "when"; inner.code (.expression true)) <|> pure []
            punctNot ":" ":"
            pure (p ++ filter)) <|>
        (do let code ← inner.code (.expression true)
            punctNot ":" ":"
            pure code))
  let body ← many (inner.code .statement)
  pure (label ++ body.flatten)

def usingStatement (inner : Inner) : Reader Code := do
  discard (maybe (keyword "await"))
  keyword "using"
  punct "("
  let resource ←
    (do let code ← declaredVariables inner; punct ")"; pure code) <|>
    (do let code ← inner.code (.expression true); punct ")"; pure code)
  pure (resource ++ (← inner.code .statement))

def foreachStatement (inner : Inner) : Reader Code := do
  discard (maybe (keyword "await"))
  keyword "foreach"
  let header ← foreachHeader inner
  pure (header ++ (← inner.code .statement))

/-- A statement that its first word tells, once that word has been taken. -/
def keywordStatement (inner : Inner) : String → Option (Reader Code)
  | "break" | "continue" => some (do punct ";"; pure [])
  | "do" => some do
    let body ← inner.code .statement
    keyword "while"
    let test ← parenCondition inner
    punct ";"
    pure (body ++ test)
  | "for" => some do
    let header ← forHeader inner
    pure (header ++ (← inner.code .statement))
  | "return" | "throw" => some do
    let code ← inner.code (.expression true) <|> pure []
    punct ";"
    pure code
  | "lock" | "while" => some do
    let head ← parenCondition inner
    pure (head ++ (← inner.code .statement))
  | "if" => some do
    let test ← parenCondition inner
    let yes ← inner.code .statement
    let no ← (do keyword "else"; inner.code .statement) <|> pure []
    pure (test ++ yes ++ no)
  | "switch" => some do
    let (_, head) ← parenthesized inner
    punct "\x7b"
    let sections ← many (switchSection inner)
    punct "\x7d"
    pure (head ++ sections.flatten)
  | "try" => some do
    let body ← block inner
    let catches ← many (catchClause inner)
    let final ← (do keyword "finally"; block inner) <|> pure []
    pure (body ++ catches.flatten ++ final)
  | "goto" => some do
    discard (maybe (keyword "case" <|> keyword "default"))
    let code ← inner.code (.expression true) <|> pure []
    punct ";"
    pure code
  | "fixed" => some do
    punct "("
    let pins ← declaredVariables inner
    punct ")"
    pure (pins ++ (← inner.code .statement))
  | "yield" => some do
    let code ← (do keyword "return"; inner.code (.expression true)) <|> (do keyword "break"; pure [])
    punct ";"
    pure code
  | "unsafe" | "checked" | "unchecked" => some (block inner)
  | _ => none

/-- Words that begin only one kind of statement. -/
def committedWords : List String :=
  ["break", "continue", "do", "for", "return", "throw", "lock", "while", "if", "switch", "try",
   "goto"]

/-- Words that end a list of statements. -/
def closingWords : List String := ["case", "else", "catch", "finally", "in", "is", "as"]

def statementRule (inner : Inner) : Reader Code := do
  match ← peek with
  | some '{' => block inner <|> expressionStatement inner
  | some ';' => do punct ";"; pure []
  | some '#' => do pure [← conditional (inner.code .items) .conditional]
  | some '[' => localFunction inner <|> expressionStatement inner
  | some '}' => failure
  | none => failure
  | _ =>
    let w := (← peekWord).getD ""
    if closingWords.contains w then failure
    else if w == "default" && (← canRead (do discard word; punct ":")) then failure
    else if committedWords.contains w then do
      match keywordStatement inner w with
      | some tail => discard word; tail
      | none => failure
    else
      (do discard word
          match keywordStatement inner w with
          | some tail => tail
          | none => failure) <|>
      usingStatement inner <|>
      foreachStatement inner <|>
      (do guard (w == "new" || w == "await"); expressionStatement inner) <|>
      (do discard identifier
          punctNot ":" ":"
          inner.code .statement) <|>
      localFunction inner <|>
      localVariables inner <|>
      expressionStatement inner

end BindingDocs.Source
