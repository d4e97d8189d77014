import BindingDocs.Source.Lexeme

/-! The kinds of phrase that contain each other, and the parts they share. Code matters only
for what it holds: a phrase of code is read as the list of conditional regions inside it. -/
namespace BindingDocs.Source
open Reader

/-- The kinds of phrase that occur inside themselves. Expressions and operands in front of an arrow
that is not their own are read without arrow functions. A target is an operand that a pointer star
may stand before. -/
inductive Category where
  | type
  | expression (arrows : Bool)
  | operand (arrows : Bool)
  | target (arrows : Bool)
  | pattern
  | statement
  | members
  | items
  deriving DecidableEq

/-- The regions under a condition that stand inside a phrase. -/
abbrev Code := List Item

/-- What an expression may be used as: a place that can be assigned to, an action that can stand as
a statement, or only a value. -/
inductive Use where
  | place
  | action
  | value
  deriving DecidableEq

abbrev Operand := Use × Code

/-- How the smaller phrases inside a phrase are read. -/
abbrev Inner := Category → Reader Operand

/-- A smaller phrase whose use does not matter. -/
def Inner.code (inner : Inner) (c : Category) : Reader Code := Prod.snd <$> inner c

/-- One or more phrases between commas. -/
def commaList (p : Reader Code) : Reader Code := do
  pure (← sepBy1 p (punct ",")).flatten

/-- Phrases between commas and enclosed in brackets, perhaps with a comma at the end. -/
def bracketed (left right : String) (p : Reader Code) : Reader Code := do
  punct left
  let code ← commaList p <|> pure []
  discard (maybe (punct ","))
  punct right
  pure code

def inParens (p : Reader Code) : Reader Code := do
  punct "("
  let code ← p
  punct ")"
  pure code

/-! ### Conditional regions -/

def directiveMark (name : String) : Reader Unit := do
  punct "#"
  set ((← get).dropWhile fun c => c == ' ' || c == '\t')
  Trivia.literally name

/-- An operand of a condition: signs, then a name, a number, a character or a group. -/
def conditionOperand (group : Reader Unit) : Reader Unit := do
  discard (many (punctNot "!" "="))
  skip
  (do punct "("; group; punct ")") <|> discard word <|> literal

def conditionOperator : Reader Unit :=
  punct "||" <|> punct "&&" <|> punct "==" <|> punct "!="

/-- A group inside a condition, nested at most `n` deep. -/
def conditionGroup : Nat → Reader Unit
  | 0 => failure
  | n + 1 => do
    skip
    discard (sepBy1 (conditionOperand (conditionGroup n)) conditionOperator)

/-- The text of a condition. Outside of groups a line end closes it. -/
def condition : Reader String := do
  skip
  let depth := (← get).length
  let operand := conditionOperand (conditionGroup depth)
  let operator : Reader Unit := do
    Trivia.lineGap
    guard ((← get).head? ≠ some '\n')
    conditionOperator
  let (_, text) ← withText (sepBy1 operand operator)
  Trivia.lineEnd
  pure text

/-- The region between `#if` and `#endif`. Each branch is read by `branch`, and `build` makes the
result of a condition, its branch and what stands in its place when it does not hold. -/
def conditional (branch : Reader Code) (build : String → Code → Code → Item) : Reader Item := do
  directiveMark "if"
  let c ← condition
  let body ← branch
  let elifs ← many do
    directiveMark "elif"
    let c ← condition
    let body ← branch
    pure (c, body)
  let last ← (do directiveMark "else"; branch) <|> pure []
  directiveMark "endif"
  let alternative := elifs.foldr (fun e alt => [.conditional e.1 e.2 alt]) last
  pure (build c body alternative)

/-- A region under a condition inside code. -/
def codeRegion (branch : Reader Code) : Reader Code := do
  pure [← conditional (branch <|> pure []) .conditional]

end BindingDocs.Source
