import BindingDocs.Source.Parameter

/-! Expressions. They are read from left to right without regard to the binding strength of
operators, which decides the tree of an expression but not whether it is one. -/
namespace BindingDocs.Source
open Reader

/-- Code between braces. -/
def block (inner : Inner) : Reader Code := do
  punct "\x7b"
  let code ← many (inner.code .statement)
  punct "\x7d"
  pure code.flatten

def initializer (inner : Inner) : Reader Code := bracketed "\x7b" "\x7d" (inner.code (.expression true))

/-! ### Strings with expressions inside -/

/-- How the text between the expressions of a string is written. -/
inductive Quoting where
  | plain
  | verbatim
  | raw (quotes dollars : Nat)

/-- An expression in a string, with its alignment and format. -/
def interpolation (inner : Inner) (braces : Nat) : Reader Code := do
  let value ← inner.code (.expression true)
  let alignment ← (do punct ","; inner.code (.expression true)) <|> pure []
  discard (maybe (do
    punct ":"
    let s ← get
    let rest := s.dropWhile fun c => c ≠ '}' && c ≠ '"'
    guard (rest.length < s.length)
    set rest))
  skip
  Trivia.literally (String.ofList (List.replicate braces '}'))
  pure (value ++ alignment)

/-- The rest of a string up to its closing quotes. -/
def interpolatedTail (inner : Inner) (quoting : Quoting) : Nat → Reader Code
  | 0 => failure
  | n + 1 => do
    let s ← get
    let next (r : List Char) : Reader Code := do set r; interpolatedTail inner quoting n
    let nested (braces : Nat) (r : List Char) : Reader Code := do
      set r
      let code ← interpolation inner braces
      pure (code ++ (← interpolatedTail inner quoting n))
    match quoting, s with
    | _, [] => failure
    | .plain, '"' :: r => set r; pure []
    | .plain, '{' :: '{' :: r => next r
    | .plain, '{' :: r => nested 1 r
    | .plain, '\\' :: _ :: r => next r
    | .plain, c :: r => if c = '\n' then failure else next r
    | .verbatim, '"' :: '"' :: r => next r
    | .verbatim, '"' :: r => set r; pure []
    | .verbatim, '{' :: '{' :: r => next r
    | .verbatim, '{' :: r => nested 1 r
    | .verbatim, _ :: r => next r
    | .raw quotes dollars, c :: r =>
      if c = '"' then
        let run := Literal.quotes s
        if quotes ≤ run then do set (s.drop quotes); pure []
        else next (s.drop run)
      else if c = '{' then
        let run := (s.takeWhile (· == '{')).length
        if dollars ≤ run then nested dollars (s.drop run) else next (s.drop run)
      else next r

def interpolatedString (inner : Inner) : Reader Code := do
  skip
  let s ← get
  let marks := s.takeWhile fun c => c == '$' || c == '@'
  let body := s.drop marks.length
  let quotes := Literal.quotes body
  guard (marks.contains '$' && 1 ≤ quotes)
  let fuel := s.length + 1
  if marks.contains '@' then do
    guard (marks.length = 2)
    set (body.drop 1)
    interpolatedTail inner .verbatim fuel
  else if 3 ≤ quotes then do
    set (body.drop quotes)
    interpolatedTail inner (.raw quotes marks.length) fuel
  else do
    guard (marks.length = 1)
    set (body.drop 1)
    interpolatedTail inner .plain fuel

/-! ### Arrow functions and anonymous methods -/

def arrowBody (inner : Inner) (arrows : Bool) : Reader Code := do
  punct "=>"
  block inner <|> inner.code (.expression arrows)

/-- A function written with an arrow; the type of its result may stand before its parameters. -/
def arrowFunction (inner : Inner) : Reader Code := do
  let lists ← attributes inner
  discard (many (keyword "static" <|> keyword "async"))
  let header ←
    (do discard identifier
        guard (← ahead "=>")
        pure []) <|>
    (do pure (← parameterList inner).2) <|>
    (do let type ← inner.code .type
        pure (type ++ (← parameterList inner).2))
  pure (lists ++ header ++ (← arrowBody inner true))

def anonymousMethod (inner : Inner) : Reader Code := do
  discard (many (keyword "static" <|> keyword "async"))
  keyword "delegate"
  let params ← (do pure (← parameterList inner).2) <|> pure []
  pure (params ++ (← block inner))

/-! ### Queries -/

def inClause (inner : Inner) : Reader Code := do
  let type ← (do
      let code ← inner.code .type
      discard identifier
      keyword "in"
      pure code) <|> (do discard identifier; keyword "in"; pure [])
  pure (type ++ (← inner.code (.expression true)))

def fromClause (inner : Inner) : Reader Code := do keyword "from"; inClause inner

def queryClause (inner : Inner) : Reader Code := do
  let expression := inner.code (.expression true)
  match ← peekWord with
  | some "from" => fromClause inner
  | some "join" => do
    discard word
    let source ← inClause inner
    keyword "on"
    let left ← expression
    keyword "equals"
    let right ← expression
    discard (maybe (do keyword "into"; discard identifier))
    pure (source ++ left ++ right)
  | some "let" => do discard word; discard identifier; punctNot "=" "=>"; expression
  | some "orderby" => do
    discard word
    commaList do
      let code ← expression
      discard (maybe (keyword "ascending" <|> keyword "descending"))
      pure code
  | some "where" => do discard word; expression
  | _ => failure

/-- Clauses up to and with the one that gives the result. -/
def queryPart (inner : Inner) : Reader Code := do
  let expression := inner.code (.expression true)
  let clauses ← many (queryClause inner)
  let result ←
    (do keyword "select"; expression) <|>
    (do keyword "group"; let what ← expression; keyword "by"; pure (what ++ (← expression)))
  pure (clauses.flatten ++ result)

def query (inner : Inner) : Reader Code := do
  let source ← fromClause inner
  let first ← queryPart inner
  let others ← many (do keyword "into"; discard identifier; queryPart inner)
  pure (source ++ first ++ others.flatten)

/-! ### Operands -/

/-- What stands behind the word `new`. -/
def creation (inner : Inner) : Reader Operand := do
  let initialized := initializer inner <|> pure []
  match ← peek with
  | some '{' => do
    let member : Reader Code :=
      (do discard identifier; punctNot "=" "=>"; inner.code (.expression true)) <|>
        inner.code (.expression true)
    pure (.value, ← bracketed "\x7b" "\x7d" member)
  | some '[' => do
    punct "["
    discard (many (punct ","))
    punct "]"
    pure (.value, ← initializer inner)
  | some '(' =>
    (do let arguments ← argumentList inner
        pure (.value, arguments ++ (← initialized))) <|> typed
  | _ => typed
where
  typed : Reader Operand := do
    let type ← inner.code .type
    let arguments ← argumentList inner <|> pure []
    let values ← initializer inner <|> pure []
    pure (.action, type ++ arguments ++ values)

def stackArray (inner : Inner) : Reader Code :=
  (do punct "["; punct "]"; initializer inner) <|>
  (do let (form, type) ← formedType inner
      guard (form == .array)
      pure (type ++ (← initializer inner <|> pure [])))

/-- A type argument list counts as one in an expression only before certain tokens. -/
def genericEnds : List String :=
  ["(", ")", "]", "\x7d", ":", ";", ",", ".", "?", "==", "!=", "|", "^", "&", "[", "=>"]

def genericSuffix (inner : Inner) : Reader Code :=
  (do let code ← typeArguments inner
      skip
      let s ← get
      guard (s.isEmpty || genericEnds.any fun t => t.toList.isPrefixOf s)
      pure code) <|> pure []

def memberName (inner : Inner) : Reader Code := do
  discard word
  genericSuffix inner

/-- A cast: the type in parentheses is certain, or a word, a literal or a sign follows that cannot
continue an expression. -/
def castPrefix (inner : Inner) : Reader Code := do
  punct "("
  let (form, code) ← formedType inner
  punct ")"
  skip
  let w ← peekWord
  match form, (← get).head? with
  | .named, some c =>
    guard (match w with
      | some w => !continuingWords.contains w
      | none => "\"'$@!~".toList.contains c || c.isDigit : Bool)
    guard (!"!=".toList.isPrefixOf (← get))
  | _, _ => pure ()
  pure code

/-- An expression in parentheses, or a tuple. -/
def parenthesized (inner : Inner) : Reader Operand :=
  (do punct "("
      let (use, code) ← inner (.expression true)
      punct ")"
      pure (if use = .place then .place else .action, code)) <|>
  (do punct "("
      let first ← argument inner
      punct ","
      let others ← commaList (argument inner)
      punct ")"
      pure (.place, first ++ others))

/-- The operators that may stand before an operand, longest first. -/
def prefixSigns : List String := ["++", "--", "+", "-", "!", "~", "&", "^"]

def firstSign (signs : List String) : Reader Unit :=
  signs.foldr (fun t other => punct t <|> other) failure

/-- An operand that begins with a word. -/
def wordOperand (inner : Inner) (arrows : Bool) (w : String) : Reader Operand := do
  let expression := inner.code (.expression true)
  let typeInParens : Reader Code := inParens (inner.code .type)
  match w with
  | "this" => do discard word; pure (.place, [])
  | "base" | "null" | "true" | "false" => do discard word; pure (.value, [])
  | "default" => do
    discard word
    pure (.value, ← if ← ahead "(" then typeInParens else pure [])
  | "typeof" | "sizeof" => do discard word; pure (.value, ← typeInParens)
  | "checked" | "unchecked" | "__makeref" | "__reftype" => do
    discard word
    pure (.value, ← inParens expression)
  | "__refvalue" => do
    discard word
    punct "("
    let value ← expression
    punct ","
    let type ← inner.code .type
    punct ")"
    pure (.value, value ++ type)
  | "new" => do discard word; creation inner
  | "stackalloc" => do discard word; pure (.value, ← stackArray inner)
  | "await" => do discard word; pure (.action, ← inner.code (.operand arrows))
  | "throw" | "ref" => do discard word; pure (.value, ← inner.code (.expression arrows))
  | "delegate" => do pure (.value, ← anonymousMethod inner)
  | "static" | "async" =>
    (do pure (.value, ← anonymousMethod inner)) <|>
    (do pure (.value, ← arrowFunction inner)) <|> named
  | "from" => (do pure (.value, ← query inner)) <|> named
  | _ => named
where
  named : Reader Operand := do
    if arrows && (← canRead (do discard identifier; punct "=>")) then
      pure (.value, ← arrowFunction inner)
    else if predefinedTypes.contains w then
      (do guard arrows; pure (.value, ← arrowFunction inner)) <|> do
        discard word
        punctNot "." "."
        pure (.place, ← memberName inner)
    else
      (do discard identifier
          punct "::"
          let first ← simpleName inner
          punctNot "." "." <|> punct "->"
          pure (.place, first ++ (← memberName inner))) <|>
      (do guard arrows
          guard (← canRead (do discard identifier; punct "("))
          pure (.value, ← arrowFunction inner)) <|>
      (do discard identifier
          pure (.place, ← genericSuffix inner))

/-- An operand without the signs behind it. -/
def primary (inner : Inner) (arrows : Bool) : Reader Operand := do
  match ← peek with
  | some '#' => pure (.value, ← codeRegion (inner.code (.expression true)))
  | some '{' => pure (.value, ← initializer inner)
  | some '[' =>
    (do pure (.value, ← arrowFunction inner)) <|>
    (do pure (.place, ← bracketedArguments inner))
  | some '(' =>
    (do guard arrows
        pure (.value, ← arrowFunction inner)) <|>
    (do let type ← castPrefix inner
        pure (.value, type ++ (← inner.code (.operand arrows)))) <|>
    parenthesized inner
  | some '*' => do punct "*"; inner (.target arrows)
  | some _ =>
    (do literal; pure (.value, [])) <|>
    (do pure (.value, ← interpolatedString inner)) <|>
    (do punct ".."
        pure (.value, ← inner.code (.operand arrows) <|> pure [])) <|>
    (do firstSign prefixSigns
        pure (.action, ← inner.code (.operand arrows))) <|>
    (do match ← peekWord with
        | some w => wordOperand inner arrows w
        | none => failure)
  | none => failure

def switchArm (inner : Inner) : Reader Code := do
  let p ← inner.code .pattern
  let filter ← (do keyword "when"; inner.code (.expression false)) <|> pure []
  punct "=>"
  pure (p ++ filter ++ (← inner.code (.expression true)))

def withInitializer (inner : Inner) : Reader Code := do
  discard identifier
  punctNot "=" "=>"
  inner.code (.expression true)

def ternary (inner : Inner) (arrows : Bool) : Reader Code := do
  punctNot "?" "?"
  let yes ← inner.code (.expression true)
  punct ":"
  pure (yes ++ (← inner.code (.expression arrows)))

/-- A selection or call behind an operand. -/
def selection (inner : Inner) : Reader Operand := do
  match ← peek with
  | some '.' => do punctNot "." "."; pure (.place, ← memberName inner)
  | some '-' => do punct "->"; pure (.place, ← memberName inner)
  | some '(' => pure (.action, ← argumentList inner)
  | some '[' => pure (.place, ← bracketedArguments inner)
  | some '?' =>
    (do punctNot "?" "?"
        punctNot "." ".0123456789"
        pure (.value, ← memberName inner)) <|>
    (do guard (← canRead (do punctNot "?" "?"; punct "["))
        guard (!(← canRead (ternary inner true)))
        punct "?"
        pure (.value, ← bracketedArguments inner))
  | some 's' => do keyword "switch"; pure (.value, ← bracketed "\x7b" "\x7d" (switchArm inner))
  | some 'w' => do keyword "with"; pure (.value, ← bracketed "\x7b" "\x7d" (withInitializer inner))
  | _ => failure

/-- A sign, a selection or a call behind an operand. -/
def postfixPart (inner : Inner) : Reader Operand :=
  (do firstSign ["++", "--"] <|> punctNot "!" "="; pure (.action, [])) <|> selection inner

/-- An operand with its selections that is a place. -/
def targetRule (inner : Inner) (arrows : Bool) : Reader Operand := do
  let (use, code) ← primary inner arrows
  let selections ← many (selection inner)
  guard ((selections.getLast?.map (·.1)).getD use = .place)
  pure (.place, code ++ (selections.map (·.2)).flatten)

def assignmentSign : Reader Unit :=
  punctNot "=" "=>" <|>
  firstSign ["+=", "-=", "*=", "/=", "%=", "&=", "^=", "|=", "<<=", ">>>=", ">>=", "??="]

/-- An operand with all that is bound to it more tightly than by an operator, and the value
assigned to it. -/
def operandRule (inner : Inner) (arrows : Bool) : Reader Operand := do
  let (use, code) ← primary inner arrows
  let suffixes ← many (postfixPart inner)
  let use := (suffixes.getLast?.map (·.1)).getD use
  let code := code ++ (suffixes.map (·.2)).flatten
  (do guard (use = .place)
      assignmentSign
      pure (.action, code ++ (← inner.code (.expression arrows)))) <|> pure (use, code)

/-- Operators between two operands, each with the characters that must not follow it. -/
def binarySigns : List (String × String) :=
  [("&&", ""), ("||", ""), ("??", "="), ("==", ""), ("!=", ""), ("<=", ""), (">=", ""),
   ("<<", "="), (">>>", "="), (">>", "="), ("<", ""), (">", ""), ("+", "=+"), ("-", "=->"),
   ("*", "="), ("/", "="), ("%", "="), ("&", "="), ("^", "="), ("|", "=")]

def binarySign : Reader Unit :=
  binarySigns.foldr (fun t other => punctNot t.1 t.2 <|> other) failure

/-- The type behind `as` or in a pattern; a question mark after it begins a choice if it can. -/
def testedType (inner : Inner) : Reader Code :=
  (do let (_, base) ← baseType inner
      let ranks ← many (rankSpecifier inner)
      guard (← canRead (ternary inner true))
      pure (base ++ ranks.flatten)) <|> inner.code .type

/-- What may follow an operand and turns it into part of a larger expression. -/
def continuation (inner : Inner) (arrows : Bool) : Reader Code := do
  match ← peekWord with
  | some "is" => do discard word; inner.code .pattern
  | some "as" => do discard word; testedType inner
  | some _ => do pure (← postfixPart inner).2
  | none =>
    (do binarySign; pure (← operandRule inner arrows).2) <|>
    (do punct ".."; (do pure (← operandRule inner arrows).2) <|> pure []) <|>
    ternary inner arrows <|>
    (do pure (← postfixPart inner).2)

def expressionRule (inner : Inner) (arrows : Bool) : Reader Operand := do
  let (use, code) ← operandRule inner arrows
  let more ← many (continuation inner arrows)
  pure (if more.isEmpty then use else .value, code ++ more.flatten)

end BindingDocs.Source
