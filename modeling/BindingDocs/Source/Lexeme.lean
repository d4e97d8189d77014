import BindingDocs.Source.Trivia

/-! Words, literals and punctuation. -/
namespace BindingDocs.Source
open BindingDocs.Text

/-- The character at the next token. -/
def peek : Reader (Option Char) := do skip; pure (← get).head?

/-- Whether the next token begins with `t`. -/
def ahead (t : String) : Reader Bool := do skip; pure (t.toList.isPrefixOf (← get))

def punct (t : String) : Reader Unit := do skip; Trivia.literally t

/-- Punctuation that no character of `stop` follows. -/
def punctNot (t stop : String) : Reader Unit := do
  punct t
  match (← get).head? with
  | some c => guard (!stop.toList.contains c)
  | none => pure ()

def word : Reader String := do skip; Trivia.directiveWord

def peekWord : Reader (Option String) := do
  let s ← get
  let w ← Reader.maybe word
  set s
  pure w

def keyword (k : String) : Reader Unit := do guard ((← word) == k)

def aheadWord (k : String) : Reader Bool := do pure ((← peekWord) == some k)

/-- Words that are never names inside code. -/
def reservedWords : List String :=
  ["abstract", "as", "await", "base", "bool", "break", "byte", "case", "catch", "char", "checked",
   "class", "const", "continue", "decimal", "default", "delegate", "do", "double", "else", "enum",
   "event", "explicit", "extern", "false", "finally", "fixed", "float", "for", "foreach", "goto",
   "if", "implicit", "in", "int", "interface", "internal", "is", "lock", "long", "namespace", "new",
   "nint", "nuint", "null", "object", "operator", "out", "override", "params", "private",
   "protected", "public", "readonly", "ref", "return", "sbyte", "sealed", "short", "sizeof",
   "stackalloc", "static", "string", "struct", "switch", "this", "throw", "true", "try", "typeof",
   "uint", "ulong", "unchecked", "unsafe", "ushort", "using", "virtual", "void", "volatile",
   "while", "__makeref", "__reftype", "__refvalue"]

def predefinedTypes : List String :=
  ["bool", "byte", "char", "decimal", "double", "float", "int", "long", "object", "sbyte", "short",
   "string", "uint", "ulong", "ushort", "nint", "nuint", "void"]

/-- Words that continue an expression, a pattern or a query, and so do not name what follows a
type or a parenthesis. -/
def continuingWords : List String :=
  ["is", "as", "switch", "with", "and", "or", "when", "in", "select", "where", "orderby", "group",
   "join", "let", "from", "into", "on", "equals", "by", "ascending", "descending"]

def modifierWords : List String :=
  ["abstract", "async", "const", "extern", "file", "fixed", "internal", "new", "override",
   "partial", "private", "protected", "public", "readonly", "required", "sealed", "static",
   "unsafe", "virtual", "volatile"]

/-- A name inside code. -/
def identifier : Reader String := do
  let w ← word
  guard (!reservedWords.contains w)
  pure w

/-- A name of something that is declared by it. The word `with` behind a name goes on with an
expression. -/
def newName : Reader String := do
  let w ← identifier
  guard (w != "with")
  pure w

/-- A name of something that a pattern binds. -/
def boundName : Reader String := do
  let w ← identifier
  guard (!continuingWords.contains w)
  pure w

namespace Literal

/-- Digits with underscores between them. -/
def afterDigits? (s : List Char) : Option (List Char) :=
  match s with
  | c :: _ =>
    if c.isDigit then
      let run := s.takeWhile fun d => d.isDigit || d == '_'
      some (s.drop (run.reverse.dropWhile (· == '_')).length)
    else none
  | [] => none

def afterExponent? : List Char → Option (List Char)
  | e :: s =>
    if e == 'e' || e == 'E' then
      let s' := match s with
        | c :: r => if c == '+' || c == '-' then r else s
        | [] => s
      match s' with
      | c :: r => if c.isDigit then some (r.dropWhile fun d => d.isDigit || d == '_') else none
      | [] => none
    else none
  | [] => none

def dropAny (cs : String) : List Char → List Char
  | [] => []
  | c :: s => if cs.toList.contains c then s else c :: s

def realSuffix (s : List Char) : List Char := dropAny "fFdDmM" s

def integerSuffix (s : List Char) : List Char :=
  match s with
  | c :: r =>
    if c == 'u' || c == 'U' then dropAny "lL" r
    else if c == 'l' || c == 'L' then dropAny "uU" r
    else s
  | [] => []

/-- Digits of another base behind `0x` or `0b`; the last one is no underscore. -/
def afterBased? (mark : Char) (ok : Char → Bool) : List Char → Option (List Char)
  | '0' :: m :: s =>
    if m.toLower = mark then
      let run := s.takeWhile fun d => ok d || d == '_'
      let n := (run.reverse.dropWhile (· == '_')).length
      if n = 0 then none else some (s.drop n)
    else none
  | _ => none

def isHexDigit (c : Char) : Bool := c.isDigit || ('a' ≤ c.toLower && c.toLower ≤ 'f')

/-- What follows a number. -/
def afterNumber? (s : List Char) : Option (List Char) :=
  match afterBased? 'x' isHexDigit s <|> afterBased? 'b' (fun c => c == '0' || c == '1') s with
  | some r => some (integerSuffix r)
  | none =>
    match s with
    | '.' :: r => (afterDigits? r).map fun r => realSuffix ((afterExponent? r).getD r)
    | _ => do
      let r ← afterDigits? s
      let point : Option (List Char) := match r with
        | '.' :: r => (afterDigits? r).map fun r => realSuffix ((afterExponent? r).getD r)
        | _ => none
      match point, afterExponent? r with
      | some r, _ => some r
      | none, some r => some (realSuffix r)
      | none, none =>
        let r' := realSuffix r
        if r'.length < r.length then some r' else some (integerSuffix r)

/-- What follows the closing quote of a plain string; a backslash takes any character along. -/
def afterString? : Nat → List Char → Option (List Char)
  | 0, _ => none
  | n + 1, s => match s with
    | [] => none
    | '"' :: r => some r
    | '\\' :: _ :: r => afterString? n r
    | c :: r => if c = '\n' || c = '\\' then none else afterString? n r

/-- What follows the closing quote of a verbatim string, in which a quote is written twice. -/
def afterVerbatim? : Nat → List Char → Option (List Char)
  | 0, _ => none
  | n + 1, s => match s with
    | [] => none
    | '"' :: '"' :: r => afterVerbatim? n r
    | '"' :: r => some r
    | _ :: r => afterVerbatim? n r

def quotes (s : List Char) : Nat := (s.takeWhile (· == '"')).length

/-- A string may be followed by its encoding. -/
def encodingSuffix (s : List Char) : List Char :=
  match s with
  | 'u' :: '8' :: r => r
  | 'U' :: '8' :: r => r
  | _ => s

/-- What follows a string between three or more quotes, with no blanks skipped before it. -/
def afterRaw? (s : List Char) : Option (List Char) :=
  let n := quotes s
  if n < 3 then none
  else (cut (List.replicate n '"') (s.drop n)).bind fun p =>
    if p.1.isEmpty then none else some p.2

def afterChar? : List Char → Option (List Char)
  | '\'' :: '\\' :: s => match s with
    | 'x' :: r =>
      let n := ((r.take 4).takeWhile isHexDigit).length
      if n = 0 then none else dropStart? ['\''] (r.drop n)
    | 'u' :: r => if hexDigits r 4 then dropStart? ['\''] (r.drop 4) else none
    | 'U' :: r => if hexDigits r 8 then dropStart? ['\''] (r.drop 8) else none
    | c :: r => if "abefnrtv'\"\\?0".toList.contains c then dropStart? ['\''] r else none
    | [] => none
  | '\'' :: c :: '\'' :: r => if c = '\'' then none else some r
  | _ => none

/-- What follows a literal that holds no expressions: a number, a character or a string. -/
def after? (s : List Char) : Option (List Char) :=
  match s with
  | '"' :: r =>
    if 3 ≤ quotes s then (afterRaw? s).map encodingSuffix
    else (afterString? (r.length + 1) r).map encodingSuffix
  | '@' :: '"' :: r => (afterVerbatim? (r.length + 1) r).map encodingSuffix
  | '\'' :: _ => afterChar? s
  | _ => afterNumber? s

end Literal

/-- A literal that holds no expressions. -/
def literal : Reader Unit := do
  skip
  match Literal.after? (← get) with
  | some r => set r
  | none => failure

end BindingDocs.Source
