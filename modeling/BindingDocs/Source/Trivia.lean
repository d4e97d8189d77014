import BindingDocs.Source.Item
import BindingDocs.Text.NameChar
import BindingDocs.Text.Reader
import BindingDocs.Text.Search

/-! What may stand between any two tokens: blanks, comments and the line directives that do not
select declarations. -/
namespace BindingDocs.Source
open BindingDocs.Text

def isSpace (c : Char) : Bool :=
  let n := c.toNat
  (9 ≤ n && n ≤ 13) || n == 0x20 || n == 0xA0 || n == 0xFEFF || n == 0x3000

/-- The text after the comment at the front, if there is one. A line comment ends before its
line end. -/
def afterComment? : List Char → Option (List Char)
  | '/' :: '/' :: s => some (s.dropWhile fun c => c ≠ '\n' && c ≠ '\r')
  | '/' :: '*' :: s => (cut ['*', '/'] s).map (·.2)
  | _ => none

def hexDigits (s : List Char) (n : Nat) : Bool :=
  let d := s.take n
  d.length == n && d.all fun c => c.isDigit || ('a' ≤ c.toLower && c.toLower ≤ 'f')

/-- What follows a character escape: four hexadecimal digits behind `u`, or eight behind `U`. -/
def afterEscape? : List Char → Option (List Char)
  | '\\' :: 'u' :: s => if hexDigits s 4 then some (s.drop 4) else none
  | '\\' :: 'U' :: s => if hexDigits s 8 then some (s.drop 8) else none
  | _ => none

/-- What follows one character of a name. -/
def afterNameChar? (ok : Char → Bool) (s : List Char) : Option (List Char) :=
  match s with
  | [] => none
  | c :: r => if ok c then some r else afterEscape? s

/-- What follows the longest run of characters that continue a name. -/
def afterNameTail : Nat → List Char → List Char
  | 0, s => s
  | n + 1, s => match afterNameChar? isNameContinue s with
    | some r => afterNameTail n r
    | none => s

/-- What follows the word at the front: a name, perhaps with an `@` before it. -/
def afterWord? (s : List Char) : Option (List Char) := do
  let body := match s with
    | '@' :: r => r
    | _ => s
  let r ← afterNameChar? (fun c => isNameStart c || c == '_') body
  pure (afterNameTail r.length r)

namespace Trivia

/-- Skip comments and the characters in `blank`, for at most `n` comments or blanks. -/
def skipOver (blank : Char → Bool) : Nat → List Char → List Char
  | 0, s => s
  | n + 1, s => match s with
    | [] => []
    | c :: r =>
      if blank c then skipOver blank n r
      else match afterComment? s with
        | some r => skipOver blank n r
        | none => s

/-- Blanks and comments, over line ends. -/
def gap : Reader Unit := do set (skipOver isSpace (← get).length (← get))

/-- Blanks and comments on the same line. -/
def lineGap : Reader Unit := do
  set (skipOver (fun c => isSpace c && c ≠ '\n') (← get).length (← get))

/-- The text `t`, wherever the reader stands. -/
def literally (t : String) : Reader Unit := fun s =>
  (dropStart? t.toList s).map fun r => ((), r)

def directiveWord : Reader String := do
  let s ← get
  match afterWord? s with
  | some r => set r; pure (String.ofList (s.take (s.length - r.length)))
  | none => failure

def digits : Reader Unit := fun s =>
  match s with
  | c :: r => if c.isDigit then some ((), r.dropWhile fun d => d.isDigit || d == '_') else none
  | [] => none

def quoted : Reader Unit := do
  literally "\""
  set ((← get).dropWhile fun c => c ≠ '"' && c ≠ '\n')
  literally "\""

/-- The end of a free argument: a slash takes the character after it along unless that begins a
block comment, and a backslash hides a line end. -/
def argumentTail : Nat → List Char → List Char
  | 0, s => s
  | n + 1, s => match s with
    | [] => []
    | '\\' :: '\n' :: r => argumentTail n r
    | '\\' :: '\r' :: '\n' :: r => argumentTail n r
    | '/' :: c :: r => if c = '*' then s else argumentTail n r
    | c :: r => if c = '\n' || c = '/' then s else argumentTail n r

def argument : Reader Unit := fun s =>
  match s with
  | c :: r => if isSpace c then none else some ((), argumentTail r.length r)
  | [] => none

/-- One of some words. -/
def oneOf (ws : List String) : Reader Unit := do guard (ws.contains (← directiveWord))

def lineEnd : Reader Unit := do lineGap; literally "\n"

/-- A position of a line directive: a line and a column in parentheses. -/
def position : Reader Unit := do
  literally "("; gap; digits; gap; literally ","; gap; digits; gap; literally ")"

/-- What follows the name of a directive, up to and with its line end. -/
def directiveBody : String → Option (Reader Unit)
  | "region" | "endregion" => some do
    lineGap
    discard (Reader.maybe argument)
    lineEnd
  | "error" | "warning" | "define" | "undef" => some do gap; argument; lineEnd
  | "nullable" => some do
    gap; oneOf ["enable", "disable", "restore"]; lineGap
    discard (Reader.maybe (oneOf ["annotations", "warnings"]))
    lineEnd
  | "pragma" => some do
    gap
    let code : Reader Unit := (discard directiveWord <|> digits)
    (do oneOf ["warning"]; gap; oneOf ["disable", "restore"]; lineGap
        discard (Reader.maybe (Reader.sepBy1 code (do lineGap; literally ","; gap)))
        lineEnd) <|>
    (do oneOf ["checksum"]; gap; quoted; gap; quoted; gap; quoted; lineEnd)
  | "line" => some do
    gap
    (do oneOf ["default", "hidden"]; lineEnd) <|>
    (do digits; lineGap; discard (Reader.maybe quoted); lineEnd) <|>
    (do position; gap; literally "-"; gap; position; gap
        discard (Reader.maybe digits); gap; quoted; lineEnd)
  | _ => none

def directiveNames : List String :=
  ["region", "endregion", "line", "pragma", "nullable", "error", "warning", "define", "undef"]

/-- A whole directive that selects nothing. -/
def directive : Reader Unit := do
  literally "#"
  set ((← get).dropWhile fun c => c == ' ' || c == '\t')
  directiveNames.foldr (fun name other =>
    (do literally name
        match directiveBody name with
        | some body => body
        | none => failure) <|> other) failure

/-- The comments and directives at the front of a text, and what follows them and the blanks
around them. -/
def collect : Nat → List Char → List Item × List Char
  | 0, s => ([], s)
  | n + 1, s => match s with
    | [] => ([], [])
    | c :: r =>
      if isSpace c then collect n r
      else match afterComment? s with
        | some r =>
          let more := collect n r
          (.comment (String.ofList (s.take (s.length - r.length))) :: more.1, more.2)
        | none =>
          if c = '#' then match directive s with
            | some (_, r) =>
              let more := collect n r
              (.other [] :: more.1, more.2)
            | none => ([], s)
          else ([], s)

/-- Skip everything that may stand between two tokens. -/
def skip : Nat → List Char → List Char
  | 0, s => s
  | n + 1, s => match s with
    | [] => []
    | c :: r =>
      if isSpace c then skip n r
      else match afterComment? s with
        | some r => skip n r
        | none =>
          if c = '#' then match directive s with
            | some (_, r) => skip n r
            | none => s
          else s

end Trivia

/-- The comments and directives before the next token. -/
def leading : Reader (List Item) := fun s => some (Trivia.collect s.length s)

/-- Go to the next token. -/
def skip : Reader Unit := do set (Trivia.skip (← get).length (← get))

end BindingDocs.Source
