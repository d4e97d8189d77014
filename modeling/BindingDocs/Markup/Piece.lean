import BindingDocs.Text.Reader
import BindingDocs.Text.Search

/-! The pieces of a markup text: runs of text, tags, and marks without text. -/
namespace BindingDocs.Markup
open BindingDocs.Text Reader

/-- Blanks of the markup itself. -/
def isSpace (c : Char) : Bool := c == ' ' || c == '\t' || c == '\n' || c == '\r'

/-- Characters that may occur in a markup text. -/
def isAllowed (c : Char) : Bool :=
  if c.toNat < 0x20 then isSpace c else c.toNat ≠ 0xFFFE && c.toNat ≠ 0xFFFF

def isNameStart (c : Char) : Bool :=
  let n := c.toNat
  if n < 0x80 then c.isAlpha || c == '_' || c == ':'
  else (0xC0 ≤ n && n ≤ 0xD6) || (0xD8 ≤ n && n ≤ 0xF6) || (0xF8 ≤ n && n ≤ 0x2FF) ||
    (0x370 ≤ n && n ≤ 0x37D) || (0x37F ≤ n && n ≤ 0x1FFF) || (0x200C ≤ n && n ≤ 0x200D) ||
    (0x2070 ≤ n && n ≤ 0x218F) || (0x2C00 ≤ n && n ≤ 0x2FEF) || (0x3001 ≤ n && n ≤ 0xD7FF) ||
    (0xF900 ≤ n && n ≤ 0xFDCF) || (0xFDF0 ≤ n && n ≤ 0xFFFD) || (0x10000 ≤ n && n ≤ 0xEFFFF)

def isNameChar (c : Char) : Bool :=
  let n := c.toNat
  isNameStart c || c.isDigit || c == '-' || c == '.' || n == 0xB7 || (0x300 ≤ n && n ≤ 0x36F) ||
    (0x203F ≤ n && n ≤ 0x2040)

/-- A name with the part before its colon; the part is empty if there is none. -/
structure QName where
  space : String
  localName : String
  deriving Repr, DecidableEq

structure Attribute where
  name : QName
  value : String
  deriving Repr, DecidableEq

inductive Piece where
  | text (chars : List Char)
  | openTag (name : QName) (attributes : List Attribute) (selfClosing : Bool)
  | closeTag (name : QName)
  /-- A comment or an instruction. -/
  | mark
  deriving Repr, DecidableEq

/-! ### Characters written by reference -/

def digitValue? (base : Nat) (c : Char) : Option Nat :=
  let v? : Option Nat :=
    if c.isDigit then some (c.toNat - '0'.toNat)
    else if 'a' ≤ c.toLower && c.toLower ≤ 'f' then some (c.toLower.toNat - 'a'.toNat + 10)
    else none
  v?.bind fun v => if v < base then some v else none

/-- The character with a number; numbers that no character has stand for the replacement
character, and numbers of more than 32 bits for nothing. -/
def charOfNumber? (base : Nat) (digits : List Char) : Option Char :=
  let n := digits.foldl (fun n d => n * base + (digitValue? base d).getD 0) 0
  if digits.isEmpty || Nat.pow 2 32 ≤ n then none
  else
    let c := if n.isValidChar then Char.ofNat n else Char.ofNat 0xFFFD
    if isAllowed c then some c else none

def charOfName? : String → Option Char
  | "quot" => some '"'
  | "amp" => some '&'
  | "apos" => some '\''
  | "lt" => some '<'
  | "gt" => some '>'
  | _ => none

/-- The character that a reference stands for, and what follows its semicolon. The ampersand has
been taken. -/
def reference? (s : List Char) : Option (Char × List Char) :=
  match cutAt ';' s with
  | none => none
  | some ('#' :: 'x' :: digits, rest) =>
    if digits.all fun d => (digitValue? 16 d).isSome then
      (charOfNumber? 16 digits).map fun c => (c, rest)
    else none
  | some ('#' :: digits, rest) =>
    if digits.all fun d => (digitValue? 10 d).isSome then
      (charOfNumber? 10 digits).map fun c => (c, rest)
    else none
  | some (name, rest) => (charOfName? (String.ofList name)).map fun c => (c, rest)

/-- A run of text with its references replaced and its line ends made uniform. -/
def expandText : Nat → List Char → Option (List Char)
  | 0, s => if s.isEmpty then some [] else none
  | n + 1, s => match s with
    | [] => some []
    | '&' :: r => (reference? r).bind fun p => (expandText n p.2).map (p.1 :: ·)
    | '\r' :: '\n' :: r => (expandText n r).map ('\n' :: ·)
    | c :: r => (expandText n r).map ((if c = '\r' then '\n' else c) :: ·)

/-- The value of an attribute: references are replaced, written blanks become spaces. -/
def expandValue : Nat → List Char → Option (List Char)
  | 0, s => if s.isEmpty then some [] else none
  | n + 1, s => match s with
    | [] => some []
    | '&' :: r => (reference? r).bind fun p => (expandValue n p.2).map (p.1 :: ·)
    | '\r' :: '\n' :: r => (expandValue n r).map (' ' :: ·)
    | c :: r => (expandValue n r).map ((if isSpace c then ' ' else c) :: ·)

/-! ### Reading pieces -/

def spaces : Reader Unit := do set ((← get).dropWhile isSpace)

def symbol (t : String) : Reader Unit := fun s => (dropStart? t.toList s).map fun r => ((), r)

/-- Everything before `t`, and `t` itself. -/
def through (t : String) : Reader (List Char) := fun s => cut t.toList s

def qname : Reader QName := do
  let s ← get
  let run := s.takeWhile isNameChar
  set (s.drop run.length)
  let starts (p : List Char) : Bool := match p with
    | c :: _ => isNameStart c && c ≠ ':'
    | [] => false
  match splitAt ':' run with
  | [name] => do guard (starts name); pure ⟨"", String.ofList name⟩
  | [space, name] => do
    guard (space.isEmpty || starts space)
    guard (starts name)
    pure ⟨String.ofList space, String.ofList name⟩
  | _ => failure

def attribute? : Reader Attribute := do
  let name ← qname
  spaces
  symbol "="
  spaces
  let s ← get
  match s with
  | q :: r => do
    guard (q == '"' || q == '\'')
    let (value, rest) ← cutAt q r
    guard (!value.contains '<')
    let value ← expandValue value.length value
    set rest
    pure ⟨name, String.ofList value⟩
  | [] => failure

/-- Attributes with blanks before each of them. -/
def attributes : Reader (List Attribute) := many do
  let s ← get
  guard (match s with
    | c :: _ => isSpace c
    | [] => false : Bool)
  spaces
  attribute?

def openTag : Reader Piece := do
  let name ← qname
  let attrs ← attributes
  spaces
  (do symbol "/>"; pure (.openTag name attrs true)) <|>
  (do symbol ">"; pure (.openTag name attrs false))

def closeTag : Reader Piece := do
  symbol "</"
  let name ← qname
  spaces
  symbol ">"
  pure (.closeTag name)

def comment : Reader Piece := do
  symbol "<!--"
  let text ← through "-->"
  guard (!contains "--".toList text)
  guard (text.getLast? ≠ some '-')
  pure .mark

/-- An instruction. A declaration of the whole text may not stand inside it. -/
def instruction : Reader Piece := do
  guard (!"<?xml ".toList.isPrefixOf (← get))
  symbol "<?"
  match ← get with
  | c :: _ => guard (isNameStart c)
  | [] => failure
  discard (through "?>")
  pure .mark

def literalText : Reader Piece := do
  symbol "<![CDATA["
  let text ← through "]]>"
  let uniform (s : List Char) : List Char := replaceAll ['\r'] ['\n'] (replaceAll ['\r', '\n'] ['\n'] s)
  pure (.text (uniform text))

def plainText : Reader Piece := do
  let s ← get
  let run := s.takeWhile (· ≠ '<')
  guard (!run.isEmpty && !contains "]]>".toList run)
  let text ← expandText run.length run
  set (s.drop run.length)
  pure (.text text)

def piece : Reader Piece :=
  plainText <|> comment <|> literalText <|> instruction <|> closeTag <|> (do symbol "<"; openTag)

/-- The pieces of a whole text, or nothing if some part of it is none. -/
def pieces? (s : List Char) : Option (List Piece) := do
  guard (s.all isAllowed)
  let (ps, rest) ← (many piece).run s
  guard rest.isEmpty
  pure ps

end BindingDocs.Markup
