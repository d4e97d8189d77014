import BindingDocs.Text.Reader
import BindingDocs.Toml.Document
import BindingDocs.Toml.Number

/-! Reading documents of tables. -/
namespace BindingDocs.Toml
open BindingDocs.Text Reader

def symbol (t : String) : Reader Unit := fun s => (dropStart? t.toList s).map fun r => ((), r)

def blanks : Reader Unit := do set ((← get).dropWhile fun c => c == ' ' || c == '\t')

def newline : Reader Unit := symbol "\n" <|> symbol "\r\n"

/-- Characters that stand for themselves on one line. -/
def isPlain (c : Char) : Bool := c == '\t' || (0x20 ≤ c.toNat && c.toNat ≤ 0x7E) || 0x80 ≤ c.toNat

def comment : Reader Unit := do
  symbol "#"
  set ((← get).dropWhile isPlain)

/-- Blanks, comments and line ends. -/
def spread : Reader Unit := do
  blanks
  discard (many do
    discard (maybe comment)
    newline
    blanks)

/-! ### Strings -/

/-- The character of an escape, and what follows it. The backslash has been taken. -/
def escaped? : List Char → Option (Char × List Char)
  | 'b' :: s => some (Char.ofNat 8, s)
  | 't' :: s => some ('\t', s)
  | 'n' :: s => some ('\n', s)
  | 'f' :: s => some (Char.ofNat 12, s)
  | 'r' :: s => some ('\r', s)
  | '"' :: s => some ('"', s)
  | '\\' :: s => some ('\\', s)
  | 'u' :: s => coded 4 s
  | 'U' :: s => coded 8 s
  | _ => none
where
  coded (n : Nat) (s : List Char) : Option (Char × List Char) :=
    let ds := s.take n
    let v := digitsValue 16 ds
    if ds.length = n && ds.all isHex && v.isValidChar then some (Char.ofNat v, s.drop n) else none

/-- The rest of a string on one line, up to its closing quote. -/
def basicTail : Nat → List Char → Option (List Char × List Char)
  | 0, _ => none
  | n + 1, s => match s with
    | [] => none
    | '"' :: r => some ([], r)
    | '\\' :: r => (escaped? r).bind fun e => (basicTail n e.2).map fun p => (e.1 :: p.1, p.2)
    | c :: r => if isPlain c then (basicTail n r).map fun p => (c :: p.1, p.2) else none

def literalTail (s : List Char) : Option (List Char × List Char) :=
  let body := s.takeWhile fun c => isPlain c && c ≠ '\''
  (dropStart? ['\''] (s.drop body.length)).map fun r => (body, r)

/-- The rest after an opening of three quotes loses a line end at its front. -/
def dropFirstNewline (s : List Char) : List Char :=
  match s with
  | '\n' :: r => r
  | '\r' :: '\n' :: r => r
  | _ => s

/-- Quotes at the end of a string over several lines: the last three close it, and up to two more
belong to it. -/
def closing? (q : Char) (s : List Char) : Option (List Char × List Char) :=
  let run := (s.takeWhile (· == q)).length
  if run < 3 then none
  else
    let n := min run 5
    some (List.replicate (n - 3) q, s.drop n)

/-- What follows a backslash at the end of a line: blanks and line ends are left out, at least one
line end among them. -/
def afterLineJoin? (s : List Char) : Option (List Char) :=
  let r := s.dropWhile fun c => c == ' ' || c == '\t'
  let isBreak := match r with
    | '\n' :: _ => true
    | '\r' :: '\n' :: _ => true
    | _ => false
  if isBreak then some (joined r.length r) else none
where
  joined : Nat → List Char → List Char
    | 0, s => s
    | n + 1, s => match s with
      | '\r' :: '\n' :: r => joined n r
      | c :: r => if c == ' ' || c == '\t' || c == '\n' then joined n r else s
      | [] => []

/-- The rest of a string over several lines; escapes count only between double quotes. -/
def multilineTail (q : Char) : Nat → List Char → Option (List Char × List Char)
  | 0, _ => none
  | n + 1, s =>
    match closing? q s with
    | some r => some r
    | none => match s with
      | [] => none
      | '\r' :: '\n' :: r => (multilineTail q n r).map fun p => ('\n' :: p.1, p.2)
      | c :: r =>
        if c = '\\' && q = '"' then
          match afterLineJoin? r with
          | some r => multilineTail q n r
          | none => (escaped? r).bind fun e =>
            (multilineTail q n e.2).map fun p => (e.1 :: p.1, p.2)
        else if isPlain c || c = '\n' then
          (multilineTail q n r).map fun p => (c :: p.1, p.2)
        else none

def taken (tail : List Char → Option (List Char × List Char)) : Reader String := do
  let (text, rest) ← tail (← get)
  set rest
  pure (String.ofList text)

def simpleString : Reader String :=
  (do symbol "\""; taken fun s => basicTail (s.length + 1) s) <|>
  (do symbol "'"; taken literalTail)

def anyString : Reader String :=
  (do symbol "\"\"\""
      taken fun s => multilineTail '"' (s.length + 1) (dropFirstNewline s)) <|>
  (do symbol "'''"
      taken fun s => multilineTail '\'' (s.length + 1) (dropFirstNewline s)) <|>
  (do guard (!"\"\"\"".toList.isPrefixOf (← get) && !"'''".toList.isPrefixOf (← get))
      simpleString)

/-! ### Keys and values -/

def bareKey : Reader String := do
  let s ← get
  let name := s.takeWhile fun c => c.isAlphanum || c == '_' || c == '-'
  guard (!name.isEmpty)
  set (s.drop name.length)
  pure (String.ofList name)

/-- How deep arrays, tables and keys may be nested. -/
def depthLimit : Nat := 80

def key : Reader Key := do
  let names ← sepBy1 (blanks *> (bareKey <|> simpleString) <* blanks) (symbol ".")
  guard (names.length < depthLimit)
  match names.getLast? with
  | some last => pure ⟨names.dropLast, last⟩
  | none => failure

def scalar : Reader Item := do
  match afterScalar? (← get) with
  | some r => set r; pure .scalar
  | none => failure

def array (value : Reader Item) : Reader Item := do
  symbol "["
  spread
  let items ← sepBy (do let v ← value; spread; pure v) (symbol "," *> spread)
  discard (maybe (do guard (!items.isEmpty); symbol ","; spread))
  symbol "]"
  pure (.array items)

def inlineTable (value : Reader Item) : Reader Item := do
  symbol "\x7b"
  blanks
  let pairs ← sepBy (do
    let k ← key
    symbol "="
    blanks
    let v ← value
    blanks
    pure (k, v)) (symbol ",")
  symbol "\x7d"
  match assignAll .inline [] pairs with
  | some es => pure (.table .inline es)
  | none => failure

/-- A value with at most `n` arrays and tables around its innermost part. -/
def value : Nat → Reader Item
  | 0 => (.string <$> anyString) <|> scalar
  | n + 1 => do
    match (← get).head? with
    | some '[' => array (value n)
    | some '{' => inlineTable (value n)
    | _ => (.string <$> anyString) <|> scalar

def assignment : Reader (Key × Item) := do
  let k ← key
  symbol "="
  blanks
  let v ← value (depthLimit - 1)
  pure (k, v)

/-! ### Lines -/

/-- What a line says. -/
inductive Line where
  | nothing
  | assignment (key : Key) (item : Item)
  | header (key : Key) (repeated : Bool)

def lineEnd : Reader Unit := do
  blanks
  discard (maybe comment)
  newline <|> do guard (← get).isEmpty

def line : Reader Line := do
  guard (!(← get).isEmpty)
  blanks
  let l ←
    (do symbol "[["; let k ← key; symbol "]]"; pure (.header k true)) <|>
    (do guard (!"[[".toList.isPrefixOf (← get))
        symbol "["; let k ← key; symbol "]"; pure (.header k false)) <|>
    (do let (k, v) ← assignment; pure (.assignment k v)) <|>
    pure .nothing
  lineEnd
  pure l

/-- Group lines under their headers. -/
def sections : List Line → List (Key × Item) × List Section
  | [] => ([], [])
  | l :: ls =>
    let (values, rest) := sections ls
    match l with
    | .nothing => (values, rest)
    | .assignment k v => ((k, v) :: values, rest)
    | .header k repeated => ([], ⟨k, repeated, values⟩ :: rest)

/-- The entries of a document, or nothing if the text is none. -/
def parse? (text : String) : Option Entries := do
  let s := text.toList
  let body := match s with
    | c :: r => if c.toNat = 0xFEFF then r else s
    | [] => s
  let (ls, rest) ← (many line).run body
  guard rest.isEmpty
  let (values, secs) := sections ls
  document values secs

end BindingDocs.Toml
