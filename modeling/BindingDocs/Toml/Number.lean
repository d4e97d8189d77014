import BindingDocs.Text.Search

/-! Numbers, dates and times: only whether a text is one matters. -/
namespace BindingDocs.Toml
open BindingDocs.Text

/-- The digits at the front of a text, with single underscores between them, and the rest. An
underscore that no digit follows makes it no number. -/
def digitRun (ok : Char → Bool) : List Char → Option (List Char × List Char)
  | [] => none
  | [c] => if ok c then some ([c], []) else none
  | c :: d :: r =>
    if !ok c then none
    else if d = '_' then (digitRun ok r).map fun p => (c :: p.1, p.2)
    else if ok d then (digitRun ok (d :: r)).map fun p => (c :: p.1, p.2)
    else some ([c], d :: r)

def digitsValue (base : Nat) (ds : List Char) : Nat :=
  ds.foldl (fun n d =>
    let v := if d.isDigit then d.toNat - '0'.toNat else d.toLower.toNat - 'a'.toNat + 10
    n * base + v) 0

def isHex (c : Char) : Bool := c.isDigit || ('a' ≤ c.toLower && c.toLower ≤ 'f')

def isSign (c : Char) : Bool := c == '+' || c == '-'

/-- What follows a sign, and whether it is a minus. -/
def afterSign (s : List Char) : Bool × List Char :=
  match s with
  | '+' :: r => (false, r)
  | '-' :: r => (true, r)
  | _ => (false, s)

/-- The digits of a decimal integer: a zero alone, or no leading zero. -/
def decimalDigits (s : List Char) : Option (List Char × List Char) :=
  match s with
  | '0' :: r => some (['0'], r)
  | _ => digitRun Char.isDigit s

/-- The first number that no integer of 64 bits reaches. -/
def integerLimit : Nat := Nat.pow 2 63

/-- What follows an integer of 64 bits. -/
def afterInteger? (s : List Char) : Option (List Char) :=
  let based (mark : Char) (base : Nat) (ok : Char → Bool) : Option (Option (List Char)) :=
    match s with
    | '0' :: m :: r =>
      if m = mark then some ((digitRun ok r).bind fun p =>
        if digitsValue base p.1 < integerLimit then some p.2 else none)
      else none
    | _ => none
  match based 'x' 16 isHex <|> based 'o' 8 (fun c => '0' ≤ c && c ≤ '7') <|>
      based 'b' 2 (fun c => c == '0' || c == '1') with
  | some r => r
  | none =>
    let (minus, r) := afterSign s
    (decimalDigits r).bind fun p =>
      let v := digitsValue 10 p.1
      if v < integerLimit || (minus && v = integerLimit) then some p.2 else none

/-- Whether digits times a power of ten are too large for a double: they round beyond the largest
one from half a unit above it on. -/
def overflows (digits : List Char) (exponent : Int) : Bool :=
  let m := digitsValue 10 digits
  let size := (Nat.toDigits 10 m).length + exponent
  if m = 0 || size < 300 then false
  else if 320 < size then true
  else
    let bound := Nat.pow 2 1024 - Nat.pow 2 970
    if 0 ≤ exponent then bound ≤ m * Nat.pow 10 exponent.toNat
    else bound * Nat.pow 10 (-exponent).toNat ≤ m

/-- The exponent of a float and what follows it. -/
def exponent? : List Char → Option (Int × List Char)
  | c :: s =>
    if c == 'e' || c == 'E' then
      let (minus, r) := afterSign s
      (digitRun Char.isDigit r).map fun p =>
        let v : Int := digitsValue 10 p.1
        (if minus then -v else v, p.2)
    else none
  | [] => none

/-- What follows a float that is not too large. -/
def afterFloat? (s : List Char) : Option (List Char) :=
  let (_, r) := afterSign s
  match dropStart? "inf".toList r <|> dropStart? "nan".toList r with
  | some r => some r
  | none => do
    let (whole, r) ← decimalDigits r
    let (fraction, r') ← match r with
      | '.' :: r => do
        let (f, r) ← digitRun Char.isDigit r
        pure (f, r)
      | _ => do
        discard (exponent? r)
        pure ([], r)
    let (e, rest) := match exponent? r' with
      | some (e, rest) => (e, rest)
      | none => (0, r')
    if (rest.head?.map fun c => c == 'e' || c == 'E').getD false then none
    else if overflows (whole ++ fraction) (e - fraction.length) then none
    else pure rest

/-! ### Dates and times -/

/-- A number of exactly `n` digits between two bounds. -/
def field? (n lo hi : Nat) (s : List Char) : Option (Nat × List Char) :=
  let ds := s.take n
  if ds.length = n && ds.all Char.isDigit then
    let v := digitsValue 10 ds
    if lo ≤ v && v ≤ hi then some (v, s.drop n) else none
  else none

def isLeapYear (y : Nat) : Bool := y % 4 = 0 && (y % 100 ≠ 0 || y % 400 = 0)

def daysIn (year month : Nat) : Nat :=
  if month = 2 then (if isLeapYear year then 29 else 28)
  else if month = 4 || month = 6 || month = 9 || month = 11 then 30
  else 31

def expect? (c : Char) : List Char → Option (List Char)
  | d :: s => if d = c then some s else none
  | [] => none

def afterDate? (s : List Char) : Option (List Char) := do
  let (year, s) ← field? 4 0 9999 s
  let (month, s) ← field? 2 1 12 (← expect? '-' s)
  let (_, s) ← field? 2 1 (daysIn year month) (← expect? '-' s)
  pure s

def afterTime? (s : List Char) : Option (List Char) := do
  let (_, s) ← field? 2 0 23 s
  let (_, s) ← field? 2 0 59 (← expect? ':' s)
  let (_, s) ← field? 2 0 60 (← expect? ':' s)
  match s with
  | '.' :: r =>
    let rest := r.dropWhile Char.isDigit
    if rest.length < r.length then pure rest else none
  | _ => pure s

def afterOffset? : List Char → Option (List Char)
  | 'Z' :: s => some s
  | 'z' :: s => some s
  | c :: s =>
    if isSign c then do
      let (_, s) ← field? 2 0 23 s
      let (_, s) ← field? 2 0 59 (← expect? ':' s)
      pure s
    else none
  | [] => none

/-- What follows a date, a time, or both with an offset or without. -/
def afterDateTime? (s : List Char) : Option (List Char) :=
  match afterDate? s with
  | none => afterTime? s
  | some r =>
    match r with
    | c :: t =>
      if c == 'T' || c == 't' then (afterTime? t).map fun u => (afterOffset? u).getD u
      else if c == ' ' then match afterTime? t with
        | some u => some ((afterOffset? u).getD u)
        | none => some r
      else some r
    | [] => some r

/-- What follows a number, a truth value, a date or a time. -/
def afterScalar? (s : List Char) : Option (List Char) :=
  dropStart? "true".toList s <|> dropStart? "false".toList s <|>
    afterDateTime? s <|> afterFloat? s <|> afterInteger? s

end BindingDocs.Toml
