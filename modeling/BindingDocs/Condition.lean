import BindingDocs.Text.Search

/-! Conditions over defined symbols. -/
namespace BindingDocs.Condition

inductive Token where
  | name (s : String)
  | not
  | and
  | or
  | eq
  | ne
  | left
  | right
  deriving Repr, DecidableEq

def isNameChar (c : Char) : Bool := c.isAlphanum || c == '_'

/-- The tokens of a condition up to a line comment, with the name read so far in reverse; nothing
if some character belongs to no token. -/
def tokensFrom (seen : List Char) : List Char → Option (List Token)
  | '/' :: '/' :: _ => some (flush [])
  | '!' :: '=' :: s => (tokensFrom [] s).map fun ts => flush (.ne :: ts)
  | '&' :: '&' :: s => (tokensFrom [] s).map fun ts => flush (.and :: ts)
  | '|' :: '|' :: s => (tokensFrom [] s).map fun ts => flush (.or :: ts)
  | '=' :: '=' :: s => (tokensFrom [] s).map fun ts => flush (.eq :: ts)
  | [] => some (flush [])
  | c :: s =>
    if isNameChar c then tokensFrom (c :: seen) s
    else if c = '!' then (tokensFrom [] s).map fun ts => flush (.not :: ts)
    else if c = '(' then (tokensFrom [] s).map fun ts => flush (.left :: ts)
    else if c = ')' then (tokensFrom [] s).map fun ts => flush (.right :: ts)
    else if c = ' ' || c = '\t' || c = '\r' || c = '\n' then (tokensFrom [] s).map flush
    else none
where
  flush (ts : List Token) : List Token :=
    if seen.isEmpty then ts else .name (String.ofList seen.reverse) :: ts

def tokens? (s : String) : Option (List Token) := tokensFrom [] s.toList

/-- The value of a name. -/
def nameValue (defined : List String) : String → Bool
  | "true" => true
  | "false" => false
  | symbol => defined.contains symbol

/-- The levels of binding, from the loosest: `||`, `&&`, the equalities, and single operands. -/
inductive Level where
  | disjunction
  | conjunction
  | equality
  | operand
  deriving Repr, DecidableEq

abbrev Result := Option (Bool × List Token)

mutual

/-- The value of a phrase of a given level at the front of the tokens, and what follows it. The
number bounds the steps. -/
def value? (defined : List String) : Nat → Level → List Token → Result
  | 0, _, _ => none
  | n + 1, .disjunction, ts =>
    (value? defined n .conjunction ts).bind fun r => more? defined n .disjunction r.1 r.2
  | n + 1, .conjunction, ts =>
    (value? defined n .equality ts).bind fun r => more? defined n .conjunction r.1 r.2
  | n + 1, .equality, ts =>
    (value? defined n .operand ts).bind fun r => more? defined n .equality r.1 r.2
  | n + 1, .operand, ts => match ts with
    | .not :: ts => (value? defined n .operand ts).map fun r => (!r.1, r.2)
    | .left :: ts => (value? defined n .disjunction ts).bind fun r => match r.2 with
      | .right :: rest => some (r.1, rest)
      | _ => none
    | .name s :: ts => some (nameValue defined s, ts)
    | _ => none

/-- The value of a chain that begins with a value and goes on with operators of a level. -/
def more? (defined : List String) : Nat → Level → Bool → List Token → Result
  | 0, _, _, _ => none
  | n + 1, .disjunction, v, .or :: ts =>
    (value? defined n .conjunction ts).bind fun r => more? defined n .disjunction (v || r.1) r.2
  | n + 1, .conjunction, v, .and :: ts =>
    (value? defined n .equality ts).bind fun r => more? defined n .conjunction (v && r.1) r.2
  | n + 1, .equality, v, .eq :: ts =>
    (value? defined n .operand ts).bind fun r => more? defined n .equality (v == r.1) r.2
  | n + 1, .equality, v, .ne :: ts =>
    (value? defined n .operand ts).bind fun r => more? defined n .equality (v != r.1) r.2
  | _ + 1, _, v, ts => some (v, ts)

end

/-- Whether a condition holds, or nothing if it is no condition. -/
def evaluate (condition : String) (defined : List String) : Option Bool := do
  let ts ← tokens? condition
  match value? defined (5 * ts.length + 5) .disjunction ts with
  | some (v, []) => some v
  | _ => none

end BindingDocs.Condition
