/-! Readers of text: a reader takes what it recognises off the front of the text, or fails
and leaves the text as it was. -/
namespace BindingDocs

abbrev Reader := StateT (List Char) Option

namespace Reader
variable {α β : Type}

/-- The text still to be read. -/
def rest : Reader (List Char) := get

/-- Read as often as possible, at most `n` times. -/
def upTo (p : Reader α) : Nat → Reader (List α)
  | 0 => pure []
  | n + 1 => (do let a ← p; let as ← upTo p n; pure (a :: as)) <|> pure []

/-- Read as often as possible. The reader must take at least one character each time. -/
def many (p : Reader α) : Reader (List α) := do upTo p (← rest).length

def maybe (p : Reader α) : Reader (Option α) := (some <$> p) <|> pure none

/-- One or more items with separators between them. -/
def sepBy1 (p : Reader α) (sep : Reader Unit) : Reader (List α) := do
  let a ← p
  let as ← many (sep *> p)
  pure (a :: as)

/-- Items with separators between them, possibly none. -/
def sepBy (p : Reader α) (sep : Reader Unit) : Reader (List α) := sepBy1 p sep <|> pure []

/-- Whether a reader would succeed here; nothing is taken. -/
def canRead (p : Reader α) : Reader Bool := fun s => some ((p s).isSome, s)

/-- The result of a reader together with the text it took. -/
def withText (p : Reader α) : Reader (α × String) := fun s =>
  (p s).map fun r => ((r.1, String.ofList (s.take (s.length - r.2.length))), r.2)

/-- The reader that gets further; the first one if both end at the same place. -/
def longer (p q : Reader α) : Reader α := fun s =>
  match p s, q s with
  | some a, some b => if b.2.length < a.2.length then some b else some a
  | some a, none => some a
  | none, b => b

end Reader
end BindingDocs
