/-! Finding, cutting and replacing inside texts. -/
namespace BindingDocs.Text

/-- Cut a text at the first place where `pat` stands: what is before it and what is after it. -/
def cut (pat : List Char) : List Char → Option (List Char × List Char)
  | [] => if pat.isEmpty then some ([], []) else none
  | c :: s =>
    if pat.isPrefixOf (c :: s) then some ([], (c :: s).drop pat.length)
    else (cut pat s).map fun r => (c :: r.1, r.2)

/-- Cut a text at the first `d`. -/
def cutAt (d : Char) : List Char → Option (List Char × List Char)
  | [] => none
  | c :: s => if c = d then some ([], s) else (cutAt d s).map fun r => (c :: r.1, r.2)

def contains (pat s : List Char) : Bool := (cut pat s).isSome

/-- The part of a text after its last `d`, or the whole text if it has none. -/
def afterLast (d : Char) (s : List Char) : List Char :=
  (s.reverse.takeWhile (· ≠ d)).reverse

/-- The pieces of a text between the occurrences of `d`: one more than there are occurrences. -/
def splitAt (d : Char) : List Char → List (List Char)
  | [] => [[]]
  | c :: s =>
    if c = d then [] :: splitAt d s
    else match splitAt d s with
      | [] => [[c]]
      | p :: ps => (c :: p) :: ps

/-- Skip `n` characters, replacing the rest of the work of `replaceAll`. -/
def replaceFrom (pat new : List Char) : Nat → List Char → List Char
  | _, [] => []
  | k + 1, _ :: s => replaceFrom pat new k s
  | 0, c :: s =>
    if pat.isPrefixOf (c :: s) then new ++ replaceFrom pat new (pat.length - 1) s
    else c :: replaceFrom pat new 0 s

/-- Replace every occurrence of the non-empty `pat`, from left to right, by `new`. -/
def replaceAll (pat new s : List Char) : List Char := replaceFrom pat new 0 s

/-- The rest of a text that begins with `start`. -/
def dropStart? (start s : List Char) : Option (List Char) :=
  if start.isPrefixOf s then some (s.drop start.length) else none

/-- The rest of a text that ends with `tail`. -/
def dropEnd? (tail s : List Char) : Option (List Char) :=
  if tail.isSuffixOf s then some (s.take (s.length - tail.length)) else none

/-- Letters of the basic alphabet are folded to lower case, all else is kept. -/
def foldAscii (s : String) : String := String.ofList (s.toList.map Char.toLower)

/-- Equality that ignores the case of the basic alphabet. -/
def sameIgnoringAsciiCase (a b : String) : Bool := foldAscii a == foldAscii b

/-- Texts joined by a separator. -/
def joinWith (sep : String) : List String → String
  | [] => ""
  | [s] => s
  | s :: t :: r => s ++ sep ++ joinWith sep (t :: r)

end BindingDocs.Text
