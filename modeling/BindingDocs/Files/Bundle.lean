import BindingDocs.Files.Walk

/-! Bundles: many files in one text. Each file is a line with its number of characters and its path,
then its text and a line end. -/
namespace BindingDocs.Files
open BindingDocs.Text

abbrev Bundle := List (String × String)

namespace Bundle

def renderFile (f : String × String) : String :=
  toString f.2.length ++ " " ++ f.1 ++ "\n" ++ f.2 ++ "\n"

def render (b : Bundle) : String := String.join (b.map renderFile)

/-- The first file of a bundle, and what follows it. -/
def parseFile? (s : List Char) : Option ((String × String) × List Char) := do
  let (header, body) ← cutAt '\n' s
  let (count, path) ← cutAt ' ' header
  guard (!count.isEmpty && count.all Char.isDigit && !path.isEmpty)
  let n := count.foldl (fun n d => n * 10 + (d.toNat - '0'.toNat)) 0
  let text := body.take n
  guard (text.length = n)
  let rest ← dropStart? ['\n'] (body.drop n)
  pure ((String.ofList path, String.ofList text), rest)

/-- At most `n` files. -/
def parseFiles? : Nat → List Char → Option Bundle
  | _, [] => some []
  | 0, _ => none
  | n + 1, s => do
    let (f, rest) ← parseFile? s
    pure (f :: (← parseFiles? n rest))

def parse? (text : String) : Option Bundle := parseFiles? text.length text.toList

/-- The tree of the files of a bundle. -/
def tree (b : Bundle) : Except Problem Node :=
  b.foldlM (fun top f => top.write f.1 f.2) .empty

/-- The files of a tree that are texts. -/
def ofTree (n : Node) : Bundle :=
  (n.files [] "").filterMap fun f => f.text.map fun t => (f.path, t)

end Bundle
end BindingDocs.Files
