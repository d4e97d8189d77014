import BindingDocs.Files.Tree
import BindingDocs.Text.LowerCase

/-! The source files below a root, in the order in which they are read. -/
namespace BindingDocs.Files
open BindingDocs.Text

structure SourceFile where
  path : String
  /-- The text, if the bytes are one. -/
  text : Option String
  deriving Repr, DecidableEq

namespace SourceFile

def name (f : SourceFile) : String := fileName f.path

/-- Whether the extension is one of the given ones, in any case. -/
def hasExtension (extensions : List String) (f : SourceFile) : Bool :=
  match extension? f.name with
  | some e => extensions.any (sameIgnoringAsciiCase · e)
  | none => false

/-- Whether the name begins with a mark, in any case. No name begins with the empty mark. -/
def isMarked (mark : String) (f : SourceFile) : Bool :=
  mark ≠ "" && (lowerCase mark).toList.isPrefixOf (lowerCase f.name).toList

end SourceFile

/-- Insert a named value before the first one with a greater name. -/
def insertByName {α : Type} (e : String × α) : List (String × α) → List (String × α)
  | [] => [e]
  | x :: xs => if e.1 < x.1 then e :: x :: xs else x :: insertByName e xs

def sortByName {α : Type} (es : List (String × α)) : List (String × α) :=
  es.foldl (fun sorted e => insertByName e sorted) []

mutual

/-- The files of a tree in depth-first order, the entries of a directory by name. Directories with
skipped names are left out, but the root is not. -/
def Node.files (skipped : List String) (path : String) : Node → List SourceFile
  | .file text => [⟨path, text⟩]
  | .dir entries => (sortByName (entryFiles skipped path entries)).flatMap (·.2)

/-- The files of each entry of a directory. -/
def entryFiles (skipped : List String) (path : String) :
    List (String × Node) → List (String × List SourceFile)
  | [] => []
  | (name, n) :: rest =>
    (name, if n.isDir && skipped.contains name then [] else n.files skipped (joinPath path name)) ::
      entryFiles skipped path rest

end

/-- The source files of a tree. -/
def Node.sources (skipped extensions : List String) (path : String) (n : Node) : List SourceFile :=
  (n.files skipped path).filter (·.hasExtension extensions)

end BindingDocs.Files
