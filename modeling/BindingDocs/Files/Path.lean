import BindingDocs.Text.Search

/-! Paths of files: names with slashes between them. -/
namespace BindingDocs.Files
open BindingDocs.Text

/-- The path of a name below another path. -/
def joinPath (root name : String) : String :=
  if root = "" || root.toList.getLast? = some '/' then root ++ name else root ++ "/" ++ name

/-- The names along a path, with the steps that stay where they are left empty. -/
def steps (path : String) : List String := (splitAt '/' path.toList).map String.ofList

def isStay (step : String) : Bool := step = "" || step = "."

/-- The last name of a path. -/
def fileName (path : String) : String := String.ofList (afterLast '/' path.toList)

/-- What follows the last dot of a name. A dot at the front does not count. -/
def extension? (name : String) : Option String :=
  let cs := name.toList
  let ext := afterLast '.' cs
  if ext.length + 1 < cs.length then some (String.ofList ext) else none

end BindingDocs.Files
