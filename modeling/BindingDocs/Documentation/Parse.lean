import BindingDocs.Documentation.Comment
import BindingDocs.Markup.Tree
import BindingDocs.Text.Blank

/-! Reading documentation comments. -/
namespace BindingDocs.Documentation
open BindingDocs.Markup BindingDocs.Text

/-- The short name of a reference target: without its kind, its parameters and its path. -/
def targetName (target : String) : String :=
  let cs := target.toList
  let path := match cutAt ':' cs with
    | some (kind, rest) => if (String.ofList kind).utf8ByteSize = 1 then rest else cs
    | none => cs
  String.ofList (afterLast '.' (path.takeWhile (· ≠ '(')))

def attribute? (attributes : List (String × String)) (name : String) : Option String :=
  (attributes.find? (·.1 = name)).map (·.2)

/-- What an element without content shows: the target or the word of a reference. -/
def referenceText (attributes : List (String × String)) : String :=
  match attribute? attributes "cref" with
  | some target => targetName target
  | none => (attribute? attributes "langword").getD ""

mutual

/-- The text a node shows. References show names, all other elements what they contain. -/
def nodeText : Node → List Char
  | .text t => t
  | .mark => []
  | .element name attributes children =>
    if (name = "see" || name = "seealso") && children.isEmpty then (referenceText attributes).toList
    else if name = "paramref" || name = "typeparamref" then
      ((attribute? attributes "name").getD "").toList
    else nodesText children

def nodesText : List Node → List Char
  | [] => []
  | n :: ns => nodeText n ++ nodesText ns

end

def tagOf (name : String) (attributes : List (String × String)) : Tag :=
  match name with
  | "summary" => .summary
  | "returns" => .returns
  | "remarks" => .remarks
  | "value" => .value
  | "param" => .param ((attribute? attributes "name").getD "")
  | other => .other other

/-- The entry that an element makes, if it shows anything but blanks. -/
def entryOf? : Node → Option Entry
  | .element name attributes children =>
    let text := trim (nodesText children)
    if text.isEmpty then none else some ⟨tagOf name attributes, String.ofList text⟩
  | _ => none

/-- A comment whose markup is not well formed is kept as one summary. -/
def plainEntries (raw : String) : List Entry :=
  let text := trimmed raw
  if text.isEmpty then [] else [⟨.summary, text⟩]

def isWellFormed (raw : String) : Bool := (fragment? raw.toList).isSome

/-- Read a documentation comment. -/
def Comment.parse (raw : String) : Comment :=
  match fragment? raw.toList with
  | some nodes => ⟨raw, nodes.filterMap entryOf?⟩
  | none => ⟨raw, plainEntries raw⟩

end BindingDocs.Documentation
