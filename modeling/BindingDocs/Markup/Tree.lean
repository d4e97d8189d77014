import BindingDocs.Markup.Piece

/-! Markup as a tree. -/
namespace BindingDocs.Markup

/-- Elements and attributes are known by their names without the part before the colon. -/
inductive Node where
  | text (chars : List Char)
  | element (name : String) (attributes : List (String × String)) (children : List Node)
  | mark
  deriving Repr

/-- The names that may stand before a colon, with what they are bound to. -/
abbrev Spaces := List (String × String)

/-- An element that has been opened: its children so far are in reverse order. -/
structure OpenElement where
  name : QName
  attributes : List (String × String)
  spaces : Spaces
  children : List Node

/-- The bindings that an element makes. -/
def declaredSpaces (attributes : List Attribute) : Spaces :=
  attributes.filterMap fun a =>
    if a.name.space = "xmlns" then some (a.name.localName, a.value)
    else if a.name.space = "" && a.name.localName = "xmlns" then some ("", a.value)
    else none

def isDeclaration (a : Attribute) : Bool :=
  a.name.space = "xmlns" || (a.name.space = "" && a.name.localName = "xmlns")

/-- What the part before a colon is bound to. -/
def resolve? (spaces : Spaces) (space : String) : Option String :=
  if space = "" then some ""
  else if space = "xml" then some "xml"
  else (spaces.find? (·.1 = space)).map (·.2)

/-- The attributes of an element and the bindings in force inside it, if no name is used twice and
every name is bound. -/
def enter? (outer : Spaces) (name : QName) (attributes : List Attribute) :
    Option (List (String × String) × Spaces) := do
  let own := declaredSpaces attributes
  guard (own.map (·.1)).Nodup
  guard (name.space ≠ "xmlns")
  let inScope := own ++ outer
  discard (resolve? inScope name.space)
  let proper := attributes.filter (!isDeclaration ·)
  let keys ← proper.mapM fun a => (resolve? inScope a.name.space).map fun u => (u, a.name.localName)
  guard keys.Nodup
  pure (proper.map fun a => (a.name.localName, a.value), inScope)

/-- Close the innermost open elements as the pieces say; the last of them stands for the whole. -/
def build? : List Piece → OpenElement → List OpenElement → Option (List Node)
  | [], top, [] => some top.children.reverse
  | [], _, _ :: _ => none
  | .text t :: ps, top, outer => build? ps { top with children := .text t :: top.children } outer
  | .mark :: ps, top, outer => build? ps { top with children := .mark :: top.children } outer
  | .openTag name attributes selfClosing :: ps, top, outer =>
    match enter? top.spaces name attributes with
    | none => none
    | some (own, spaces) =>
      if selfClosing then
        build? ps { top with children := .element name.localName own [] :: top.children } outer
      else build? ps ⟨name, own, spaces, []⟩ (top :: outer)
  | .closeTag name :: ps, top, outer =>
    match outer with
    | [] => none
    | parent :: rest =>
      if name = top.name then
        let node := .element top.name.localName top.attributes top.children.reverse
        build? ps { parent with children := node :: parent.children } rest
      else none

/-- The nodes of a well-formed fragment: its elements are closed in order, and it closes no element
that it has not opened. -/
def fragment? (s : List Char) : Option (List Node) := do
  build? (← pieces? s) ⟨⟨"", ""⟩, [], [], []⟩ []

end BindingDocs.Markup
