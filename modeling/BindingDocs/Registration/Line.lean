import BindingDocs.Text.Blank
import BindingDocs.Text.Search

/-! Lines of registration code: what a line declares, and the names inside it. -/
namespace BindingDocs.Registration
open BindingDocs.Text

/-- The scripting languages that classes are bound to. -/
inductive Dialect where
  | javascript
  | python
  deriving Repr, DecidableEq

def Dialect.name : Dialect → String
  | javascript => "javascript"
  | python => "python"

def Dialect.ofName? : String → Option Dialect
  | "javascript" => some javascript
  | "python" => some python
  | _ => none

/-- What a line declares. -/
inductive LineKind where
  | classOpen (dialect : Dialect)
  | enumOpen
  | constructor
  | property
  | operator
  | method (isStatic : Bool)
  | value
  | terminator
  | other
  deriving Repr, DecidableEq

def starts (mark : String) (line : List Char) : Bool := mark.toList.isPrefixOf line

def holds (mark : String) (line : List Char) : Bool := contains mark.toList line

/-- The kind of a line without blanks at its ends; the first rule that fits decides. -/
def kindOfTrimmed (line : List Char) : LineKind :=
  if starts "class_" line then .classOpen .javascript
  else if starts "py::class_" line then .classOpen .python
  else if starts "enum_" line then .enumOpen
  else if starts ".constructor" line || holds "py::init<" line then .constructor
  else if starts ".property" line || starts ".def_property" line then .property
  else if holds "py::self" line then .operator
  else if starts ".function" line || starts ".def(" line then .method false
  else if starts ".class_function" line || starts ".def_static" line then .method true
  else if starts ".value" line then .value
  else if starts ";" line then .terminator
  else .other

def classify (line : String) : LineKind := kindOfTrimmed (trim line.toList)

/-- A delimiter that a line lacks. -/
inductive Delimiter where
  | quote
  | angleLeft
  | angleRight
  | symbolEnd
  deriving Repr, DecidableEq

def Delimiter.text : Delimiter → String
  | quote => "'\"'"
  | angleLeft => "'<'"
  | angleRight => "'>'"
  | symbolEnd => "',' or ')'"

/-- What a line is expected to hold, or the delimiter it lacks. -/
abbrev Found := Except Delimiter

/-- Cut at a delimiter that must be there. -/
def cutOr (d : Char) (missing : Delimiter) (s : List Char) : Found (List Char × List Char) :=
  match cutAt d s with
  | some r => .ok r
  | none => .error missing

/-- The text between the first two quotes. -/
def quotedIn (line : List Char) : Found String := do
  let (_, rest) ← cutOr '"' .quote line
  let (text, _) ← cutOr '"' .quote rest
  pure (String.ofList text)

def firstQuoted (line : String) : Found String := quotedIn line.toList

/-- The base class that a declaration names, without its native mark. -/
def baseClass (dialect : Dialect) (line : String) : Found (Option String) :=
  match dialect with
  | .javascript => match cut "base<BND_".toList line.toList with
    | none => .ok none
    | some (_, rest) => do
      let (name, _) ← cutOr '>' .angleRight rest
      pure (some (String.ofList name))
  | .python => .ok do
    let (_, rest) ← cutAt ',' line.toList
    let (_, rest) ← cut "BND_".toList rest
    let (name, _) ← cutAt '>' rest
    pure (String.ofList name)

/-- Native geometry types go by their reference names. -/
def normalizeType : String → String
  | "ON_3dPoint" => "Point3d"
  | "ON_3dVector" => "Vector3d"
  | other => other

/-- What follows the mark before the parameter types of a constructor. -/
def typeListStart (line : List Char) : Found (List Char) :=
  match cut "py::init<".toList line with
  | some (_, rest) =>
    if starts ".constructor" line then (cutOr '<' .angleLeft line).map (·.2) else .ok rest
  | none => (cutOr '<' .angleLeft line).map (·.2)

/-- The parameter types of a constructor. -/
def constructorTypes (line : String) : Found (List String) := do
  let rest ← typeListStart line.toList
  let (list, _) ← cutOr '>' .angleRight rest
  let types := trim list
  if types.isEmpty then pure []
  else pure ((splitAt ',' types).map fun t => normalizeType (String.ofList (trim t)))

/-- The native function a method is bound to, from the first ampersand to the next comma, or else to
the next parenthesis. Without an ampersand it is empty. -/
def nativeSymbol (line : String) : Found String :=
  match cutAt '&' line.toList with
  | none => .ok ""
  | some (_, rest) => do
    let (symbol, _) ← match cutAt ',' rest with
      | some r => .ok r
      | none => cutOr ')' .symbolEnd rest
    pure (String.ofList (trim ('&' :: symbol)))

def argNamesIn : List Char → Found (List String)
  | [] => .ok []
  | c :: s =>
    if starts "py::arg" (c :: s) then do
      let name ← quotedIn (c :: s)
      pure (name :: (← argNamesIn s))
    else argNamesIn s

/-- The names of the arguments of a method, in order. -/
def argNames (line : String) : Found (List String) := argNamesIn line.toList

end BindingDocs.Registration
