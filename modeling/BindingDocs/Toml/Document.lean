/-! Documents of tables: values under keys, and how headers and dotted keys build them up. -/
namespace BindingDocs.Toml

/-- How a table came to be. -/
inductive Origin where
  /-- By a header of its own. -/
  | header
  /-- By standing on the path of another header. -/
  | implied
  /-- By standing on the path of a dotted key. -/
  | dotted
  /-- By being written as a value. -/
  | inline
  deriving Repr, DecidableEq

inductive Item where
  | string (s : String)
  /-- A number, a truth value, a date or a time. -/
  | scalar
  | array (items : List Item)
  | table (origin : Origin) (entries : List (String × Item))
  /-- Tables that follow each other under one kind of header. -/
  | tables (elements : List (List (String × Item)))
  deriving Repr

abbrev Entries := List (String × Item)

namespace Entries

def get? (es : Entries) (key : String) : Option Item := (es.find? (·.1 == key)).map (·.2)

/-- Put an item under a key, in place of the one that is there. -/
def put (es : Entries) (key : String) (item : Item) : Entries :=
  if es.any (·.1 == key) then es.map fun e => if e.1 == key then (key, item) else e
  else es ++ [(key, item)]

end Entries

/-- Change the entries of the table at the end of a path. Tables missing on the path are made. A
path of a dotted key may only lead through tables that no header has made, and a path of a header
enters the last of several tables. -/
def alterAt (byDots : Bool) (f : Origin → Entries → Option Entries) :
    List String → Origin → Entries → Option Entries
  | [], origin, es => f origin es
  | key :: path, _, es =>
    match es.get? key with
    | none =>
      let made := if byDots then .dotted else .implied
      (alterAt byDots f path made []).map fun inner => es.put key (.table made inner)
    | some (.table origin inner) =>
      if origin = .inline || (byDots && origin = .header) then none
      else (alterAt byDots f path origin inner).map fun inner => es.put key (.table origin inner)
    | some (.tables elements) =>
      match elements.getLast? with
      | some last => (alterAt byDots f path .header last).map fun last =>
        es.put key (.tables (elements.dropLast ++ [last]))
      | none => none
    | some _ => none

/-- A dotted key: the path to a table and a key in it. -/
structure Key where
  path : List String
  last : String
  deriving Repr, DecidableEq

/-- Add a value under a dotted key. No key is given twice, and a key without dots and one with dots
do not meet in one table. -/
def assign (origin : Origin) (es : Entries) (key : Key) (item : Item) : Option Entries :=
  alterAt true (fun o inner =>
    if (o == .dotted) == key.path.isEmpty then none
    else if (inner.get? key.last).isSome then none
    else some (inner.put key.last item)) key.path origin es

def assignAll (origin : Origin) (es : Entries) (values : List (Key × Item)) : Option Entries :=
  values.foldlM (fun es v => assign origin es v.1 v.2) es

/-- The values under one header. -/
structure Section where
  key : Key
  repeated : Bool
  values : List (Key × Item)

/-- Add a section to a document. A header may give a table of its own to a name that only paths of
other headers have used. -/
def Section.addTo (s : Section) (es : Entries) : Option Entries :=
  alterAt false (fun _ inner =>
    if s.repeated then
      (assignAll .header [] s.values).bind fun values =>
        match inner.get? s.key.last with
        | none => some (inner.put s.key.last (.tables [values]))
        | some (.tables elements) => some (inner.put s.key.last (.tables (elements ++ [values])))
        | some _ => none
    else
      match inner.get? s.key.last with
      | none => (assignAll .header [] s.values).map fun values =>
        inner.put s.key.last (.table .header values)
      | some (.table .implied old) => (assignAll .header old s.values).map fun values =>
        inner.put s.key.last (.table .header values)
      | some _ => none) s.key.path .header es

/-- The document of the values before the first header and the sections after it. -/
def document (values : List (Key × Item)) (sections : List Section) : Option Entries :=
  (assignAll .header [] values).bind fun es => sections.foldlM (fun es s => s.addTo es) es

end BindingDocs.Toml
