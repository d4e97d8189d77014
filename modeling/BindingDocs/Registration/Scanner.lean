import BindingDocs.Log
import BindingDocs.Registration.BindingSet
import BindingDocs.Text.Lines

/-! Scanning registration code line by line. -/
namespace BindingDocs.Registration
open BindingDocs.Text

/-- The registries so far, and the declaration that member lines belong to. -/
structure Scanner where
  set : BindingSet
  cursor : Option Entity

/-- Why a line cannot be scanned. -/
inductive LineError where
  | missing (delimiter : Delimiter)
  | duplicate (registry name : String)
  deriving Repr, DecidableEq

namespace Scanner

def new : Scanner := ⟨.empty, none⟩

instance : Inhabited Scanner := ⟨new⟩

/-- Register the declaration that is open, if any. -/
def close (s : Scanner) : Scanner :=
  match s.cursor with
  | some e => ⟨s.set.insert e, none⟩
  | none => s

/-- The registries with the declaration that is still open. -/
def finish (s : Scanner) : BindingSet := s.close.set

/-- Names for internal use only. -/
def isHidden (name : String) : Bool := starts "__" name.toList

/-- Begin a declaration. A hidden one gets no members and is not registered. -/
def begin (s : Scanner) (e : Entity) : Except LineError Unit × Scanner :=
  let s := s.close
  if isHidden e.name then (.ok (), s)
  else if s.set.contains e then (.error (.duplicate e.registryName e.name), s)
  else (.ok (), { s with cursor := some e })

/-- A declaration with the member that a line adds to it, if the line is of a fitting kind. -/
def addMember (e : Entity) (kind : LineKind) (line : String) : Found Entity :=
  match e, kind with
  | .bound d c, .constructor => do
    pure (.bound d { c with constructors := c.constructors ++ [← constructorTypes line] })
  | .bound d c, .property => do
    pure (.bound d { c with properties := c.properties ++ [← firstQuoted line] })
  | .bound d c, .method isStatic => do
    let name ← firstQuoted line
    let symbol ← nativeSymbol line
    let args ← argNames line
    pure (.bound d { c with methods := c.methods ++ [⟨name, isStatic, symbol, args⟩] })
  | .enumeration x, .value => do
    pure (.enumeration { x with values := x.values ++ [← firstQuoted line] })
  | _, _ => .ok e

/-- The declaration that a line opens. -/
def declaration? (kind : LineKind) (line : String) : Option (Found Entity) :=
  match kind with
  | .classOpen dialect => some do
    let name ← firstQuoted line
    let base ← baseClass dialect line
    pure (.bound dialect ⟨name, base, [], [], []⟩)
  | .enumOpen => some do pure (.enumeration ⟨← firstQuoted line, []⟩)
  | _ => none

/-- Scan one line without blanks at its ends. A line that fails to open a declaration because its
name is taken has closed the one before it; any other failing line changes nothing. -/
def step (s : Scanner) (line : String) : Except LineError Unit × Scanner :=
  let kind := classify line
  match declaration? kind line with
  | some (.ok e) => s.begin e
  | some (.error d) => (.error (.missing d), s)
  | none =>
    if kind = .terminator then (.ok (), s.close)
    else match s.cursor with
      | none => (.ok (), s)
      | some e => match addMember e kind line with
        | .ok e => (.ok (), { s with cursor := some e })
        | .error d => (.error (.missing d), s)

/-- Scan lines up to the first that fails; `n` is the number of the first line. -/
def scanLines (s : Scanner) (n : Nat) : List String → Except (Nat × LineError) Unit × Scanner
  | [] => (.ok (), s)
  | line :: rest =>
    match s.step line with
    | (.ok (), s) => s.scanLines (n + 1) rest
    | (.error e, s) => (.error (n, e), s)

/-- The lines of a text without blanks at their ends. -/
def trimmedLines (text : String) : List String :=
  (lines text.toList).map fun l => String.ofList (trim l)

/-- Scan a text. The declaration that is open at its end stays open. -/
def scan (s : Scanner) (text : String) : Except (Nat × LineError) Unit × Scanner :=
  s.scanLines 1 (trimmedLines text)

/-- The hidden names that a text declares before its first failing line, for the log. -/
def hiddenNames (s : Scanner) : List String → List String
  | [] => []
  | line :: rest =>
    match declaration? (classify line) line, s.step line with
    | some (.ok e), (.ok (), s) =>
      if isHidden e.name then e.name :: s.hiddenNames rest else s.hiddenNames rest
    | _, (.ok (), s) => s.hiddenNames rest
    | _, (.error _, _) => []

def messages (s : Scanner) (text : String) : List LogEntry :=
  (s.hiddenNames (trimmedLines text)).map fun name =>
    ⟨.debug, "skipping hidden declaration", [("name", quoteField name)]⟩

end Scanner

/-- The text of an error at a line of a file. -/
def LineError.message (path : String) (line : Nat) : LineError → String
  | missing d => path ++ ":" ++ toString line ++ ": expected " ++ d.text
  | duplicate registry name =>
    path ++ ":" ++ toString line ++ ": duplicate " ++ registry ++ " entity '" ++ name ++ "'"

end BindingDocs.Registration
