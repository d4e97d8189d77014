import BindingDocs.Log
import BindingDocs.Output.Hints
import BindingDocs.Output.Pages
import BindingDocs.Output.ScriptDoc
import BindingDocs.Output.ScriptTypes
import BindingDocs.Output.Skeleton

/-! The emitters, by name. -/
namespace BindingDocs.Output
open BindingDocs.Registration

inductive Emitter where
  | jsdoc
  | typescript
  | rst
  | python
  | pyi
  deriving Repr, DecidableEq

namespace Emitter

/-- All emitters in the order of their output. -/
def all : List Emitter := [jsdoc, typescript, rst, python, pyi]

def name : Emitter → String
  | jsdoc => "jsdoc"
  | typescript => "typescript"
  | rst => "rst"
  | python => "python"
  | pyi => "pyi"

/-- The dialect that an emitter documents. -/
def target : Emitter → Dialect
  | jsdoc => .javascript
  | typescript => .javascript
  | rst => .python
  | python => .python
  | pyi => .python

def names : List String := all.map name

def ofName? (n : String) : Option Emitter := all.find? (·.name == n)

/-- The emitters with some names, or all of them if no name is given; the first name that no emitter
has is an error. -/
def select (ns : List String) : Except String (List Emitter) :=
  if ns.isEmpty then .ok all
  else ns.mapM fun n => match ofName? n with
    | some e => .ok e
    | none => .error n

def unknownMessage (n : String) : String :=
  "unknown emitter '" ++ n ++ "' (available: " ++ Text.joinWith ", " names ++ ")"

def artifacts (e : Emitter) (s : Surface) (o : Options) : List Artifact :=
  match e with
  | jsdoc => ScriptDoc.artifacts s o
  | typescript => ScriptTypes.artifacts s o
  | rst => Pages.artifacts s o
  | python => Skeleton.artifacts s o
  | pyi => Hints.artifacts s o

/-- Methods of some classes that match no declaration. -/
def unmatched (s : Surface) (dialect : Dialect) (cs : List BoundClass) : List LogEntry :=
  cs.flatMap fun c => c.methods.filterMap fun m =>
    if (s.method? dialect c.name m).isSome then none
    else some ⟨.debug, "unresolved " ++ dialect.name ++ " method",
      [("class", c.name), ("method", m.name)]⟩

/-- What the log says while an emitter works. -/
def messages (e : Emitter) (s : Surface) : List LogEntry :=
  match e with
  | jsdoc => unmatched s .javascript (s.bindings.classes .javascript)
  | typescript => unmatched s .javascript (s.bindings.classes .javascript)
  | rst => unmatched s .python (Inheritance.basesFirst (s.bindings.classes .python))
  | python => []
  | pyi => []

end Emitter
end BindingDocs.Output
