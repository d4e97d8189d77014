import BindingDocs.Registration.Line
import BindingDocs.Registry

/-! Bound classes and enumerations, and the registries that hold them. -/
namespace BindingDocs.Registration
open BindingDocs.Text

structure BoundMethod where
  name : String
  isStatic : Bool
  /-- The native function; may be empty. -/
  symbol : String
  args : List String
  deriving Repr, DecidableEq

structure BoundClass where
  name : String
  base : Option String
  /-- The parameter types of each registered constructor. -/
  constructors : List (List String)
  properties : List String
  methods : List BoundMethod
  deriving Repr, DecidableEq

structure BoundEnum where
  name : String
  values : List String
  deriving Repr, DecidableEq

namespace BoundClass

/-- The first method bound to a native function. -/
def methodBySymbol? (c : BoundClass) (symbol : String) : Option BoundMethod :=
  if symbol = "" then none else c.methods.find? (·.symbol == symbol)

end BoundClass

/-- A declaration of registration code. A class belongs to a dialect, an enumeration does not. -/
inductive Entity where
  | bound (dialect : Dialect) (c : BoundClass)
  | enumeration (e : BoundEnum)
  deriving Repr, DecidableEq

namespace Entity

def name : Entity → String
  | bound _ c => c.name
  | enumeration e => e.name

/-- The name of the registry that an entity belongs to. -/
def registryName : Entity → String
  | bound dialect _ => dialect.name
  | enumeration _ => "enum"

end Entity

/-- Names that differ only in case are one key. -/
def keyOf (name : String) : String := lowerCase name

structure BindingSet where
  javascript : Registry BoundClass
  python : Registry BoundClass
  enums : Registry BoundEnum

namespace BindingSet

def empty : BindingSet := ⟨.empty, .empty, .empty⟩

instance : Inhabited BindingSet := ⟨empty⟩

/-- The classes of a dialect. -/
def registry (s : BindingSet) : Dialect → Registry BoundClass
  | .javascript => s.javascript
  | .python => s.python

def contains (s : BindingSet) : Entity → Bool
  | .bound dialect c => (s.registry dialect).contains (keyOf c.name)
  | .enumeration e => s.enums.contains (keyOf e.name)

/-- Register an entity in place of any other with its key. -/
def insert (s : BindingSet) : Entity → BindingSet
  | .bound .javascript c => { s with javascript := s.javascript.insert (keyOf c.name) c }
  | .bound .python c => { s with python := s.python.insert (keyOf c.name) c }
  | .enumeration e => { s with enums := s.enums.insert (keyOf e.name) e }

def class? (s : BindingSet) (dialect : Dialect) (name : String) : Option BoundClass :=
  (s.registry dialect).get? (keyOf name)

def enum? (s : BindingSet) (name : String) : Option BoundEnum := s.enums.get? (keyOf name)

def classes (s : BindingSet) (dialect : Dialect) : List BoundClass := (s.registry dialect).values

def enumList (s : BindingSet) : List BoundEnum := s.enums.values

end BindingSet
end BindingDocs.Registration
