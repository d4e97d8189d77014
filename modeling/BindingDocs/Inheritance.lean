import BindingDocs.Registration.BindingSet

/-! The order in which classes are listed where base classes should come first. -/
namespace BindingDocs.Inheritance
open BindingDocs.Registration

/-- A rough depth of inheritance, judged from the base of a class. -/
def rank (c : BoundClass) : Nat :=
  match c.base with
  | none => 0
  | some "" => 0
  | some "CommonObject" => 1
  | some "GeometryBase" => 2
  | some "Curve" => 3
  | some "Surface" => 3
  | some _ => 4

/-- Classes of smaller rank come first, classes of one rank in the order of their keys. -/
def precedes (a b : BoundClass) : Bool :=
  rank a < rank b || (rank a == rank b && keyOf a.name ≤ keyOf b.name)

/-- Insert a class before the first one that it precedes. -/
def insertClass (c : BoundClass) : List BoundClass → List BoundClass
  | [] => [c]
  | d :: ds => if precedes c d then c :: d :: ds else d :: insertClass c ds

/-- The classes by rank and key; classes that agree in both keep their order. -/
def basesFirst (cs : List BoundClass) : List BoundClass := cs.foldr insertClass []

end BindingDocs.Inheritance
