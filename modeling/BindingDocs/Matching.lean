import BindingDocs.Reference.Model
import BindingDocs.Registration.BindingSet

/-! Matching bound members with the reference declarations that document them. -/
namespace BindingDocs
open BindingDocs.Reference BindingDocs.Registration

/-- A reference model beside the bindings it documents. -/
structure Surface where
  reference : Model
  bindings : BindingSet

namespace Surface

def class? (s : Surface) (name : String) : Option Reference.Class := s.reference.class? name

/-- The constructor of a class with exactly the given parameter types. -/
def constructor? (s : Surface) (className : String) (types : List String) : Option Constructor :=
  (s.class? className).bind fun c => c.constructors.find? fun k => k.params.map (·.type) == types

/-- Each registered constructor of a class with the declaration it matches. -/
def constructors (s : Surface) (c : BoundClass) : List (List String × Option Constructor) :=
  c.constructors.map fun types => (types, s.constructor? c.name types)

/-- The first registered constructor that matches a declaration. -/
def firstConstructor? (s : Surface) (c : BoundClass) : Option Constructor :=
  c.constructors.findSome? (s.constructor? c.name)

/-- The argument names known for a bound method. A script method borrows them from the method of the
other dialect that is bound to the same native function. -/
def arguments? (s : Surface) (dialect : Dialect) (className : String) (m : BoundMethod) :
    Option (List String) :=
  match dialect with
  | .python => some m.args
  | .javascript => do
    let sibling ← (← s.bindings.class? .python className).methodBySymbol? m.symbol
    pure sibling.args

/-- The declaration of a bound method: among those of its name the first with as many inputs as it
has arguments, or else the first. -/
def method? (s : Surface) (dialect : Dialect) (className : String) (m : BoundMethod) :
    Option Method := do
  let candidates := (← s.class? className).methodsNamed m.name
  let first ← candidates.head?
  match s.arguments? dialect className m with
  | none => pure first
  | some args =>
    pure ((candidates.find? fun c => (inputs c.params).length == args.length).getD first)

def property? (s : Surface) (className name : String) : Option Property :=
  (s.class? className).bind (·.property? name)

end Surface
end BindingDocs
