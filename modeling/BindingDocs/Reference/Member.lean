import BindingDocs.Documentation.Comment

/-! Members of reference classes. -/
namespace BindingDocs.Reference
open BindingDocs.Documentation

/-- How an argument is passed. -/
inductive Passing where
  | byValue
  | byOut
  | byRef
  | byIn
  | rest
  | receiver
  deriving Repr, DecidableEq

namespace Passing

def ofKeyword? : String → Option Passing
  | "out" => some byOut
  | "ref" => some byRef
  | "in" => some byIn
  | "params" => some rest
  | "this" => some receiver
  | _ => none

end Passing

structure Parameter where
  name : String
  type : String
  passing : Passing
  deriving Repr, DecidableEq

def Parameter.isOut (p : Parameter) : Bool := p.passing == .byOut

structure Constructor where
  params : List Parameter
  doc : Option Comment
  deriving Repr, DecidableEq

structure Method where
  name : String
  returns : String
  params : List Parameter
  isStatic : Bool
  doc : Option Comment
  deriving Repr, DecidableEq

structure Property where
  name : String
  type : String
  isStatic : Bool
  doc : Option Comment
  deriving Repr, DecidableEq

/-- The parameters a caller supplies. -/
def inputs (params : List Parameter) : List Parameter := params.filter (!·.isOut)

/-- The parameters that carry results back. -/
def outputs (params : List Parameter) : List Parameter := params.filter (·.isOut)

end BindingDocs.Reference
