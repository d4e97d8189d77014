import BindingDocs.Matching

/-! Artifacts, and the names used in them. -/
namespace BindingDocs.Output

structure Options where
  moduleName : String := "rhino3dm"
  /-- The class that holds all exported types in script declarations. -/
  moduleClass : String := "RhinoModule"
  version : String := "8.0.0"
  deriving Repr, DecidableEq

/-- A file to be written. -/
structure Artifact where
  path : String
  contents : String
  deriving Repr, DecidableEq

end BindingDocs.Output
