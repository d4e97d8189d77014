import BindingDocs.Vocabulary.Basic

/-! The vocabularies of the documented languages. -/
namespace BindingDocs.Vocabulary

/-- Qualifiers of geometry types, the longer ones before their beginnings. -/
def geometryQualifiers : List String :=
  ["Rhino.Geometry.", "Rhino.DocObjects.", "Rhino.", "Geometry.", "DocObjects."]

def scriptDocNames : List (String × String) :=
  [("Point3d", "Array.<x,y,z>"), ("Vector3d", "Array.<x,y,z>"), ("Point3f", "Array.<x,y,z>"),
   ("Vector3f", "Array.<x,y,z>"), ("Point2d", "Array.<x,y>"), ("Vector2d", "Array.<x,y>"),
   ("Point2f", "Array.<x,y>"), ("double", "number"), ("float", "number"), ("int", "number"),
   ("uint", "number"), ("short", "number"), ("ushort", "number"), ("long", "number"),
   ("ulong", "number"), ("byte", "number"), ("bool", "boolean"), ("Guid", "string"),
   ("System.Guid", "string")]

/-- Types in the prose of script documentation. -/
def scriptDoc : Vocabulary where
  exact := scriptDocNames
  escaped := ["object", "dynamic", "MeshFace", "MeshingParameterTextureRange"]
  escape := "*"
  array := ⟨"", "[]"⟩
  sequences := .enumerable
  sequence := ⟨"", "[]"⟩
  qualifiers := .listed geometryQualifiers

def declaredNames : List (String × String) :=
  [("Point3d", "number[]"), ("Vector3d", "number[]"), ("Point3f", "number[]"),
   ("Vector3f", "number[]"), ("Point2d", "number[]"), ("Vector2d", "number[]"),
   ("Interval", "number[]"), ("Color", "number[]"), ("System.Drawing.Color", "number[]"),
   ("System.Drawing.Rectangle", "number[]"), ("Color[]", "number[][]"), ("Vector3d[]", "any[]"),
   ("MeshingParameterTextureRange", "number"),
   ("System.Collections.Generic.IEnumerable<Point3d>", "Point3dList"), ("bool", "boolean"),
   ("double", "number"), ("float", "number"), ("int", "number"), ("uint", "number"),
   ("short", "number"), ("ushort", "number"), ("long", "number"), ("ulong", "number"),
   ("byte", "number"), ("Guid", "string"), ("System.Guid", "string"), ("string", "string"),
   ("object", "any")]

/-- Types in script declarations. -/
def declared : Vocabulary where
  exact := declaredNames
  escaped := ["MeshFace", "dynamic"]
  escape := "any"
  array := ⟨"", "[]"⟩
  sequences := .enumerable
  sequence := ⟨"", "[]"⟩
  qualifiers := .listed geometryQualifiers

/-- Classes that the pages of the module link to, and renamed basic types. -/
def pageNames : List (String × String) :=
  [("BezierCurve", "rhino3dm.BezierCurve"), ("BoundingBox", "rhino3dm.BoundingBox"),
   ("Box", "rhino3dm.Box"), ("Brep", "rhino3dm.Brep"), ("BrepEdge", "rhino3dm.BrepEdge"),
   ("BrepFace", "rhino3dm.BrepFace"), ("Curve", "rhino3dm.Curve"),
   ("GeometryBase", "rhino3dm.GeometryBase"), ("Interval", "rhino3dm.Interval"),
   ("Mesh", "rhino3dm.Mesh"), ("MeshingParameters", "rhino3dm.MeshingParameters"),
   ("NurbsCurve", "rhino3dm.NurbsCurve"), ("Plane", "rhino3dm.Plane"),
   ("Point2d", "rhino3dm.Point2d"), ("Point3d", "rhino3dm.Point3d"),
   ("Polyline", "rhino3dm.Polyline"), ("Sphere", "rhino3dm.Sphere"),
   ("Surface", "rhino3dm.Surface"), ("Vector3d", "rhino3dm.Vector3d"), ("double", "float"),
   ("string", "str"), ("String", "str")]

/-- Types in the prose of reference pages. -/
def pageDoc : Vocabulary where
  exact := pageNames
  escaped := []
  escape := ""
  array := ⟨"", "[]"⟩
  sequences := .enumerable
  sequence := ⟨"list[", "]"⟩
  qualifiers := .listed geometryQualifiers

/-- Types in type hints. -/
def hint : Vocabulary where
  exact := [("double", "float"), ("float", "float"), ("string", "str"), ("void", "None"),
    ("Color", "Tuple[int, int, int, int]"), ("System.Drawing.Color", "Tuple[int, int, int, int]")]
  escaped := []
  escape := ""
  array := ⟨"List[", "]"⟩
  sequences := .anyGeneric
  sequence := ⟨"Iterable[", "]"⟩
  qualifiers := .wholePath

end BindingDocs.Vocabulary
