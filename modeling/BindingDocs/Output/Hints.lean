import BindingDocs.Inheritance
import BindingDocs.Output.Artifact
import BindingDocs.Output.Prose
import BindingDocs.Vocabulary.Tables

/-! Type hints: the members that match a declaration, with their types. -/
namespace BindingDocs.Output.Hints
open BindingDocs.Reference BindingDocs.Registration

def spell (type : String) : String := Vocabulary.hint.spell type

def typedArgs (isStatic : Bool) (params : List Parameter) : String :=
  let typed := (inputs params).map fun p => safeName p.name ++ ": " ++ spell p.type
  Text.joinWith ", " ((if isStatic then [] else ["self"]) ++ typed)

def constructorLines (s : Surface) (c : BoundClass) : List String :=
  match s.firstConstructor? c with
  | some k => ["    def __init__(" ++ typedArgs false k.params ++ "): ..."]
  | none => []

def propertyLines (s : Surface) (className name : String) : List String :=
  match s.property? className name with
  | some p => ["    @property", "    def " ++ name ++ "(self) -> " ++ spell p.type ++ ": ..."]
  | none => []

def methodLines (s : Surface) (className : String) (bound : BoundMethod) : List String :=
  match s.method? .python className bound with
  | some m =>
    (if bound.isStatic then ["    @staticmethod"] else []) ++
      ["    def " ++ bound.name ++ "(" ++ typedArgs bound.isStatic m.params ++ ") -> " ++
        spell m.returns ++ ": ..."]
  | none => []

/-- The members of a class that match a declaration. -/
def bodyLines (s : Surface) (c : BoundClass) : List String :=
  constructorLines s c ++ c.properties.flatMap (propertyLines s c.name) ++
    c.methods.flatMap (methodLines s c.name)

def classLines (s : Surface) (c : BoundClass) : List String :=
  match bodyLines s c with
  | [] => ["", "class " ++ c.name ++ ": ..."]
  | body => ["", "class " ++ c.name ++ ":"] ++ body

def fileLines (s : Surface) : List String :=
  ["from typing import Tuple, Set, Iterable, List"] ++
    (Inheritance.basesFirst (s.bindings.classes .python)).flatMap (classLines s) ++ [""]

def artifacts (s : Surface) (o : Options) : List Artifact :=
  [⟨"python/stubs/" ++ o.moduleName ++ "/__init__.pyi", unlines (fileLines s)⟩]

end BindingDocs.Output.Hints
