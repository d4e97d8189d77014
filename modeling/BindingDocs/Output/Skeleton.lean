import BindingDocs.Inheritance
import BindingDocs.Output.Artifact
import BindingDocs.Output.Prose
import BindingDocs.Vocabulary.Tables

/-! A module of empty classes with documentation strings. -/
namespace BindingDocs.Output.Skeleton
open BindingDocs.Documentation BindingDocs.Reference BindingDocs.Registration

def spell (type : String) : String := Vocabulary.pageDoc.spell type

/-- The margin at a depth of nesting. -/
def pad (level : Nat) : String := String.ofList (List.replicate (4 * level) ' ')

def quotes : String := "\"\"\""

def placeholder : String := "\"\"\" ... \"\"\""

def argList (isStatic : Bool) (names : List String) : String :=
  Text.joinWith ", " ((if isStatic then [] else ["self"]) ++ names)

/-- A text whose first line has a head and whose other lines have a margin of their own. -/
def headedLines (head rest : String) (text : String) : List String :=
  match textLines text with
  | [] => []
  | line :: lines => (head ++ line) :: lines.map (rest ++ ·)

def paramLines (level : Nat) (doc : Comment) (p : Parameter) : List String :=
  match doc.param? p.name with
  | some text =>
    headedLines (pad level ++ safeName p.name ++ " (" ++ spell p.type ++ "): ") (pad (level + 1)) text
  | none => []

/-- A documentation string: the summary, the inputs, the result, and last the other results. -/
def docLines (level : Nat) (doc : Comment) (params : List Parameter) (returns : Option String) :
    List String :=
  let summary := match doc.summary? with
    | some text => (textLines text).map (pad level ++ ·)
    | none => []
  let args :=
    if (inputs params).any fun p => (doc.param? p.name).isSome then
      ["", pad level ++ "Args:"] ++ (inputs params).flatMap (paramLines (level + 1) doc)
    else []
  let result := match returns, doc.returns? with
    | some type, some text =>
      ["", pad level ++ "Returns:"] ++
        headedLines (pad (level + 1) ++ spell type ++ ": ") (pad (level + 1)) text
    | _, _ => []
  [pad level ++ quotes] ++ summary ++ args ++ result ++
    (outputs params).flatMap (paramLines (level + 1) doc) ++ [pad level ++ quotes]

def docOrPlaceholder (level : Nat) (doc : Option Comment) : List String :=
  match doc with
  | some doc => docLines level doc [] none
  | none => [pad level ++ placeholder]

def defLine (name : String) (isStatic : Bool) (names : List String) : String :=
  pad 1 ++ "def " ++ name ++ "(" ++ argList isStatic names ++ "):"

def constructorLines (k : Constructor) : List String :=
  let doc := match k.doc with
    | some doc => docLines 2 doc k.params none
    | none => []
  [defLine "__init__" false ((inputs k.params).map (safeName ·.name))] ++ doc ++ [pad 2 ++ "pass"]

def methodLines (s : Surface) (className : String) (bound : BoundMethod) : List String :=
  let mark := if bound.isStatic then [pad 1 ++ "@staticmethod"] else []
  let body := match s.method? .python className bound with
    | some m =>
      let doc := match m.doc with
        | some doc => docLines 2 doc m.params (some m.returns)
        | none => []
      [defLine bound.name bound.isStatic ((inputs m.params).map (safeName ·.name))] ++ doc
    | none =>
      [defLine bound.name bound.isStatic (bound.args.map safeName), pad 2 ++ placeholder]
  mark ++ body ++ [pad 2 ++ "pass", ""]

def propertyLines (s : Surface) (className name : String) : List String :=
  [pad 1 ++ "@property", pad 1 ++ "def " ++ name ++ "(self):"] ++
    docOrPlaceholder 2 ((s.property? className name).bind (·.doc)) ++
    [pad 2 ++ "return None", ""]

def classHeader (c : BoundClass) : String :=
  match namedBase? c.base with
  | some base => "class " ++ c.name ++ "(" ++ base ++ "):"
  | none => "class " ++ c.name ++ ":"

def classLines (s : Surface) (c : BoundClass) : List String :=
  [classHeader c] ++ docOrPlaceholder 1 ((s.class? c.name).bind (·.doc)) ++
    (match s.firstConstructor? c with
      | some k => constructorLines k
      | none => []) ++
    c.methods.flatMap (methodLines s c.name) ++
    c.properties.flatMap (propertyLines s c.name) ++ [""]

def fileLines (s : Surface) : List String :=
  (Inheritance.basesFirst (s.bindings.classes .python)).flatMap (classLines s)

def artifacts (s : Surface) (o : Options) : List Artifact :=
  [⟨"python/stubs/" ++ o.moduleName ++ ".py", unlines (fileLines s)⟩]

end BindingDocs.Output.Skeleton
