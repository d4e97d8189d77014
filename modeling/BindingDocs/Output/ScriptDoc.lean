import BindingDocs.Output.Artifact
import BindingDocs.Output.Prose
import BindingDocs.Vocabulary.Tables

/-! Script classes with documentation comments, for tools that read such comments. A class has at
most one constructor there. -/
namespace BindingDocs.Output.ScriptDoc
open BindingDocs.Documentation BindingDocs.Reference BindingDocs.Registration

def spell (type : String) : String := Vocabulary.scriptDoc.spell type

def names (params : List Parameter) : String :=
  Text.joinWith "," ((inputs params).map (·.name))

def descriptionLines (doc : Option Comment) : List String :=
  match doc.bind Comment.summary? with
  | some summary => ["   * @description " ++ oneLine summary]
  | none => []

def paramLine (doc : Option Comment) (p : Parameter) : String :=
  let head := "   * @param \x7b" ++ spell p.type ++ "\x7d " ++ p.name
  match doc.bind (·.param? p.name) with
  | some text => head ++ " " ++ oneLine text
  | none => head

def paramLines (doc : Option Comment) (params : List Parameter) : List String :=
  (inputs params).map (paramLine doc)

def returnsLines (m : Method) : List String :=
  match m.doc.bind Comment.returns? with
  | some text => ["   * @returns \x7b" ++ spell m.returns ++ "\x7d " ++ oneLine text]
  | none => []

def constructorLines (k : Constructor) : List String :=
  ["  /**"] ++ descriptionLines k.doc ++ paramLines k.doc k.params ++
    ["   */", "  constructor(" ++ names k.params ++ ")\x7b\x7d"]

/-- The comment of a method; one without documentation has a placeholder. -/
def methodComment (m : Option Method) : List String :=
  match m with
  | some m =>
    if m.doc.isSome then
      ["  /**"] ++ descriptionLines m.doc ++ paramLines m.doc m.params ++ returnsLines m ++ ["   */"]
    else ["  /** ... */"]
  | none => ["  /** ... */"]

def methodLines (s : Surface) (className : String) (bound : BoundMethod) : List String :=
  let m := s.method? .javascript className bound
  let head := if bound.isStatic then "  static " else "  "
  let params := match m with
    | some m => names m.params
    | none => ""
  methodComment m ++ [head ++ bound.name ++ "(" ++ params ++ ") \x7b  \x7d"]

def propertyLines (s : Surface) (className name : String) : List String :=
  let about := match s.property? className name with
    | some p => descriptionLines p.doc ++ ["   * @type \x7b" ++ spell p.type ++ "\x7d"]
    | none => []
  ["  /**"] ++ about ++ ["   */", "  get " ++ name ++ "() \x7b return null;\x7d"]

def classComment (s : Surface) (c : BoundClass) : List String :=
  let about := match (s.class? c.name).bind Class.summary? with
    | some summary => (textLines summary).map (" * " ++ ·)
    | none => [" * " ++ c.name]
  let base := match namedBase? c.base with
    | some base => [" * @extends " ++ base]
    | none => []
  let hidden := if c.constructors.isEmpty then [" * @hideconstructor"] else []
  ["/**"] ++ about ++ base ++ hidden ++ [" */"]

def classLines (s : Surface) (c : BoundClass) : List String :=
  classComment s c ++ ["class " ++ c.name ++ " \x7b"] ++
    (match s.firstConstructor? c with
      | some k => constructorLines k
      | none => []) ++
    c.methods.flatMap (methodLines s c.name) ++
    c.properties.flatMap (propertyLines s c.name) ++ ["\x7d"]

def fileLines (s : Surface) : List String :=
  (s.bindings.classes .javascript).flatMap (classLines s)

def artifacts (s : Surface) (o : Options) : List Artifact :=
  [⟨"javascript/" ++ o.moduleName ++ ".js", unlines (fileLines s)⟩]

end BindingDocs.Output.ScriptDoc
