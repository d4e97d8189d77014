import BindingDocs.Output.Artifact
import BindingDocs.Output.Prose
import BindingDocs.Vocabulary.Tables

/-! Type declarations of the script module. -/
namespace BindingDocs.Output.ScriptTypes
open BindingDocs.Documentation BindingDocs.Reference BindingDocs.Registration

def spell (type : String) : String := Vocabulary.declared.spell type

/-- A method with results besides its own gives an object that bundles them all. -/
def returnType (m : Method) : String :=
  if m.params.any (·.isOut) then "object" else spell m.returns

def enumLines (e : BoundEnum) : List String :=
  let values := (e.values.dropLast.map fun v => "\t\t" ++ v ++ ",") ++
    (e.values.getLast?.toList.map fun v => "\t\t" ++ v)
  ["", "\tenum " ++ e.name ++ " \x7b"] ++ values ++ ["\t\x7d"]

def propertyLines (s : Surface) (className name : String) : List String :=
  let p := s.property? className name
  let about := match (p.bind (·.doc)).bind Comment.summary? with
    | some summary => (textLines summary).map ("\t\t * " ++ ·)
    | none => []
  let type := match p with
    | some p => spell p.type
    | none => "any"
  ["\t\t/**"] ++ about ++ ["\t\t */", "\t\t" ++ name ++ ": " ++ type ++ ";"]

def constructorLines (k : Constructor) : List String :=
  let params := k.params.map fun p => p.name ++ ": " ++ spell p.type
  ["", "\t\tconstructor(" ++ Text.joinWith ", " params ++ ");"]

def paramLine (doc : Comment) (p : Parameter) : String :=
  let head := "\t\t * @param \x7b" ++ spell p.type ++ "\x7d " ++ p.name
  match doc.param? p.name with
  | some text => head ++ " " ++ oneLine text
  | none => head

def documentedMethod (m : Method) (doc : Comment) : List String :=
  let summary := match doc.summary? with
    | some summary => ["\t\t * @description " ++ oneLine summary]
    | none => []
  let returns := match doc.returns? with
    | some text => ["\t\t * @returns \x7b" ++ returnType m ++ "\x7d " ++ oneLine text]
    | none => []
  ["\t\t/**"] ++ summary ++ (inputs m.params).map (paramLine doc) ++ returns ++ ["\t\t */"]

/-- The comment of a method; one without documentation has a placeholder. -/
def methodComment (m : Option Method) : List String :=
  match m with
  | some m => match m.doc with
    | some doc => documentedMethod m doc
    | none => ["\t\t/** ... */"]
  | none => ["\t\t/** ... */"]

def signature (m : Option Method) : String :=
  match m with
  | some m =>
    let params := (inputs m.params).map fun p => p.name ++ ":" ++ spell p.type
    "(" ++ Text.joinWith "," params ++ "): " ++ returnType m
  | none => "(): void"

def methodLines (s : Surface) (className : String) (bound : BoundMethod) : List String :=
  let m := s.method? .javascript className bound
  let head := if bound.isStatic then "\t\tstatic " else "\t\t"
  methodComment m ++ [head ++ bound.name ++ signature m ++ ";"]

def classHeader (c : BoundClass) : String :=
  let base := match namedBase? c.base with
    | some base => " extends " ++ base
    | none => ""
  "\tclass " ++ c.name ++ base ++ " \x7b"

def classLines (s : Surface) (c : BoundClass) : List String :=
  ["", classHeader c] ++ c.properties.flatMap (propertyLines s c.name) ++
    (match s.firstConstructor? c with
      | some k => constructorLines k
      | none => []) ++
    c.methods.flatMap (methodLines s c.name) ++ ["\t\x7d"]

/-- The class that holds all exported types. -/
def moduleClassLines (s : Surface) (o : Options) : List String :=
  ["", "\tclass " ++ o.moduleClass ++ " \x7b"] ++
    (s.bindings.enumList.map fun e => "\t\t" ++ e.name ++ ": typeof " ++ e.name) ++
    ((s.bindings.classes .javascript).map fun c => "\t\t" ++ c.name ++ ": typeof " ++ c.name ++ ";") ++
    ["\t\x7d"]

def fileLines (s : Surface) (o : Options) : List String :=
  ["declare module '" ++ o.moduleName ++ "' \x7b", "",
    "\texport default function " ++ o.moduleName ++ "() : Promise<" ++ o.moduleClass ++ ">;"] ++
    s.bindings.enumList.flatMap enumLines ++ moduleClassLines s o ++
    (s.bindings.classes .javascript).flatMap (classLines s) ++ ["\x7d"]

def artifacts (s : Surface) (o : Options) : List Artifact :=
  [⟨"javascript/" ++ o.moduleName ++ ".d.ts", unlines (fileLines s o)⟩]

end BindingDocs.Output.ScriptTypes
