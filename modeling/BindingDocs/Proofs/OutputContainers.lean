import BindingDocs.Output.ScriptDoc
import BindingDocs.Output.ScriptTypes
import BindingDocs.Proofs.ExtractionFlattening
import BindingDocs.Proofs.OutputBlocks

/-! Comments of the script outputs and documentation strings of the skeleton. Nothing that is shown in
them is escaped: one ends where it is meant to end exactly if no text, type or name shown in it holds
its closing. -/
namespace BindingDocs.Output
open BindingDocs.Text BindingDocs.Documentation BindingDocs.Reference BindingDocs.Registration

lemma leads_of_neutral {k : Container} {w : String} (h : w.toList.all k.isNeutral = true) :
    k.Leads w.toList := Container.ends_neutral_append (List.all_eq_true.1 h)

/-- Words of a line behind its margin. -/
lemma leads_margined {k : Container} {margin words : String}
    (hm : margin.toList.all k.isNeutral = true) (hw : k.isSeparator words.toList = true) :
    k.Leads (margin ++ words).toList := by
  rw [String.toList_append]
  exact (leads_of_neutral hm).append (Container.separates_of_isSeparator hw).leads

lemma separates_words {k : Container} {words : String} (h : k.isSeparator words.toList = true) :
    k.Separates words.toList := Container.separates_of_isSeparator h

/-- Comments with an asterisk before every line. -/
def scriptComments : Style where
  container := blockComment
  lead := "*"
  trail := " "
  ends_lead := by decide
  neutral_trail := by decide
  neutral_ellipsis := by decide

lemma lines_comment (margin : String) (rs : List Remark) : scriptComments.lines (.container ⟨margin, some rs⟩) =
    [margin ++ "/**"] ++ rs.flatMap Remark.lines ++ [margin ++ " */"] := by
  simp [Style.lines, scriptComments, blockComment, String.append_assoc]

lemma lines_ellipsis (margin : String) :
    scriptComments.lines (.container ⟨margin, none⟩) = [margin ++ "/** ... */"] := by
  simp [Style.lines, scriptComments, blockComment, String.append_assoc]

def descriptionRemark (margin text : String) : Remark :=
  .line [.own (margin ++ " * @description "), .folded text]

def paramRemark (margin type name : String) (text : Option String) : Remark :=
  .line ([.own (margin ++ " * @param \x7b"), .name type, .own "\x7d ", .name name] ++
    text.toList.flatMap fun t => [.own " ", .folded t])

def returnsRemark (margin type text : String) : Remark :=
  .line [.own (margin ++ " * @returns \x7b"), .name type, .own "\x7d ", .folded text]

/-- The summary and the inputs of a member. -/
def memberRemarks (margin : String) (spell : String → String) (doc : Option Comment)
    (params : List Parameter) : List Remark :=
  (doc.bind Comment.summary?).toList.map (descriptionRemark margin) ++
    (inputs params).map fun p => paramRemark margin (spell p.type) p.name (doc.bind (·.param? p.name))

section
variable {margin : String} (hm : margin.toList.all blockComment.isNeutral = true)
include hm

lemma framed_descriptionRemark (text : String) : (descriptionRemark margin text).Framed blockComment :=
  .own (leads_margined hm (by decide)) (.last rfl)

lemma framed_paramRemark (type name : String) (text : Option String) :
    (paramRemark margin type name text).Framed blockComment := by
  have hleads : blockComment.Leads (margin ++ " * @param \x7b").toList := leads_margined hm (by decide)
  have hclose : blockComment.Separates "\x7d ".toList := separates_words (by decide)
  cases text with
  | none => exact .own hleads (.apart rfl hclose (.last rfl))
  | some text =>
    exact .own hleads (.apart rfl hclose (.apart rfl (separates_words (by decide)) (.last rfl)))

lemma framed_returnsRemark (type text : String) : (returnsRemark margin type text).Framed blockComment :=
  .own (leads_margined hm (by decide)) (.apart rfl (separates_words (by decide)) (.last rfl))

lemma framed_memberRemarks (spell : String → String) (doc : Option Comment) (params : List Parameter) :
    ∀ r ∈ memberRemarks margin spell doc params, r.Framed blockComment := by
  intro r hr
  rcases List.mem_append.1 hr with hr | hr
  · obtain ⟨text, -, rfl⟩ := List.mem_map.1 hr
    exact framed_descriptionRemark hm text
  · obtain ⟨p, -, rfl⟩ := List.mem_map.1 hr
    exact framed_paramRemark hm _ _ _

end

namespace ScriptDoc

def constructorElements (k : Constructor) : List OutputElement :=
  [.container ⟨"  ", some (memberRemarks "  " spell k.doc k.params)⟩,
    .code ("  constructor(" ++ names k.params ++ ")\x7b\x7d")]

def methodRemarks (m : Method) : List Remark :=
  memberRemarks "  " spell m.doc m.params ++
    (m.doc.bind Comment.returns?).toList.map (returnsRemark "  " (spell m.returns))

def methodElements (s : Surface) (className : String) (bound : BoundMethod) : List OutputElement :=
  let m := s.method? .javascript className bound
  let head := if bound.isStatic then "  static " else "  "
  [.container ⟨"  ", m.bind fun m => if m.doc.isSome then some (methodRemarks m) else none⟩,
    .code (head ++ bound.name ++ "(" ++ m.elim "" (names ·.params) ++ ") \x7b  \x7d")]

def propertyRemarks (p : Property) : List Remark :=
  (p.doc.bind Comment.summary?).toList.map (descriptionRemark "  ") ++
    [.line [.own "   * @type \x7b", .name (spell p.type), .own "\x7d"]]

def propertyElements (s : Surface) (className name : String) : List OutputElement :=
  [.container ⟨"  ", some ((s.property? className name).toList.flatMap propertyRemarks)⟩,
    .code ("  get " ++ name ++ "() \x7b return null;\x7d")]

def classRemarks (s : Surface) (c : BoundClass) : List Remark :=
  ((s.class? c.name).bind Class.summary?).elim [.line [.own " * ", .name c.name]]
      (fun summary => [.prose " * " summary]) ++
    (namedBase? c.base).toList.map (fun base => .line [.own " * @extends ", .name base]) ++
    if c.constructors.isEmpty then [.line [.own " * @hideconstructor"]] else []

def classElements (s : Surface) (c : BoundClass) : List OutputElement :=
  [.container ⟨"", some (classRemarks s c)⟩, .code ("class " ++ c.name ++ " \x7b")] ++
    (s.firstConstructor? c).toList.flatMap constructorElements ++
    c.methods.flatMap (methodElements s c.name) ++
    c.properties.flatMap (propertyElements s c.name) ++ [.code "\x7d"]

/-- The lines of code and the comments of the file. -/
def elements (s : Surface) : List OutputElement := (s.bindings.classes .javascript).flatMap (classElements s)

lemma lines_description (doc : Option Comment) :
    ((doc.bind Comment.summary?).toList.map (descriptionRemark "  ")).flatMap Remark.lines =
      descriptionLines doc := by
  rw [descriptionLines]
  cases doc.bind Comment.summary? <;>
    simp [descriptionRemark, Remark.lines, Fragment.line, Fragment.text]

lemma lines_paramRemark (doc : Option Comment) (p : Parameter) :
    (paramRemark "  " (spell p.type) p.name (doc.bind (·.param? p.name))).lines = [paramLine doc p] := by
  rw [paramLine]
  cases doc.bind (·.param? p.name) <;>
    simp [paramRemark, Remark.lines, Fragment.line, Fragment.text, String.append_assoc]

lemma lines_returns (m : Method) :
    ((m.doc.bind Comment.returns?).toList.map (returnsRemark "  " (spell m.returns))).flatMap Remark.lines =
      returnsLines m := by
  rw [returnsLines]
  cases m.doc.bind Comment.returns? <;>
    simp [returnsRemark, Remark.lines, Fragment.line, Fragment.text, String.append_assoc]

lemma lines_memberRemarks (doc : Option Comment) (params : List Parameter) :
    (memberRemarks "  " spell doc params).flatMap Remark.lines =
      descriptionLines doc ++ paramLines doc params := by
  rw [memberRemarks, List.flatMap_append, lines_description, List.flatMap_map, paramLines,
    List.map_eq_flatMap]
  simp only [lines_paramRemark]

lemma lines_constructorElements (k : Constructor) :
    (constructorElements k).flatMap scriptComments.lines = constructorLines k := by
  simp [constructorElements, constructorLines, lines_comment, Style.lines_code, lines_memberRemarks]

lemma lines_methodElements (s : Surface) (className : String) (bound : BoundMethod) :
    (methodElements s className bound).flatMap scriptComments.lines = methodLines s className bound := by
  rw [methodElements, methodLines]
  cases s.method? .javascript className bound with
  | none => simp [methodComment, lines_ellipsis, Style.lines_code]
  | some m =>
    by_cases h : m.doc.isSome = true
    · simp [methodComment, h, lines_comment, Style.lines_code, methodRemarks, lines_memberRemarks,
        lines_returns]
    · simp [methodComment, h, lines_ellipsis, Style.lines_code]

lemma lines_propertyElements (s : Surface) (className name : String) :
    (propertyElements s className name).flatMap scriptComments.lines = propertyLines s className name := by
  rw [propertyElements, propertyLines]
  cases s.property? className name with
  | none => simp [lines_comment, Style.lines_code]
  | some p =>
    simp [lines_comment, Style.lines_code, propertyRemarks, lines_description, Remark.lines, Fragment.line,
      Fragment.text, String.append_assoc]

lemma lines_classRemarks (s : Surface) (c : BoundClass) :
    ["/**"] ++ (classRemarks s c).flatMap Remark.lines ++ [" */"] = classComment s c := by
  rw [classRemarks, classComment]
  cases (s.class? c.name).bind Class.summary? <;> cases namedBase? c.base <;>
    by_cases h : c.constructors.isEmpty = true <;>
    simp [h, Remark.lines, Fragment.line, Fragment.text]

lemma lines_classElements (s : Surface) (c : BoundClass) :
    (classElements s c).flatMap scriptComments.lines = classLines s c := by
  rw [classElements, classLines, ← lines_classRemarks]
  simp only [List.flatMap_append, List.flatMap_assoc, lines_methodElements, lines_propertyElements]
  cases s.firstConstructor? c with
  | none => simp [lines_comment, Style.lines_code]
  | some k => simp [lines_comment, Style.lines_code, lines_constructorElements]

lemma lines_elements (s : Surface) : fileLines s = (elements s).flatMap scriptComments.lines := by
  rw [fileLines, elements, List.flatMap_assoc]
  simp only [lines_classElements]

lemma framed_constructorElements (k : Constructor) : ∀ p ∈ constructorElements k, p.Framed blockComment := by
  refine framed_above (framed_container_some (by decide) ?_) _
  exact framed_memberRemarks (by decide) spell k.doc k.params

lemma framed_methodElements (s : Surface) (className : String) (bound : BoundMethod) :
    ∀ p ∈ methodElements s className bound, p.Framed blockComment := by
  refine framed_above (framed_container (by decide) ?_) _
  intro rs hrs r hr
  obtain ⟨m, -, hm⟩ := Option.bind_eq_some_iff.1 hrs
  split at hm
  · cases hm
    rcases List.mem_append.1 hr with hr | hr
    · exact framed_memberRemarks (by decide) spell m.doc m.params r hr
    · obtain ⟨text, -, rfl⟩ := List.mem_map.1 hr
      exact framed_returnsRemark (by decide) _ text
  · cases hm

lemma framed_propertyElements (s : Surface) (className name : String) :
    ∀ p ∈ propertyElements s className name, p.Framed blockComment := by
  refine framed_above (framed_container_some (by decide) ?_) _
  intro r hr
  obtain ⟨p, -, hr⟩ := List.mem_flatMap.1 hr
  rcases List.mem_append.1 hr with hr | hr
  · obtain ⟨text, -, rfl⟩ := List.mem_map.1 hr
    exact framed_descriptionRemark (by decide) text
  · rw [List.mem_singleton.1 hr]
    exact .own (separates_words (by decide)).leads (.apart rfl (separates_words (by decide)) .nil)

lemma framed_classRemarks (s : Surface) (c : BoundClass) :
    ∀ r ∈ classRemarks s c, r.Framed blockComment := by
  have hstar : blockComment.Leads " * ".toList := (separates_words (by decide)).leads
  refine List.forall_mem_append.2 ⟨List.forall_mem_append.2 ⟨?_, ?_⟩, ?_⟩
  · cases (s.class? c.name).bind Class.summary? with
    | none => exact List.forall_mem_singleton.2 (.own hstar (.last rfl))
    | some summary => exact List.forall_mem_singleton.2 hstar
  · refine List.forall_mem_map.2 fun base _ => ?_
    exact .own (separates_words (by decide)).leads (.last rfl)
  · split
    · exact List.forall_mem_singleton.2 (.own (separates_words (by decide)).leads .nil)
    · exact List.forall_mem_nil _

lemma framed_elements (s : Surface) : ∀ p ∈ elements s, p.Framed blockComment := by
  refine List.forall_mem_flatMap.2 fun c _ => ?_
  refine List.forall_mem_append.2 ⟨List.forall_mem_append.2 ⟨List.forall_mem_append.2
    ⟨List.forall_mem_append.2 ⟨?_, ?_⟩, ?_⟩, ?_⟩, framed_code ["\x7d"]⟩
  · exact framed_above (framed_container_some (by decide) (framed_classRemarks s c)) _
  · exact List.forall_mem_flatMap.2 fun k _ => framed_constructorElements k
  · exact List.forall_mem_flatMap.2 fun m _ => framed_methodElements s c.name m
  · exact List.forall_mem_flatMap.2 fun name _ => framed_propertyElements s c.name name

end ScriptDoc

namespace ScriptTypes

def propertyElements (s : Surface) (className name : String) : List OutputElement :=
  let p := s.property? className name
  [.container ⟨"\t\t", some (((p.bind (·.doc)).bind Comment.summary?).toList.map (Remark.prose "\t\t * "))⟩,
    .code ("\t\t" ++ name ++ ": " ++ p.elim "any" (spell ·.type) ++ ";")]

def methodRemarks (m : Method) (doc : Comment) : List Remark :=
  memberRemarks "\t\t" spell (some doc) m.params ++
    doc.returns?.toList.map (returnsRemark "\t\t" (returnType m))

def methodElements (s : Surface) (className : String) (bound : BoundMethod) : List OutputElement :=
  let m := s.method? .javascript className bound
  let head := if bound.isStatic then "\t\tstatic " else "\t\t"
  [.container ⟨"\t\t", m.bind fun m => m.doc.map (methodRemarks m)⟩,
    .code (head ++ bound.name ++ signature m ++ ";")]

def classElements (s : Surface) (c : BoundClass) : List OutputElement :=
  ["", classHeader c].map .code ++ c.properties.flatMap (propertyElements s c.name) ++
    ((s.firstConstructor? c).toList.flatMap constructorLines).map .code ++
    c.methods.flatMap (methodElements s c.name) ++ [.code "\t\x7d"]

/-- The lines of code and the comments of the file. -/
def elements (s : Surface) (o : Options) : List OutputElement :=
  (["declare module '" ++ o.moduleName ++ "' \x7b", "",
    "\texport default function " ++ o.moduleName ++ "() : Promise<" ++ o.moduleClass ++ ">;"] ++
    s.bindings.enumList.flatMap enumLines ++ moduleClassLines s o).map .code ++
    (s.bindings.classes .javascript).flatMap (classElements s) ++ [.code "\x7d"]

lemma lines_paramRemark (doc : Comment) (p : Parameter) :
    (paramRemark "\t\t" (spell p.type) p.name (doc.param? p.name)).lines = [paramLine doc p] := by
  rw [paramLine]
  cases doc.param? p.name <;>
    simp [paramRemark, Remark.lines, Fragment.line, Fragment.text, String.append_assoc]

lemma lines_methodRemarks (m : Method) (doc : Comment) :
    ["\t\t/**"] ++ (methodRemarks m doc).flatMap Remark.lines ++ ["\t\t */"] = documentedMethod m doc := by
  simp only [methodRemarks, memberRemarks, List.flatMap_append, List.flatMap_map, Option.bind_some,
    lines_paramRemark, ← List.map_eq_flatMap]
  rw [documentedMethod]
  cases doc.summary? <;> cases doc.returns? <;>
    simp [descriptionRemark, returnsRemark, Remark.lines, Fragment.line, Fragment.text, String.append_assoc]

lemma lines_propertyElements (s : Surface) (className name : String) :
    (propertyElements s className name).flatMap scriptComments.lines = propertyLines s className name := by
  rw [propertyElements, propertyLines]
  cases s.property? className name with
  | none => simp [lines_comment, Style.lines_code]
  | some p =>
    cases h : p.doc.bind Comment.summary? <;>
      simp [h, lines_comment, Style.lines_code, Remark.lines]

lemma lines_methodElements (s : Surface) (className : String) (bound : BoundMethod) :
    (methodElements s className bound).flatMap scriptComments.lines = methodLines s className bound := by
  rw [methodElements, methodLines]
  cases s.method? .javascript className bound with
  | none => simp [methodComment, lines_ellipsis, Style.lines_code]
  | some m =>
    cases h : m.doc with
    | none => simp [methodComment, h, lines_ellipsis, Style.lines_code]
    | some doc => simp [methodComment, h, lines_comment, Style.lines_code, ← lines_methodRemarks]

lemma lines_classElements (s : Surface) (c : BoundClass) :
    (classElements s c).flatMap scriptComments.lines = classLines s c := by
  simp only [classElements, classLines, List.flatMap_append, List.flatMap_assoc, Style.flatMap_lines_code,
    lines_methodElements, lines_propertyElements]
  cases s.firstConstructor? c <;> simp [Style.lines_code]

lemma lines_elements (s : Surface) (o : Options) :
    fileLines s o = (elements s o).flatMap scriptComments.lines := by
  simp only [elements, fileLines, List.flatMap_append, List.flatMap_assoc, Style.flatMap_lines_code,
    lines_classElements]
  rfl

lemma framed_methodElements (s : Surface) (className : String) (bound : BoundMethod) :
    ∀ p ∈ methodElements s className bound, p.Framed blockComment := by
  refine framed_above (framed_container (by decide) ?_) _
  intro rs hrs r hr
  obtain ⟨m, -, hm⟩ := Option.bind_eq_some_iff.1 hrs
  obtain ⟨doc, -, rfl⟩ := Option.map_eq_some_iff.1 hm
  rcases List.mem_append.1 hr with hr | hr
  · exact framed_memberRemarks (by decide) spell (some doc) m.params r hr
  · obtain ⟨text, -, rfl⟩ := List.mem_map.1 hr
    exact framed_returnsRemark (by decide) _ text

lemma framed_propertyElements (s : Surface) (className name : String) :
    ∀ p ∈ propertyElements s className name, p.Framed blockComment := by
  refine framed_above (framed_container_some (by decide) ?_) _
  exact List.forall_mem_map.2 fun text _ => (separates_words (by decide)).leads

lemma framed_elements (s : Surface) (o : Options) : ∀ p ∈ elements s o, p.Framed blockComment := by
  refine List.forall_mem_append.2 ⟨List.forall_mem_append.2 ⟨framed_code _, ?_⟩, framed_code ["\x7d"]⟩
  refine List.forall_mem_flatMap.2 fun c _ => ?_
  refine List.forall_mem_append.2 ⟨List.forall_mem_append.2 ⟨List.forall_mem_append.2
    ⟨List.forall_mem_append.2 ⟨framed_code _, ?_⟩, framed_code _⟩, ?_⟩, framed_code ["\t\x7d"]⟩
  · exact List.forall_mem_flatMap.2 fun name _ => framed_propertyElements s c.name name
  · exact List.forall_mem_flatMap.2 fun m _ => framed_methodElements s c.name m

end ScriptTypes

/-- Documentation strings between three quotes on lines of their own. -/
def docstrings : Style where
  container := docstring
  lead := ""
  trail := ""
  ends_lead := by decide
  neutral_trail := by decide
  neutral_ellipsis := by decide

namespace Skeleton

def paramRemarks (level : Nat) (doc : Comment) (p : Parameter) : List Remark :=
  (doc.param? p.name).toList.map (Remark.headed
    [.own (pad level), .name (safeName p.name), .own " (", .name (spell p.type), .own "): "] (pad (level + 1)))

def resultRemark (level : Nat) (type text : String) : Remark :=
  .headed [.own (pad level), .name (spell type), .own ": "] (pad level) text

def heading (level : Nat) (words : String) : List Remark :=
  [.line [], .line [.own (pad level ++ words)]]

def docRemarks (level : Nat) (doc : Comment) (params : List Parameter) (returns : Option String) :
    List Remark :=
  doc.summary?.toList.map (Remark.prose (pad level)) ++
    (if (inputs params).any fun p => (doc.param? p.name).isSome then
      heading level "Args:" ++ (inputs params).flatMap (paramRemarks (level + 1) doc)
    else []) ++
    (returns.toList.flatMap fun type => doc.returns?.toList.flatMap fun text =>
      heading level "Returns:" ++ [resultRemark (level + 1) type text]) ++
    (outputs params).flatMap (paramRemarks (level + 1) doc)

def constructorElements (k : Constructor) : List OutputElement :=
  [.code (defLine "__init__" false ((inputs k.params).map (safeName ·.name)))] ++
    (k.doc.toList.map fun doc => .container ⟨pad 2, some (docRemarks 2 doc k.params none)⟩) ++
    [.code (pad 2 ++ "pass")]

def methodBody (bound : BoundMethod) : Option Method → List OutputElement
  | some m =>
    [.code (defLine bound.name bound.isStatic ((inputs m.params).map (safeName ·.name)))] ++
      m.doc.toList.map fun doc => .container ⟨pad 2, some (docRemarks 2 doc m.params (some m.returns))⟩
  | none =>
    [.code (defLine bound.name bound.isStatic (bound.args.map safeName)), .container ⟨pad 2, none⟩]

def methodElements (s : Surface) (className : String) (bound : BoundMethod) : List OutputElement :=
  (if bound.isStatic then [.code (pad 1 ++ "@staticmethod")] else []) ++
    methodBody bound (s.method? .python className bound) ++ [pad 2 ++ "pass", ""].map .code

def docOrPlaceholderContainer (level : Nat) (doc : Option Comment) : WrittenContainer :=
  ⟨pad level, doc.map fun doc => docRemarks level doc [] none⟩

def propertyElements (s : Surface) (className name : String) : List OutputElement :=
  [pad 1 ++ "@property", pad 1 ++ "def " ++ name ++ "(self):"].map .code ++
    [.container (docOrPlaceholderContainer 2 ((s.property? className name).bind (·.doc)))] ++
    [pad 2 ++ "return None", ""].map .code

def classElements (s : Surface) (c : BoundClass) : List OutputElement :=
  [.code (classHeader c), .container (docOrPlaceholderContainer 1 ((s.class? c.name).bind (·.doc)))] ++
    (s.firstConstructor? c).toList.flatMap constructorElements ++
    c.methods.flatMap (methodElements s c.name) ++
    c.properties.flatMap (propertyElements s c.name) ++ [.code ""]

/-- The lines of code and the documentation strings of the file. -/
def elements (s : Surface) : List OutputElement :=
  (Inheritance.basesFirst (s.bindings.classes .python)).flatMap (classElements s)

lemma lines_docstring (level : Nat) (rs : List Remark) : docstrings.lines (.container ⟨pad level, some rs⟩) =
    [pad level ++ quotes] ++ rs.flatMap Remark.lines ++ [pad level ++ quotes] := by
  simp [Style.lines, docstrings, docstring, quotes]

lemma lines_placeholder (level : Nat) :
    docstrings.lines (.container ⟨pad level, none⟩) = [pad level ++ placeholder] := by
  simp [Style.lines, docstrings, docstring, placeholder, String.append_assoc]

lemma lines_paramRemarks (level : Nat) (doc : Comment) (p : Parameter) :
    (paramRemarks level doc p).flatMap Remark.lines = paramLines level doc p := by
  rw [paramRemarks, paramLines]
  cases doc.param? p.name <;>
    simp [Remark.lines, Fragment.line, Fragment.text, String.append_assoc]

lemma lines_heading (level : Nat) (words : String) :
    (heading level words).flatMap Remark.lines = ["", pad level ++ words] := by
  simp [heading, Remark.lines, Fragment.line, Fragment.text]

lemma lines_docRemarks (level : Nat) (doc : Comment) (params : List Parameter) (returns : Option String) :
    docstrings.lines (.container ⟨pad level, some (docRemarks level doc params returns)⟩) =
      docLines level doc params returns := by
  have hargs : ((if (inputs params).any fun p => (doc.param? p.name).isSome then
      heading level "Args:" ++ (inputs params).flatMap (paramRemarks (level + 1) doc) else []).flatMap
        Remark.lines) =
      if (inputs params).any fun p => (doc.param? p.name).isSome then
        ["", pad level ++ "Args:"] ++ (inputs params).flatMap (paramLines (level + 1) doc) else [] := by
    split
    · rw [List.flatMap_append, lines_heading, List.flatMap_assoc]
      simp only [lines_paramRemarks]
    · rfl
  unfold docLines
  rw [lines_docstring, docRemarks]
  simp only [List.flatMap_append, hargs, List.flatMap_assoc, lines_paramRemarks]
  cases doc.summary? <;> cases returns <;> cases doc.returns? <;>
    simp [Remark.lines, lines_heading, resultRemark, Fragment.line, Fragment.text, String.append_assoc]

lemma lines_docOrPlaceholder (level : Nat) (doc : Option Comment) :
    docstrings.lines (.container (docOrPlaceholderContainer level doc)) = docOrPlaceholder level doc := by
  cases doc with
  | none => exact lines_placeholder level
  | some doc => exact lines_docRemarks level doc [] none

lemma lines_constructorElements (k : Constructor) :
    (constructorElements k).flatMap docstrings.lines = constructorLines k := by
  rw [constructorElements, constructorLines]
  cases k.doc <;> simp [Style.lines_code, lines_docRemarks]

lemma lines_methodElements (s : Surface) (className : String) (bound : BoundMethod) :
    (methodElements s className bound).flatMap docstrings.lines = methodLines s className bound := by
  rw [methodElements, methodLines]
  cases s.method? .python className bound with
  | none => by_cases h : bound.isStatic <;> simp [h, methodBody, Style.lines_code, lines_placeholder]
  | some m =>
    cases hdoc : m.doc <;> by_cases h : bound.isStatic <;>
      simp [h, hdoc, methodBody, Style.lines_code, lines_docRemarks]

lemma lines_propertyElements (s : Surface) (className name : String) :
    (propertyElements s className name).flatMap docstrings.lines = propertyLines s className name := by
  simp [propertyElements, propertyLines, Style.lines_code, lines_docOrPlaceholder]

lemma lines_classElements (s : Surface) (c : BoundClass) :
    (classElements s c).flatMap docstrings.lines = classLines s c := by
  simp only [classElements, classLines, List.flatMap_append, List.flatMap_assoc, lines_methodElements,
    lines_propertyElements]
  cases s.firstConstructor? c <;>
    simp [Style.lines_code, lines_docOrPlaceholder, lines_constructorElements]

lemma lines_elements (s : Surface) : fileLines s = (elements s).flatMap docstrings.lines := by
  simp only [fileLines, elements, List.flatMap_assoc, lines_classElements]

lemma neutral_pad (level : Nat) : (pad level).toList.all docstring.isNeutral = true := by
  refine List.all_eq_true.2 fun c hc => ?_
  rw [pad, String.toList_ofList] at hc
  rw [(List.mem_replicate.1 hc).2]
  decide

lemma framed_paramRemarks (level : Nat) (doc : Comment) (p : Parameter) :
    ∀ r ∈ paramRemarks level doc p, r.Framed docstring := by
  refine List.forall_mem_map.2 fun text _ => ⟨fun l => ?_, leads_of_neutral (neutral_pad _)⟩
  exact .own (leads_of_neutral (neutral_pad level)) (.apart rfl (separates_words (by decide))
    (.apart rfl (separates_words (by decide)) (.last rfl)))

lemma framed_resultRemark (level : Nat) (type text : String) :
    (resultRemark level type text).Framed docstring :=
  ⟨fun _ => .own (leads_of_neutral (neutral_pad level)) (.apart rfl (separates_words (by decide)) (.last rfl)),
    leads_of_neutral (neutral_pad level)⟩

lemma framed_heading (level : Nat) {words : String} (h : docstring.isSeparator words.toList = true) :
    ∀ r ∈ heading level words, r.Framed docstring :=
  List.forall_mem_cons.2 ⟨.nil, List.forall_mem_singleton.2 (.own (leads_margined (neutral_pad level) h) .nil)⟩

lemma framed_docRemarks (level : Nat) (doc : Comment) (params : List Parameter) (returns : Option String) :
    ∀ r ∈ docRemarks level doc params returns, r.Framed docstring := by
  refine List.forall_mem_append.2 ⟨List.forall_mem_append.2 ⟨List.forall_mem_append.2 ⟨?_, ?_⟩, ?_⟩, ?_⟩
  · exact List.forall_mem_map.2 fun _ _ => leads_of_neutral (neutral_pad level)
  · split
    · refine List.forall_mem_append.2 ⟨framed_heading level (by decide), ?_⟩
      exact List.forall_mem_flatMap.2 fun p _ => framed_paramRemarks (level + 1) doc p
    · exact List.forall_mem_nil _
  · refine List.forall_mem_flatMap.2 fun type _ => List.forall_mem_flatMap.2 fun text _ => ?_
    exact List.forall_mem_append.2 ⟨framed_heading level (by decide),
      List.forall_mem_singleton.2 (framed_resultRemark (level + 1) type text)⟩
  · exact List.forall_mem_flatMap.2 fun p _ => framed_paramRemarks (level + 1) doc p

lemma framed_docContainer (level : Nat) (doc : Comment) (params : List Parameter) (returns : Option String) :
    (OutputElement.container ⟨pad level, some (docRemarks level doc params returns)⟩).Framed docstring :=
  framed_container_some (neutral_pad level) (framed_docRemarks level doc params returns)

lemma framed_docOrPlaceholder (level : Nat) (doc : Option Comment) :
    (OutputElement.container (docOrPlaceholderContainer level doc)).Framed docstring := by
  refine framed_container (neutral_pad level) fun rs hrs => ?_
  obtain ⟨doc, -, rfl⟩ := Option.map_eq_some_iff.1 hrs
  exact framed_docRemarks level doc [] none

lemma framed_constructorElements (k : Constructor) : ∀ p ∈ constructorElements k, p.Framed docstring := by
  refine List.forall_mem_append.2 ⟨List.forall_mem_append.2 ⟨framed_code [_], ?_⟩, framed_code [_]⟩
  exact List.forall_mem_map.2 fun doc _ => framed_docContainer 2 doc k.params none

lemma framed_methodBody (bound : BoundMethod) (m : Option Method) :
    ∀ p ∈ methodBody bound m, p.Framed docstring := by
  cases m with
  | none =>
    exact List.forall_mem_cons.2 ⟨trivial, List.forall_mem_singleton.2 (framed_docOrPlaceholder 2 none)⟩
  | some m =>
    refine List.forall_mem_append.2 ⟨framed_code [_], ?_⟩
    exact List.forall_mem_map.2 fun doc _ => framed_docContainer 2 doc m.params (some m.returns)

lemma framed_methodElements (s : Surface) (className : String) (bound : BoundMethod) :
    ∀ p ∈ methodElements s className bound, p.Framed docstring := by
  refine List.forall_mem_append.2 ⟨List.forall_mem_append.2 ⟨?_, framed_methodBody bound _⟩, framed_code _⟩
  split
  · exact framed_code [_]
  · exact List.forall_mem_nil _

lemma framed_propertyElements (s : Surface) (className name : String) :
    ∀ p ∈ propertyElements s className name, p.Framed docstring :=
  List.forall_mem_append.2 ⟨List.forall_mem_append.2 ⟨framed_code _,
    List.forall_mem_singleton.2 (framed_docOrPlaceholder 2 _)⟩, framed_code _⟩

lemma framed_elements (s : Surface) : ∀ p ∈ elements s, p.Framed docstring := by
  refine List.forall_mem_flatMap.2 fun c _ => ?_
  refine List.forall_mem_append.2 ⟨List.forall_mem_append.2 ⟨List.forall_mem_append.2
    ⟨List.forall_mem_append.2 ⟨?_, ?_⟩, ?_⟩, ?_⟩, framed_code [""]⟩
  · exact List.forall_mem_cons.2 ⟨trivial, List.forall_mem_singleton.2 (framed_docOrPlaceholder 1 _)⟩
  · exact List.forall_mem_flatMap.2 fun k _ => framed_constructorElements k
  · exact List.forall_mem_flatMap.2 fun m _ => framed_methodElements s c.name m
  · exact List.forall_mem_flatMap.2 fun name _ => framed_propertyElements s c.name name

end Skeleton

/-- In the script outputs a comment, and in the skeleton a documentation string, ends where it is meant
to end exactly if no text, type or name that is shown in it holds its closing. -/
theorem containers_end_as_written_iff (s : Surface) (o : Options) :
    scriptComments.Encloses (ScriptDoc.elements s) (ScriptDoc.artifacts s o) ∧
      scriptComments.Encloses (ScriptTypes.elements s o) (ScriptTypes.artifacts s o) ∧
      docstrings.Encloses (Skeleton.elements s) (Skeleton.artifacts s o) :=
  ⟨Style.encloses (ScriptDoc.lines_elements s) (ScriptDoc.framed_elements s) _,
    Style.encloses (ScriptTypes.lines_elements s o) (ScriptTypes.framed_elements s o) _,
    Style.encloses (Skeleton.lines_elements s) (Skeleton.framed_elements s) _⟩

/-- A property whose summary holds the closings of a comment and of a documentation string. -/
def closingSummary : Input :=
  ⟨"public class A \x7b\n/// <summary>*/ \"\"\"</summary>\npublic int P \x7b get; \x7d \x7d", []⟩

def closingBindings : BindingSet :=
  (BindingSet.empty.insert (.bound .javascript ⟨"A", none, [], ["P"], []⟩)).insert
    (.bound .python ⟨"A", none, [], ["P"], []⟩)

/-- In each of the three outputs the summary of a property can end the container it is shown in. -/
theorem summary_ends_its_container :
    (¬ ∀ (inputs : List Input) (bs : BindingSet) (before : List OutputElement) (b : WrittenContainer)
      (after : List OutputElement),
      ScriptDoc.elements ⟨Model.empty.afterAll inputs, bs⟩ = before ++ .container b :: after →
        scriptComments.EndsAsWritten b after) ∧
    (¬ ∀ (inputs : List Input) (bs : BindingSet) (o : Options) (before : List OutputElement)
      (b : WrittenContainer) (after : List OutputElement),
      ScriptTypes.elements ⟨Model.empty.afterAll inputs, bs⟩ o = before ++ .container b :: after →
        scriptComments.EndsAsWritten b after) ∧
    ¬ ∀ (inputs : List Input) (bs : BindingSet) (before : List OutputElement) (b : WrittenContainer)
      (after : List OutputElement),
      Skeleton.elements ⟨Model.empty.afterAll inputs, bs⟩ = before ++ .container b :: after →
        docstrings.EndsAsWritten b after := by
  refine ⟨fun h => ?_, fun h => ?_, fun h => ?_⟩
  · have hends := h [closingSummary] closingBindings
      [.container ⟨"", some [.line [.own " * ", .name "A"], .line [.own " * @hideconstructor"]]⟩,
        .code "class A \x7b"]
      ⟨"  ", some [.line [.own "   * @description ", .folded "*/ \"\"\""],
        .line [.own "   * @type \x7b", .name "number", .own "\x7d"]]⟩
      [.code "  get P() \x7b return null;\x7d", .code "\x7d"] (by decide +kernel)
    exact absurd hends (by decide +kernel)
  · have hends := h [closingSummary] closingBindings {}
      (["declare module 'rhino3dm' \x7b", "",
        "\texport default function rhino3dm() : Promise<RhinoModule>;", "", "\tclass RhinoModule \x7b",
        "\t\tA: typeof A;", "\t\x7d", "", "\tclass A \x7b"].map .code)
      ⟨"\t\t", some [.prose "\t\t * " "*/ \"\"\""]⟩
      (["\t\tP: number;", "\t\x7d", "\x7d"].map .code) (by decide +kernel)
    exact absurd hends (by decide +kernel)
  · have hends := h [closingSummary] closingBindings
      [.code "class A:", .container ⟨"    ", none⟩, .code "    @property", .code "    def P(self):"]
      ⟨"        ", some [.prose "        " "*/ \"\"\""]⟩
      [.code "        return None", .code "", .code ""] (by decide +kernel)
    exact absurd hends (by decide +kernel)

end BindingDocs.Output
