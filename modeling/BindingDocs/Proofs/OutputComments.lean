import BindingDocs.Output.Emitter
import BindingDocs.Proofs.OutputLayouts
import BindingDocs.Proofs.Registry

/-! What documentation changes in the outputs. Type hints do not depend on it, and in the script outputs
it stands on comment lines only: no text of a comment reaches a line of code, and no line of code is
there or not for the sake of a comment. -/
namespace BindingDocs

lemma Registry.get?_mapValues {α β : Type} (r : Registry α) (f : α → β) (key : String) :
    (r.mapValues f).get? key = (r.get? key).map f := by
  simp [get?, mapValues, List.find?_map, Function.comp_def]

namespace Reference

def Constructor.undocumented (k : Constructor) : Constructor := { k with doc := none }

def Method.undocumented (m : Method) : Method := { m with doc := none }

def Property.undocumented (p : Property) : Property := { p with doc := none }

namespace Class

def undocumented (c : Class) : Class where
  qualifiedName := c.qualifiedName
  doc := none
  constructors := c.constructors.map Constructor.undocumented
  methods := c.methods.map Method.undocumented
  properties := c.properties.map Property.undocumented

lemma methodsNamed_undocumented (c : Class) (name : String) :
    c.undocumented.methodsNamed name = (c.methodsNamed name).map Method.undocumented := by
  simp [methodsNamed, undocumented, List.filter_map, Function.comp_def, Method.undocumented]

lemma property?_undocumented (c : Class) (name : String) :
    c.undocumented.property? name = (c.property? name).map Property.undocumented := by
  simp [property?, undocumented, List.find?_map, Function.comp_def, Property.undocumented]

end Class

/-- A model with the same declarations and no documentation. -/
def Model.undocumented (m : Model) : Model := ⟨m.classes.mapValues Class.undocumented⟩

end Reference

namespace Surface
open BindingDocs.Reference BindingDocs.Registration

def undocumented (s : Surface) : Surface := ⟨s.reference.undocumented, s.bindings⟩

variable (s : Surface)

lemma class?_undocumented (name : String) :
    s.undocumented.class? name = (s.class? name).map Class.undocumented :=
  s.reference.classes.get?_mapValues _ _

lemma constructor?_undocumented (className : String) (types : List String) :
    s.undocumented.constructor? className types =
      (s.constructor? className types).map Constructor.undocumented := by
  rw [constructor?, constructor?, class?_undocumented]
  cases s.class? className with
  | none => rfl
  | some c => exact List.find?_map

lemma firstConstructor?_undocumented (c : BoundClass) :
    s.undocumented.firstConstructor? c = (s.firstConstructor? c).map Constructor.undocumented := by
  rw [firstConstructor?, firstConstructor?, funext (s.constructor?_undocumented c.name)]
  exact List.map_findSome?.symm

lemma method?_undocumented (d : Dialect) (className : String) (b : BoundMethod) :
    s.undocumented.method? d className b = (s.method? d className b).map Method.undocumented := by
  have harguments : s.undocumented.arguments? d className b = s.arguments? d className b := rfl
  rw [method?, method?, class?_undocumented, harguments]
  cases s.class? className with
  | none => rfl
  | some c =>
    simp only [Option.map_some, Option.bind_eq_bind, Option.bind_some, c.methodsNamed_undocumented,
      List.head?_map]
    cases (c.methodsNamed b.name).head? with
    | none => rfl
    | some first =>
      cases s.arguments? d className b with
      | none => rfl
      | some args =>
        have hfind : ((c.methodsNamed b.name).map Method.undocumented).find?
              (fun m => (inputs m.params).length == args.length) =
            ((c.methodsNamed b.name).find? fun m => (inputs m.params).length == args.length).map
              Method.undocumented := List.find?_map
        simp only [Option.map_some, Option.bind_some, hfind, Option.getD_map, Option.pure_def]

lemma property?_undocumented (className name : String) :
    s.undocumented.property? className name =
      (s.property? className name).map Property.undocumented := by
  rw [property?, property?, class?_undocumented]
  cases s.class? className with
  | none => rfl
  | some c => exact c.property?_undocumented name

end Surface

namespace Output
open BindingDocs.Documentation BindingDocs.Reference BindingDocs.Registration BindingDocs.Text

lemma lineReference_undocumented_iff {c : Reference.Class} :
    LineReference c.undocumented ↔ LineReference c := by
  have hconstructors : (∀ k ∈ c.undocumented.constructors, LineParams k.params) ↔
      ∀ k ∈ c.constructors, LineParams k.params := List.forall_mem_map
  have hmethods : (∀ m ∈ c.undocumented.methods, LineParams m.params ∧ IsLine m.returns) ↔
      ∀ m ∈ c.methods, LineParams m.params ∧ IsLine m.returns := List.forall_mem_map
  have hproperties : (∀ p ∈ c.undocumented.properties, IsLine p.type) ↔
      ∀ p ∈ c.properties, IsLine p.type := List.forall_mem_map
  constructor
  · intro h
    exact ⟨hconstructors.1 h.constructors, hmethods.1 h.methods, hproperties.1 h.properties⟩
  · intro h
    exact ⟨hconstructors.2 h.constructors, hmethods.2 h.methods, hproperties.2 h.properties⟩

lemma lineNames_undocumented_iff {s : Surface} {o : Options} :
    LineNames s.undocumented o ↔ LineNames s o := by
  have hlist : s.undocumented.reference.list = s.reference.list.map Reference.Class.undocumented := by
    simp [Surface.undocumented, Model.undocumented, Model.list, Registry.values, Registry.mapValues]
  have hreference : (∀ c ∈ s.undocumented.reference.list, LineReference c) ↔
      ∀ c ∈ s.reference.list, LineReference c := by
    rw [hlist, List.forall_mem_map]
    exact forall₂_congr fun _ _ => lineReference_undocumented_iff
  constructor
  · intro h
    exact ⟨h.moduleName, h.moduleClass, h.classes, h.enums, hreference.1 h.reference⟩
  · intro h
    exact ⟨h.moduleName, h.moduleClass, h.classes, h.enums, hreference.2 h.reference⟩

/-- Characters that may stand before the mark of a comment line. -/
def isMargin (c : Char) : Bool := c == ' ' || c == '\t'

/-- A line that begins, behind its margin, with the mark of a comment. -/
def isCommentLine (line : List Char) : Bool :=
  let text := line.dropWhile isMargin
  "/**".toList.isPrefixOf text || "*".toList.isPrefixOf text

/-- The lines of a text that are no comment lines. -/
def codeLines (contents : String) : List (List Char) :=
  (splitAt '\n' contents.toList).filter (!isCommentLine ·)

/-- The same of a text whose lines are given. -/
def withoutComments (ls : List String) : List String := ls.filter (!isCommentLine ·.toList)

lemma codeLines_unlines {ls : List String} (h : Lined ls) :
    codeLines (unlines ls) = (withoutComments ls).map String.toList ++ [[]] := by
  rw [codeLines, splitAt_unlines h, List.filter_append, List.filter_map]
  rfl

lemma withoutComments_append (ls ls' : List String) :
    withoutComments (ls ++ ls') = withoutComments ls ++ withoutComments ls' := List.filter_append ..

lemma withoutComments_flatMap_congr {α : Type} {f g : α → List String} (items : List α)
    (h : ∀ a, withoutComments (f a) = withoutComments (g a)) :
    withoutComments (items.flatMap f) = withoutComments (items.flatMap g) := by
  simp only [withoutComments, List.filter_flatMap] at h ⊢
  rw [funext h]

lemma isCommentLine_append {margin : List Char} (h : ∀ c ∈ margin, isMargin c = true)
    (text : List Char) : isCommentLine (margin ++ text) = isCommentLine text := by
  rw [isCommentLine, List.dropWhile_append_of_pos h, isCommentLine]

/-- All lines of a comment are comment lines. -/
lemma ScriptComment.withoutComments_eq_nil {margin : String} {block : List String}
    (h : ScriptComment margin block) (hmargin : ∀ c ∈ margin.toList, isMargin c = true) :
    withoutComments block = [] := by
  have hline : ∀ text : List Char, isCommentLine text = true →
      isCommentLine (margin.toList ++ text) = true := by
    intro text htext
    rw [isCommentLine_append hmargin, htext]
  have hall : ∀ l ∈ block, isCommentLine l.toList = true := by
    cases h with
    | placeholder => simpa using hline "/** ... */".toList (by decide)
    | @block ls marked =>
      have hinner : ∀ l ∈ ls, isCommentLine l.toList = true := by
        intro l hl
        obtain ⟨rest, hrest⟩ := marked l hl
        rw [← hrest, String.toList_append, List.append_assoc]
        exact hline _ rfl
      simpa [or_imp, forall_and] using
        ⟨hline "/**".toList (by decide), hinner, hline " */".toList (by decide)⟩
  simpa [withoutComments] using hall

lemma Documented.withoutComments_eq {Doc : List String → Prop} {ls code : List String}
    (h : Documented Doc ls code) (hdoc : ∀ block, Doc block → withoutComments block = []) :
    withoutComments ls = withoutComments code := h.filter_eq hdoc

namespace ScriptDoc

lemma withoutComments_doc {block : List String} (h : scriptDoc.Doc block) :
    withoutComments block = [] := by
  rcases h with h | h
  · exact h.withoutComments_eq_nil (by simp [isMargin])
  · exact h.withoutComments_eq_nil (by simp [isMargin])

lemma code_constructorLines (k : Constructor) :
    withoutComments (constructorLines k.undocumented) = withoutComments (constructorLines k) := by
  have hcode : ∀ x : Constructor, withoutComments (constructorLines x) =
      withoutComments (scriptDocForm.constructorCode (inputs x.params)) :=
    fun x => (documented_constructor x).withoutComments_eq fun _ => withoutComments_doc
  rw [hcode, hcode]
  rfl

section
variable (s : Surface)

lemma code_methodLines (className : String) (b : BoundMethod) :
    withoutComments (methodLines s.undocumented className b) =
      withoutComments (methodLines s className b) := by
  simp only [methodLines, withoutComments_append, withoutComments_doc (isDoc_methodComment _),
    s.method?_undocumented]
  cases s.method? .javascript className b <;> rfl

lemma code_propertyLines (className name : String) :
    withoutComments (propertyLines s.undocumented className name) =
      withoutComments (propertyLines s className name) := by
  obtain ⟨_, rfl, hdoc⟩ := documented_property s className name
  obtain ⟨_, rfl, hbare⟩ := documented_property s.undocumented className name
  rw [hdoc.withoutComments_eq fun _ => withoutComments_doc,
    hbare.withoutComments_eq fun _ => withoutComments_doc]

lemma code_classLines (c : BoundClass) :
    withoutComments (classLines s.undocumented c) = withoutComments (classLines s c) := by
  have hconstructor : withoutComments ((s.undocumented.firstConstructor? c).elim [] constructorLines) =
      withoutComments ((s.firstConstructor? c).elim [] constructorLines) := by
    rw [s.firstConstructor?_undocumented]
    cases s.firstConstructor? c with
    | none => rfl
    | some k => exact code_constructorLines k
  simp only [classLines_eq, withoutComments_append, withoutComments_doc (isDoc_classComment _ _),
    hconstructor, withoutComments_flatMap_congr c.methods (code_methodLines s c.name),
    withoutComments_flatMap_congr c.properties (code_propertyLines s c.name)]

lemma code_fileLines : withoutComments (fileLines s.undocumented) = withoutComments (fileLines s) :=
  withoutComments_flatMap_congr _ (code_classLines s)

end
end ScriptDoc

namespace ScriptTypes

lemma withoutComments_doc {block : List String} (h : scriptTypes.Doc block) :
    withoutComments block = [] := ScriptComment.withoutComments_eq_nil h (by simp [isMargin])

section
variable (s : Surface)

lemma code_methodLines (className : String) (b : BoundMethod) :
    withoutComments (methodLines s.undocumented className b) =
      withoutComments (methodLines s className b) := by
  simp only [methodLines, withoutComments_append, withoutComments_doc (isDoc_methodComment _),
    s.method?_undocumented]
  cases s.method? .javascript className b <;> rfl

lemma code_propertyLines (className name : String) :
    withoutComments (propertyLines s.undocumented className name) =
      withoutComments (propertyLines s className name) := by
  rw [(documented_property s className name).withoutComments_eq fun _ => withoutComments_doc,
    (documented_property s.undocumented className name).withoutComments_eq
      fun _ => withoutComments_doc, s.property?_undocumented]
  cases s.property? className name <;> rfl

lemma code_classLines (c : BoundClass) :
    withoutComments (classLines s.undocumented c) = withoutComments (classLines s c) := by
  have hconstructor : (s.undocumented.firstConstructor? c).elim [] constructorLines =
      (s.firstConstructor? c).elim [] constructorLines := by
    rw [s.firstConstructor?_undocumented]
    cases s.firstConstructor? c <;> rfl
  simp only [classLines_eq, withoutComments_append, hconstructor,
    withoutComments_flatMap_congr c.methods (code_methodLines s c.name),
    withoutComments_flatMap_congr c.properties (code_propertyLines s c.name)]

lemma code_fileLines (o : Options) :
    withoutComments (fileLines s.undocumented o) = withoutComments (fileLines s o) := by
  have hmodule : moduleClassLines s.undocumented o = moduleClassLines s o := rfl
  have hbindings : s.undocumented.bindings = s.bindings := rfl
  simp only [fileLines, withoutComments_append, hmodule, hbindings,
    withoutComments_flatMap_congr _ (code_classLines s)]

end
end ScriptTypes

namespace Hints
variable (s : Surface)

lemma bodyLines_undocumented (c : BoundClass) : bodyLines s.undocumented c = bodyLines s c := by
  have hconstructor : constructorLines s.undocumented c = constructorLines s c := by
    rw [constructorLines, s.firstConstructor?_undocumented, constructorLines]
    cases s.firstConstructor? c <;> rfl
  have hproperty : propertyLines s.undocumented c.name = propertyLines s c.name := by
    funext name
    rw [propertyLines, s.property?_undocumented, propertyLines]
    cases s.property? c.name name <;> rfl
  have hmethod : methodLines s.undocumented c.name = methodLines s c.name := by
    funext b
    rw [methodLines, s.method?_undocumented, methodLines]
    cases s.method? .python c.name b <;> rfl
  rw [bodyLines, hconstructor, hproperty, hmethod, bodyLines]

lemma artifacts_undocumented (o : Options) : artifacts s.undocumented o = artifacts s o := by
  have hclass : classLines s.undocumented = classLines s := by
    funext c
    rw [classLines, bodyLines_undocumented, classLines]
  have hbindings : s.undocumented.bindings = s.bindings := rfl
  rw [artifacts, fileLines, hclass, hbindings, artifacts, fileLines]

end Hints

/-- Documentation affects comments only. Two models that differ in nothing but documentation give the
same type hints, and script classes and type declarations with the same lines of code, in order. -/
theorem documentation_affects_only_comments (b : BindingSet) (o : Options) (m m' : Model)
    (same : m.undocumented = m'.undocumented) :
    Emitter.pyi.artifacts ⟨m, b⟩ o = Emitter.pyi.artifacts ⟨m', b⟩ o ∧
    (LineNames ⟨m, b⟩ o → ∀ e ∈ [Emitter.jsdoc, Emitter.typescript], ∃ path contents contents',
      e.artifacts ⟨m, b⟩ o = [⟨path, contents⟩] ∧ e.artifacts ⟨m', b⟩ o = [⟨path, contents'⟩] ∧
      codeLines contents = codeLines contents') := by
  have hsurface : (⟨m, b⟩ : Surface).undocumented = (⟨m', b⟩ : Surface).undocumented := by
    rw [Surface.undocumented, same, Surface.undocumented]
  refine ⟨?_, fun names => ?_⟩
  · calc Hints.artifacts ⟨m, b⟩ o
        = Hints.artifacts (⟨m, b⟩ : Surface).undocumented o := (Hints.artifacts_undocumented _ o).symm
      _ = Hints.artifacts ⟨m', b⟩ o := by rw [hsurface, Hints.artifacts_undocumented]
  · have names' : LineNames ⟨m', b⟩ o :=
      lineNames_undocumented_iff.1 (hsurface ▸ lineNames_undocumented_iff.2 names)
    have hclasses : codeLines (unlines (ScriptDoc.fileLines ⟨m, b⟩)) =
        codeLines (unlines (ScriptDoc.fileLines ⟨m', b⟩)) := by
      rw [codeLines_unlines (ScriptDoc.lined_fileLines names),
        codeLines_unlines (ScriptDoc.lined_fileLines names'), ← ScriptDoc.code_fileLines, hsurface,
        ScriptDoc.code_fileLines]
    have htypes : codeLines (unlines (ScriptTypes.fileLines ⟨m, b⟩ o)) =
        codeLines (unlines (ScriptTypes.fileLines ⟨m', b⟩ o)) := by
      rw [codeLines_unlines (ScriptTypes.lined_fileLines names),
        codeLines_unlines (ScriptTypes.lined_fileLines names'), ← ScriptTypes.code_fileLines, hsurface,
        ScriptTypes.code_fileLines]
    simpa using ⟨⟨_, _, rfl, _, rfl, hclasses⟩, ⟨_, _, rfl, _, rfl, htypes⟩⟩

/-- A circle of which all that can be documented has one and the same comment. -/
def commentedCircle (doc : Option Comment) : Surface where
  reference := Model.empty.update "Circle" fun c =>
    { c with
      doc := doc
      constructors := [⟨[⟨"radius", "double", .byValue⟩], doc⟩]
      methods := [⟨"Scale", "bool", [⟨"factor", "double", .byValue⟩], false, doc⟩]
      properties := [⟨"Radius", "double", false, doc⟩] }
  bindings := BindingSet.empty.insert (.bound .javascript
    ⟨"Circle", none, [["double"]], ["Radius"], [⟨"Scale", false, "&BND_Circle::Scale", []⟩]⟩)

/-- A comment with lines that look like code and the end of a comment. -/
def misleadingComment : Comment :=
  let text := "A circle.\n\n*/ class Sphere \x7b \x7d\n"
  ⟨text, [⟨.summary, text⟩, ⟨.param "radius", text⟩, ⟨.param "factor", text⟩, ⟨.returns, text⟩]⟩

theorem documentation_affects_only_comments_circle :
    let bare := commentedCircle none
    let misled := commentedCircle (some misleadingComment)
    bare.reference.undocumented = misled.reference.undocumented ∧ LineNames bare {} ∧
    Emitter.jsdoc.artifacts bare {} ≠ Emitter.jsdoc.artifacts misled {} ∧
    Emitter.pyi.artifacts bare {} = Emitter.pyi.artifacts misled {} ∧
    ∀ e ∈ [Emitter.jsdoc, Emitter.typescript], ∃ path contents contents',
      e.artifacts bare {} = [⟨path, contents⟩] ∧ e.artifacts misled {} = [⟨path, contents'⟩] ∧
      codeLines contents = codeLines contents' := by
  intro bare misled
  have hsame : bare.reference.undocumented = misled.reference.undocumented := rfl
  have hnames : LineNames bare {} := by
    refine ⟨by decide, by decide, ?_, List.forall_mem_nil _, ?_⟩
    · intro d
      cases d with
      | javascript =>
        exact List.forall_mem_singleton.2 ⟨by decide, by decide, by decide, by decide⟩
      | python => exact List.forall_mem_nil _
    · exact List.forall_mem_singleton.2 ⟨by decide, by decide, by decide⟩
  have hall := documentation_affects_only_comments bare.bindings {} bare.reference misled.reference hsame
  exact ⟨hsame, hnames, by decide +kernel, hall.1, hall.2 hnames⟩

end Output
end BindingDocs
