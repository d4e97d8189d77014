import BindingDocs.Proofs.OutputLayouts

/-! The margins of pages and skeletons. Indentation says what belongs to what in these outputs, and no
text of the documentation changes it. -/
namespace BindingDocs.Output
open BindingDocs.Documentation BindingDocs.Reference BindingDocs.Registration BindingDocs.Text

/-- The lines of an output, between its line feeds. -/
def contentLines (contents : String) : List String := (splitAt '\n' contents.toList).map String.ofList

lemma contentLines_unlines {ls : List String} (h : Lined ls) : contentLines (unlines ls) = ls ++ [""] := by
  rw [contentLines, splitAt_unlines h, List.map_append, List.map_map]
  simp

namespace Pages

/-- The kinds of directives that stand for members. -/
def memberKinds : List String := ["py:method", "py:staticmethod", "py:attribute"]

/-- A line with the directive of a member. -/
def isDirective (l : String) : Bool :=
  memberKinds.any fun kind => ("   .. " ++ kind ++ "::").toList.isPrefixOf l.toList

/-- The directives of the members of a class: one for every registered constructor, with the inputs of
the declaration that it matches, then one for every property and one for every method. -/
def memberDirectives (s : Surface) (c : BoundClass) : List String :=
  (c.constructors.map fun types =>
      constructorDirective c.name ((s.constructor? c.name types).elim [] (inputs ·.params))) ++
    c.properties.map propertyDirective ++ c.methods.map methodDirective

/-- What stands on a page below the directive of its class. -/
def bodyLines (s : Surface) (c : BoundClass) : List String :=
  (s.constructors c).flatMap (fun k => constructorLines c.name k.2) ++
    c.properties.flatMap (attributeLines s c.name) ++ c.methods.flatMap (methodLines s c.name)

lemma page_eq (s : Surface) (o : Options) (c : BoundClass) :
    page s o c = pageHeader o.moduleName c.name ++ bodyLines s c := by
  simp [page, bodyLines]

/-- A directive has another character where the margin of prose goes on. -/
lemma isDirective_of_margin {l : String} (h : margin.toList <+: l.toList) : isDirective l = false := by
  obtain ⟨rest, hrest⟩ := h
  simp [isDirective, memberKinds, ← hrest, margin, List.isPrefixOf]

lemma isDirective_directiveLine {kind : String} (h : kind ∈ memberKinds) (text : String) :
    isDirective (directiveLine kind text) = true := by
  refine List.any_eq_true.2 ⟨kind, h, List.isPrefixOf_iff_prefix.2 ⟨' ' :: text.toList, ?_⟩⟩
  simp [directiveLine]

lemma isDirective_of_mem {s : Surface} {c : BoundClass} {l : String} (h : l ∈ memberDirectives s c) :
    isDirective l = true := by
  rw [memberDirectives, List.mem_append, List.mem_append] at h
  rcases h with (h | h) | h
  · obtain ⟨types, -, rfl⟩ := List.mem_map.1 h
    exact isDirective_directiveLine (by decide) _
  · obtain ⟨name, -, rfl⟩ := List.mem_map.1 h
    exact isDirective_directiveLine (by decide) _
  · obtain ⟨m, -, rfl⟩ := List.mem_map.1 h
    refine isDirective_directiveLine ?_ _
    cases m.isStatic <;> decide

/-- Below the directive of its class, a page is made of the directives of the members with prose
between them. -/
lemma documented_bodyLines (s : Surface) (o : Options) (c : BoundClass) :
    Documented (pages o).Doc (bodyLines s c) ((memberDirectives s c).flatMap setApart) := by
  have hconstructors : Documented (pages o).Doc
      ((s.constructors c).flatMap fun k => constructorLines c.name k.2)
      ((s.constructors c).flatMap fun k => pageConstructor c.name (k.2.elim [] (inputs ·.params))) :=
    Documented.flatMapCode fun k _ => documented_constructor c.name k.2 o
  have hproperties : Documented (pages o).Doc (c.properties.flatMap (attributeLines s c.name))
      (c.properties.flatMap fun name => setApart (propertyDirective name)) := by
    refine Documented.flatMapCode fun name _ => ?_
    obtain ⟨code, rfl, hdoc⟩ := documented_attribute s c.name name o
    exact hdoc
  have hmethods : Documented (pages o).Doc (c.methods.flatMap (methodLines s c.name))
      (c.methods.flatMap fun m => setApart (methodDirective m)) := by
    refine Documented.flatMapCode fun m _ => ?_
    obtain ⟨code, rfl, hdoc⟩ := documented_method s c.name m o
    exact hdoc
  have hcode : (memberDirectives s c).flatMap setApart =
      ((s.constructors c).flatMap fun k => pageConstructor c.name (k.2.elim [] (inputs ·.params))) ++
        (c.properties.flatMap fun name => setApart (propertyDirective name)) ++
        (c.methods.flatMap fun m => setApart (methodDirective m)) := by
    simp [memberDirectives, pageConstructor, Surface.constructors, List.flatMap_map]
  rw [hcode]
  exact (hconstructors.append hproperties).append hmethods

lemma filter_setApart {l : String} (h : isDirective l = true) : (setApart l).filter isDirective = [l] := by
  simp [setApart, h, (by decide : isDirective "" = false)]

/-- The directives that are found on a page are those of the members. -/
lemma filter_bodyLines (s : Surface) (c : BoundClass) :
    (bodyLines s c).filter isDirective = memberDirectives s c := by
  have hprose : ∀ prose, Indented margin prose → prose.filter isDirective = [] := by
    intro prose h
    refine List.filter_eq_nil_iff.2 fun l hl => Bool.not_eq_true _ ▸ ?_
    rcases h l hl with rfl | hmargin
    · decide
    · exact isDirective_of_margin hmargin
  rw [(documented_bodyLines s {} c).filter_eq hprose]
  have hall : ∀ l ∈ memberDirectives s c, isDirective l = true := fun l => isDirective_of_mem
  generalize memberDirectives s c = ls at hall
  induction ls with
  | nil => rfl
  | cons l ls ih =>
    obtain ⟨hl, hls⟩ := List.forall_mem_cons.1 hall
    rw [List.flatMap_cons, List.filter_append, filter_setApart hl, ih hls, List.singleton_append]

/-- A line below the directive of a class: empty, a directive, or prose behind its margin. -/
lemma each_bodyLines (s : Surface) (c : BoundClass) :
    Each (fun l => l = "" ∨ isDirective l = true ∨ margin.toList <+: l.toList) (bodyLines s c) := by
  refine (documented_bodyLines s {} c).each (fun prose h l hl => ?_) (each_flatMap fun l hl => ?_)
  · exact (h l hl).imp_right .inr
  · simp [setApart, isDirective_of_mem hl]

/-- The page of a class: below the directive of the class every line is empty, the directive of a
member, or prose behind its margin, and the directives are those of the members, in order. -/
structure IsLaidOut (s : Surface) (o : Options) (c : BoundClass) (file : Artifact) : Prop where
  path : file.path = "python/rst/" ++ c.name ++ ".rst"
  header : (contentLines file.contents).take 6 = [c.name, underline c.name, "",
    ".. py:module:: " ++ o.moduleName, "", ".. py:class:: " ++ c.name]
  body : ∀ l ∈ (contentLines file.contents).drop 6,
    l = "" ∨ isDirective l = true ∨ "      ".toList <+: l.toList
  directives : ((contentLines file.contents).drop 6).filter isDirective = memberDirectives s c

lemma isLaidOut_page {s : Surface} {o : Options} (h : LineNames s o) {c : BoundClass} (hc : LineClass c) :
    IsLaidOut s o c ⟨"python/rst/" ++ c.name ++ ".rst", unlines (page s o c)⟩ := by
  have hlines : contentLines (unlines (page s o c)) =
      pageHeader o.moduleName c.name ++ (bodyLines s c ++ [""]) := by
    rw [contentLines_unlines (lined_page h hc), page_eq, List.append_assoc]
  have hbody : (contentLines (unlines (page s o c))).drop 6 = bodyLines s c ++ [""] := by
    rw [hlines]
    rfl
  refine ⟨rfl, ?_, ?_, ?_⟩
  · rw [hlines]
    rfl
  · rw [hbody]
    exact each_append.2 ⟨each_bodyLines s c, by simp⟩
  · rw [hbody, List.filter_append, filter_bodyLines, List.filter_singleton]
    simp [(by decide : isDirective "" = false)]

end Pages

/-- A line that is not empty and has no margin. -/
def isOutdented (l : String) : Bool := l ≠ "" && !"    ".toList.isPrefixOf l.toList

lemma filter_isOutdented {ls : List String} (h : Indented "    " ls) : ls.filter isOutdented = [] := by
  refine List.filter_eq_nil_iff.2 fun l hl => ?_
  rcases h l hl with rfl | hmargin
  · simp [isOutdented]
  · rw [isOutdented, List.isPrefixOf_iff_prefix.2 hmargin]
    simp

namespace Skeleton
variable {s : Surface}

lemma indented_docstring {margin : String} (hmargin : "    ".toList <+: margin.toList)
    {block : List String} (h : Docstring s margin block) : Indented "    " block := by
  cases h with
  | placeholder => exact each_cons.2 ⟨.inr (begins_append hmargin _), each_nil⟩
  | block inside =>
    have hquotes : Indented "    " [margin ++ "\"\"\""] :=
      each_cons.2 ⟨.inr (begins_append hmargin _), each_nil⟩
    refine each_append.2 ⟨each_append.2 ⟨hquotes, fun l hl => ?_⟩, hquotes⟩
    exact (inside l hl).indented.imp_right hmargin.trans

lemma indented_doc {block : List String} (h : (skeleton s).Doc block) : Indented "    " block := by
  rcases h with h | h
  · exact indented_docstring (List.prefix_refl _) h
  · exact indented_docstring ⟨List.replicate 4 ' ', by simp⟩ h

/-- The declarations of members stand behind a margin. -/
lemma indented_members {c : BoundClass} {ks ps ms : List (List String)}
    (hks : ∀ k ∈ ks, (skeleton s).Constructor c.name k)
    (hps : List.Forall₂ (skeleton s).Property c.properties ps)
    (hms : List.Forall₂ (skeleton s).Method c.methods ms) :
    Indented "    " ((skeleton s).arrange ks.flatten ps.flatten ms.flatten) := by
  have hconstructors : ∀ k ∈ ks, Indented "    " k := by
    intro k hk
    obtain ⟨params, rfl⟩ := hks k hk
    simp
  have hproperties : ∀ p ∈ ps, Indented "    " p := forall_of_forall₂ (hps.imp fun name code h => by
    obtain rfl := h
    simp)
  have hmethods : ∀ m ∈ ms, Indented "    " m := forall_of_forall₂ (hms.imp fun m code h => by
    obtain ⟨params, rfl⟩ := h
    cases m.isStatic <;> simp)
  have harrange : (skeleton s).arrange ks.flatten ps.flatten ms.flatten =
      ks.flatMap id ++ ms.flatMap id ++ ps.flatMap id := by simp [skeleton]
  rw [harrange]
  exact each_append.2 ⟨each_append.2 ⟨each_flatMap hconstructors, each_flatMap hmethods⟩,
    each_flatMap hproperties⟩

lemma isOutdented_classHeader (c : BoundClass) : isOutdented (classHeader c) = true := by
  cases hb : namedBase? c.base <;> simp [classHeader, hb, isOutdented, List.isPrefixOf]

/-- Behind its header a class has only lines with a margin. -/
lemma filter_classLines (s : Surface) (c : BoundClass) :
    (classLines s c).filter isOutdented = [classHeader c] := by
  obtain ⟨code, ⟨ps, ms, hps, hms, rfl⟩, hdoc⟩ := shows_class s c
  have hconstructors : ∀ k ∈ skeletonForm.constructors (inputs ·.params) s c,
      (skeleton s).Constructor c.name k := Form.forall_constructors (fun _ => ⟨_, rfl⟩) _ s c
  have hmembers := indented_members hconstructors hps (hms.imp fun _ _ h => h.1)
  have hend : (skeleton s).closing.filter isOutdented = [] := rfl
  rw [hdoc.filter_eq fun block h => filter_isOutdented (indented_doc h), opening_eq, List.filter_append,
    List.filter_append, filter_isOutdented hmembers, hend]
  simp [isOutdented_classHeader]

/-- The lines without a margin are the headers of the classes. -/
lemma filter_fileLines (s : Surface) : (fileLines s).filter isOutdented =
    (Inheritance.basesFirst (s.bindings.classes .python)).map classHeader := by
  rw [fileLines, List.filter_flatMap, funext (filter_classLines s), List.map_eq_flatMap]

end Skeleton

/-- Documentation keeps the margins of the outputs in which they count. The page of a class has only
the directives of its members and prose behind a margin below the directive of the class. In a module
of empty classes the lines without a margin are the headers of the classes, base classes first. -/
theorem documentation_keeps_margins {s : Surface} {o : Options} (h : LineNames s o) :
    let ordered := Inheritance.basesFirst (s.bindings.classes .python)
    (∃ settings files index, Emitter.rst.artifacts s o = settings :: files ++ [index] ∧
      List.Forall₂ (Pages.IsLaidOut s o) ordered files) ∧
    ∃ path contents, Emitter.python.artifacts s o = [⟨path, contents⟩] ∧
      (contentLines contents).filter isOutdented = ordered.map Skeleton.classHeader := by
  intro ordered
  constructor
  · refine ⟨_, _, _, rfl, List.forall₂_map_right_iff.2 (List.forall₂_same.2 ?_)⟩
    exact fun c hc => Pages.isLaidOut_page h (h.basesFirst hc)
  · refine ⟨_, _, rfl, ?_⟩
    rw [contentLines_unlines (Skeleton.lined_fileLines h), List.filter_append, Skeleton.filter_fileLines]
    simp [isOutdented, ordered]

/-- A sphere whose comments have lines that look like directives and headers. -/
def mislabelledSphere : Surface :=
  let text := "A sphere.\n   .. py:method:: Sphere()\nclass Ball:\n"
  let doc := some ⟨text, [⟨.summary, text⟩, ⟨.param "radius", text⟩, ⟨.returns, text⟩]⟩
  { reference := Model.empty.update "Sphere" fun c =>
      { c with
        doc := doc
        constructors := [⟨[⟨"radius", "double", .byValue⟩], doc⟩]
        methods := [⟨"Inflate", "bool", [⟨"radius", "double", .byValue⟩], false, doc⟩]
        properties := [⟨"Radius", "double", false, doc⟩] }
    bindings := BindingSet.empty.insert (.bound .python
      ⟨"Sphere", none, [["double"]], ["Radius"], [⟨"Inflate", false, "&BND_Sphere::Inflate", []⟩]⟩) }

theorem documentation_keeps_margins_sphere :
    let s := mislabelledSphere
    LineNames s {} ∧
    (∃ settings page index, Emitter.rst.artifacts s {} = [settings, page, index] ∧
      ((contentLines page.contents).drop 6).filter Pages.isDirective =
        ["   .. py:method:: Sphere(radius)", "   .. py:attribute:: Radius",
          "   .. py:method:: Inflate()"]) ∧
    ∃ path contents, Emitter.python.artifacts s {} = [⟨path, contents⟩] ∧
      (contentLines contents).filter isOutdented = ["class Sphere:"] := by
  intro s
  have hnames : LineNames s {} := by
    refine ⟨by decide, by decide, ?_, List.forall_mem_nil _, ?_⟩
    · intro d
      cases d with
      | javascript => exact List.forall_mem_nil _
      | python => exact List.forall_mem_singleton.2 ⟨by decide, by decide, by decide, by decide⟩
    · exact List.forall_mem_singleton.2 ⟨by decide, by decide, by decide⟩
  obtain ⟨⟨settings, files, index, hfiles, hpages⟩, hskeleton⟩ := documentation_keeps_margins hnames
  obtain ⟨page, rfl⟩ := List.length_eq_one_iff.1 hpages.length_eq.symm
  cases hpages with
  | cons hpage _ => exact ⟨hnames, ⟨settings, page, index, hfiles, hpage.directives⟩, hskeleton⟩

end BindingDocs.Output
