import BindingDocs.Proofs.GenerationRun
import BindingDocs.Proofs.RegistrationCode

/-! What is left of the artifacts of a run. The file at each path holds what was written there last, so
an artifact is lost exactly if a later one with its path differs from it: this happens to the page of a
class that is named like the index of the pages. -/
namespace BindingDocs.Generation
open BindingDocs.Files BindingDocs.Output BindingDocs.Reference BindingDocs.Registration

section
variable {root : String} {as : List Artifact} {s s' : Session} {paths : List String}

lemma succeeds_writes (h : Succeeds (as.mapM (writeArtifact root)) s paths s') (hdir : s.tree.IsDirAt [])
    (hplain : ∀ a ∈ as, Node.IsPlain a.path) :
    paths = as.map (joinPath root ·.path) ∧
      Node.KeepsBut (as.map fun a => Node.place (joinPath root a.path)) s.tree s'.tree := by
  induction as generalizing s paths with
  | nil =>
    rw [List.mapM_nil] at h
    obtain ⟨rfl, rfl⟩ := succeeds_pure_iff.1 h
    exact ⟨rfl, .refl _⟩
  | cons a as ih =>
    rw [List.mapM_cons] at h
    obtain ⟨path, s₁, hfirst, h₁⟩ := succeeds_bind_iff.1 h
    obtain ⟨rest, s₂, hrest, h₂⟩ := succeeds_bind_iff.1 h₁
    obtain ⟨rfl, rfl⟩ := succeeds_pure_iff.1 h₂
    obtain ⟨hpath, hwrite⟩ := succeeds_writeArtifact hfirst
    obtain ⟨-, -, hkept⟩ := Node.write_joinPath hwrite hdir (hplain a (by simp))
    obtain ⟨hpaths, hkepts⟩ := ih hrest (hkept.isDirAt hdir) fun b hb => hplain b (List.mem_cons_of_mem a hb)
    exact ⟨by rw [hpath, hpaths, List.map_cons], hkept.trans hkepts⟩

/-- The last artifact with a path is read there. -/
lemma readText_last {front rest : List Artifact} {a : Artifact}
    (h : Succeeds ((front ++ a :: rest).mapM (writeArtifact root)) s paths s')
    (hdir : s.tree.IsDirAt []) (hplain : ∀ b ∈ front ++ a :: rest, Node.IsPlain b.path)
    (hlast : ∀ b ∈ rest, b.path ≠ a.path) :
    s'.tree.readText (joinPath root a.path) = .ok a.contents := by
  induction front generalizing s paths with
  | nil =>
    rw [List.nil_append, List.mapM_cons] at h
    obtain ⟨path, s₁, hfirst, h₁⟩ := succeeds_bind_iff.1 h
    obtain ⟨written, s₂, hrest, h₂⟩ := succeeds_bind_iff.1 h₁
    obtain ⟨-, rfl⟩ := succeeds_pure_iff.1 h₂
    have ha : Node.IsPlain a.path := hplain a (by simp)
    have hplainRest : ∀ b ∈ rest, Node.IsPlain b.path := fun b hb => hplain b (by simp [hb])
    obtain ⟨hlocate, hget, hkept⟩ := Node.write_joinPath (succeeds_writeArtifact hfirst).2 hdir ha
    obtain ⟨-, hkepts⟩ := succeeds_writes hrest (hkept.isDirAt hdir) hplainRest
    obtain ⟨n, hn, -, hsame⟩ := hkepts _ _ hget
    have hother : Node.place (joinPath root a.path) ∉
        rest.map fun b => Node.place (joinPath root b.path) := by
      intro hmem
      obtain ⟨b, hb, hplace⟩ := List.mem_map.1 hmem
      exact hlast b hb (Node.eq_of_place_joinPath (hplainRest b hb) ha hplace)
    rw [hsame rfl hother] at hn
    exact Node.readText_eq_ok (hkepts.locate hlocate) hn
  | cons x front ih =>
    rw [List.cons_append, List.mapM_cons] at h
    obtain ⟨path, s₁, hfirst, h₁⟩ := succeeds_bind_iff.1 h
    obtain ⟨written, s₂, hrest, h₂⟩ := succeeds_bind_iff.1 h₁
    obtain ⟨-, rfl⟩ := succeeds_pure_iff.1 h₂
    obtain ⟨-, -, hkept⟩ := Node.write_joinPath (succeeds_writeArtifact hfirst).2 hdir (hplain x (by simp))
    exact ih hrest (hkept.isDirAt hdir) fun b hb => hplain b (List.mem_cons_of_mem x hb)

/-- Of the artifacts with one path there is a last one. -/
lemma exists_last {a : Artifact} (ha : a ∈ as) :
    ∃ front b rest, as = front ++ b :: rest ∧ b.path = a.path ∧ ∀ c ∈ rest, c.path ≠ a.path := by
  induction as generalizing a with
  | nil => simp at ha
  | cons x as ih =>
    by_cases hlater : ∃ y ∈ as, y.path = a.path
    · obtain ⟨y, hy, hpath⟩ := hlater
      obtain ⟨front, b, rest, hsplit, hb, hrest⟩ := ih hy
      exact ⟨x :: front, b, rest, by rw [hsplit, List.cons_append], hb.trans hpath, hpath ▸ hrest⟩
    · refine ⟨[], x, as, rfl, ?_, fun c hc hpath => hlater ⟨c, hc, hpath⟩⟩
      rcases List.mem_cons.1 ha with rfl | ha
      · rfl
      · exact absurd ⟨a, ha, rfl⟩ hlater

/-- An artifact survives if its path is given no other contents. -/
lemma readText_of_agree (h : Succeeds (as.mapM (writeArtifact root)) s paths s')
    (hdir : s.tree.IsDirAt []) (hplain : ∀ a ∈ as, Node.IsPlain a.path) {a : Artifact} (ha : a ∈ as)
    (hagree : ∀ b ∈ as, b.path = a.path → b.contents = a.contents) :
    s'.tree.readText (joinPath root a.path) = .ok a.contents := by
  obtain ⟨front, b, rest, rfl, hpath, hrest⟩ := exists_last ha
  have hread := readText_last h hdir hplain fun c hc => hpath ▸ hrest c hc
  rw [hpath, hagree b (by simp) hpath] at hread
  exact hread

lemma survive_iff (h : Succeeds (as.mapM (writeArtifact root)) s paths s') (hdir : s.tree.IsDirAt [])
    (hplain : ∀ a ∈ as, Node.IsPlain a.path) :
    (∀ a ∈ as, s'.tree.readText (joinPath root a.path) = .ok a.contents) ↔
      ∀ a ∈ as, ∀ b ∈ as, b.path = a.path → b.contents = a.contents := by
  constructor
  · intro hreads a ha b hb hpath
    have hread := hreads b hb
    rw [hpath, hreads a ha] at hread
    exact (Except.ok.inj hread).symm
  · exact fun hagree a ha => readText_of_agree h hdir hplain ha (hagree a ha)

end

def pageArtifact (s : Surface) (o : Options) (c : BoundClass) : Artifact :=
  ⟨"python/rst/" ++ c.name ++ ".rst", unlines (Pages.page s o c)⟩

def indexArtifact (s : Surface) (o : Options) : Artifact :=
  ⟨"python/rst/index.rst", unlines (Pages.index s o)⟩

/-- The artifacts whose paths do not depend on the bound classes. -/
def fixedArtifacts (s : Surface) (o : Options) : List Artifact :=
  ScriptDoc.artifacts s o ++ ScriptTypes.artifacts s o ++
    [⟨"python/rst/conf.py", Pages.settings o⟩, indexArtifact s o] ++
    Skeleton.artifacts s o ++ Hints.artifacts s o

lemma mem_rst_iff {s : Surface} {o : Options} {a : Artifact} :
    a ∈ Emitter.rst.artifacts s o ↔ a = ⟨"python/rst/conf.py", Pages.settings o⟩ ∨
      (∃ c ∈ s.bindings.classes .python, a = pageArtifact s o c) ∨ a = indexArtifact s o := by
  have hclasses : ∀ c, c ∈ Inheritance.basesFirst (s.bindings.classes .python) ↔
      c ∈ s.bindings.classes .python := fun c => (Inheritance.basesFirst_perm _).mem_iff
  simp [Emitter.artifacts, Pages.artifacts, pageArtifact, indexArtifact, hclasses, eq_comm]

lemma mem_artifacts {s : Surface} {o : Options} {e : Emitter} {a : Artifact} (h : a ∈ e.artifacts s o) :
    a ∈ fixedArtifacts s o ∨ e = .rst ∧ ∃ c ∈ s.bindings.classes .python, a = pageArtifact s o c := by
  cases e with
  | jsdoc => exact .inl (by simp [fixedArtifacts, show a ∈ ScriptDoc.artifacts s o from h])
  | typescript => exact .inl (by simp [fixedArtifacts, show a ∈ ScriptTypes.artifacts s o from h])
  | rst =>
    rcases mem_rst_iff.1 h with rfl | hpage | rfl
    · exact .inl (by simp [fixedArtifacts])
    · exact .inr ⟨rfl, hpage⟩
    · exact .inl (by simp [fixedArtifacts])
  | python => exact .inl (by simp [fixedArtifacts, show a ∈ Skeleton.artifacts s o from h])
  | pyi => exact .inl (by simp [fixedArtifacts, show a ∈ Hints.artifacts s o from h])

/-- The paths of `fixedArtifacts` for the usual name of the module. -/
def fixedPaths : List String :=
  ["javascript/rhino3dm.js", "javascript/rhino3dm.d.ts", "python/rst/conf.py", "python/rst/index.rst",
    "python/stubs/rhino3dm.py", "python/stubs/rhino3dm/__init__.pyi"]

section
variable {s : Surface} {o : Options} (hmodule : o.moduleName = "rhino3dm")
include hmodule

lemma map_path_fixedArtifacts : (fixedArtifacts s o).map (·.path) = fixedPaths := by
  simp [fixedArtifacts, ScriptDoc.artifacts, ScriptTypes.artifacts, Skeleton.artifacts, Hints.artifacts,
    indexArtifact, hmodule, fixedPaths]

lemma eq_of_fixed {a b : Artifact} (ha : a ∈ fixedArtifacts s o) (hb : b ∈ fixedArtifacts s o)
    (hpath : b.path = a.path) : b = a := by
  have hnodup : ((fixedArtifacts s o).map (·.path)).Nodup := by
    rw [map_path_fixedArtifacts hmodule]
    decide
  exact List.inj_on_of_nodup_map hnodup hb ha hpath

end

/-- Among the other artifacts only the index can have the path of a page. -/
lemma name_of_mem_fixedPaths {name : String} (h : "python/rst/" ++ name ++ ".rst" ∈ fixedPaths) :
    name = "index" := by
  simp only [fixedPaths, List.mem_cons, List.not_mem_nil, or_false, ← String.toList_inj,
    String.toList_append] at h
  rcases h with h | h | h | h | h | h
  · simp at h
  · simp at h
  · have hlast := congrArg List.getLast? h
    rw [List.getLast?_append_of_ne_nil _ (by decide)] at hlast
    exact absurd hlast (by decide)
  · simp at h
    have hname : name.toList ++ ['.', 'r', 's', 't'] = "index".toList ++ ['.', 'r', 's', 't'] := h
    exact String.toList_injective (List.append_cancel_right hname)
  · simp at h
  · simp at h

lemma isPlain_pageArtifact {s : Surface} {o : Options} {c : BoundClass} (h : '/' ∉ c.name.toList) :
    Node.IsPlain (pageArtifact s o c).path := by
  have hpath : ("python/rst/" ++ c.name ++ ".rst").toList =
      "python".toList ++ '/' :: ("rst".toList ++ '/' :: (c.name ++ ".rst").toList) := by simp
  have hname : '/' ∉ (c.name ++ ".rst").toList := by simp [h]
  have hsteps : steps (pageArtifact s o c).path = ["python", "rst", c.name ++ ".rst"] := by
    rw [steps, pageArtifact, hpath, Text.splitAt_append_cons _ (by decide),
      Text.splitAt_append_cons _ (by decide), Text.splitAt_of_not_mem hname]
    simp
  have hlong : ∀ short : String, short.length < 4 → c.name ++ ".rst" ≠ short := by
    rintro _ hshort rfl
    have hend : ".rst".length = 4 := by decide
    rw [String.length_append, hend] at hshort
    omega
  intro step hstep
  rw [hsteps] at hstep
  simp only [List.mem_cons, List.not_mem_nil, or_false] at hstep
  rcases hstep with rfl | rfl | rfl
  · decide
  · decide
  · refine ⟨?_, hlong ".." (by decide)⟩
    simp [isStay, hlong "" (by decide), hlong "." (by decide)]

lemma isPlain_of_mem_fixedPaths {path : String} (h : path ∈ fixedPaths) : Node.IsPlain path := by
  have hall : (fixedPaths.all fun p => (steps p).all fun step => !isStay step && step != "..") = true := by
    decide +kernel
  intro step hstep
  have hplain := List.all_eq_true.1 (List.all_eq_true.1 hall path h) step hstep
  simpa using hplain

lemma path_pageArtifact {s : Surface} {o : Options} {c : BoundClass} (hname : c.name = "index") :
    (pageArtifact s o c).path = "python/rst/index.rst" := by
  rw [pageArtifact, hname]
  exact show "python/rst/" ++ "index" ++ ".rst" = "python/rst/index.rst" by decide

lemma pageArtifact_inj {s : Surface} {o : Options} (hkeyed : s.bindings.Keyed) {c d : BoundClass}
    (hc : c ∈ s.bindings.classes .python) (hd : d ∈ s.bindings.classes .python)
    (hpath : (pageArtifact s o d).path = (pageArtifact s o c).path) : d = c := by
  have hname : d.name = c.name := by
    have hchars := congrArg String.toList hpath
    simpa [pageArtifact, ← String.toList_inj] using hchars
  exact List.inj_on_of_nodup_map (hkeyed.keys_nodup .python) hd hc (congrArg keyOf hname)

/-- Two artifacts of a run with one path are the same, unless the pages have two files for the index. -/
lemma eq_or_index_of_path {s : Surface} {o : Options} {es : List Emitter}
    (hmodule : o.moduleName = "rhino3dm") (hkeyed : s.bindings.Keyed) {a b : Artifact}
    (ha : a ∈ es.flatMap (·.artifacts s o)) (hb : b ∈ es.flatMap (·.artifacts s o))
    (hpath : b.path = a.path) :
    b = a ∨ a.path = "python/rst/index.rst" ∧ .rst ∈ es ∧
      ∃ c ∈ s.bindings.classes .python, c.name = "index" := by
  have hfixed : ∀ {x}, x ∈ fixedArtifacts s o → x.path ∈ fixedPaths := by
    intro x hx
    rw [← map_path_fixedArtifacts hmodule]
    exact List.mem_map_of_mem hx
  have hindex : ∀ {c}, (pageArtifact s o c).path ∈ fixedPaths →
      (pageArtifact s o c).path = "python/rst/index.rst" ∧ c.name = "index" := by
    intro c hc
    have hname := name_of_mem_fixedPaths hc
    exact ⟨path_pageArtifact hname, hname⟩
  obtain ⟨e, he, ha⟩ := List.mem_flatMap.1 ha
  obtain ⟨f, hf, hb⟩ := List.mem_flatMap.1 hb
  rcases mem_artifacts ha with ha | ⟨rfl, c, hc, rfl⟩
  · rcases mem_artifacts hb with hb | ⟨rfl, d, hd, rfl⟩
    · exact .inl (eq_of_fixed hmodule ha hb hpath)
    · obtain ⟨hfile, hname⟩ := hindex (hpath ▸ hfixed ha)
      exact .inr ⟨hpath ▸ hfile, hf, d, hd, hname⟩
  · rcases mem_artifacts hb with hb | ⟨rfl, d, hd, rfl⟩
    · obtain ⟨hfile, hname⟩ := hindex (hpath ▸ hfixed hb)
      exact .inr ⟨hfile, he, c, hc, hname⟩
    · exact .inl (by rw [pageArtifact_inj hkeyed hc hd hpath])

/-- The page of a class that is named like the index has its path, but begins differently. -/
lemma page_and_index_differ {s : Surface} {o : Options} {es : List Emitter} {c : BoundClass}
    (hrst : .rst ∈ es) (hc : c ∈ s.bindings.classes .python) (hname : c.name = "index") :
    ∃ a ∈ es.flatMap (·.artifacts s o), ∃ b ∈ es.flatMap (·.artifacts s o),
      b.path = a.path ∧ b.contents ≠ a.contents := by
  refine ⟨indexArtifact s o, List.mem_flatMap.2 ⟨.rst, hrst, mem_rst_iff.2 (.inr (.inr rfl))⟩,
    pageArtifact s o c, List.mem_flatMap.2 ⟨.rst, hrst, mem_rst_iff.2 (.inr (.inl ⟨c, hc, rfl⟩))⟩,
    path_pageArtifact hname, fun h => ?_⟩
  have hfirst := congrArg (fun text : String => text.toList.head?) h
  simp [pageArtifact, indexArtifact, unlines, Pages.page, Pages.pageHeader, Pages.index, hname] at hfirst

lemma isPlain_of_mem {s : Surface} {o : Options} {es : List Emitter} (hmodule : o.moduleName = "rhino3dm")
    (hnames : ∀ c ∈ s.bindings.classes .python, '/' ∉ c.name.toList) :
    ∀ a ∈ es.flatMap (·.artifacts s o), Node.IsPlain a.path := by
  intro a ha
  obtain ⟨e, -, ha⟩ := List.mem_flatMap.1 ha
  rcases mem_artifacts ha with ha | ⟨-, c, hc, rfl⟩
  · apply isPlain_of_mem_fixedPaths
    rw [← map_path_fixedArtifacts hmodule]
    exact List.mem_map_of_mem ha
  · exact isPlain_pageArtifact (hnames c hc)

/-- A run that succeeds under the usual name of the module writes the artifacts of its emitters, for
the sources that it read. If no Python class has a slash in its name, every artifact can be read under
its path after the run, but for the path of the index: all artifacts survive exactly if no Python
class is named like the index, or no pages are written. -/
theorem artifacts_survive_iff (st : Settings) (referenceRoot bindingsRoot outputRoot : String)
    (before after : Session) (paths : List String) (hmodule : st.output.options.moduleName = "rhino3dm")
    (hrun : outcome (run st referenceRoot bindingsRoot outputRoot) before = (.ok paths, after)) :
    ∃ chosen m b, emitters st.output = .ok chosen ∧
      (outcome (readReference st.reference referenceRoot) before).1 = .ok m ∧
      (outcome (readBindings st.bindings bindingsRoot) before).1 = .ok b ∧
      let made := chosen.flatMap (·.artifacts ⟨m, b⟩ st.output.options)
      let survives (a : Artifact) := after.tree.readText (joinPath outputRoot a.path) = .ok a.contents
      (outcome (generate st referenceRoot bindingsRoot) before).1 = .ok made ∧
      ((∀ c ∈ b.classes .python, '/' ∉ c.name.toList) →
        paths = made.map (joinPath outputRoot ·.path) ∧
        (∀ a ∈ made, a.path ≠ "python/rst/index.rst" → survives a) ∧
        ((∀ a ∈ made, survives a) ↔
          ¬ (.rst ∈ chosen ∧ ∃ c ∈ b.classes .python, c.name = "index"))) := by
  obtain ⟨made, mid, hgenerate, hwrites⟩ := succeeds_bind_iff.1 hrun
  obtain ⟨chosen, m, b, hchosen, hm, hb, hkeyed, rfl, hdir, htree⟩ := succeeds_generate hgenerate
  refine ⟨chosen, m, b, hchosen, hm, hb, congrArg Prod.fst hgenerate, fun hnames => ?_⟩
  rw [← htree] at hdir
  have hplain : ∀ a ∈ chosen.flatMap (·.artifacts ⟨m, b⟩ st.output.options), Node.IsPlain a.path :=
    isPlain_of_mem hmodule hnames
  refine ⟨(succeeds_writes hwrites hdir hplain).1, fun a ha hother => ?_, ?_⟩
  · refine readText_of_agree hwrites hdir hplain ha fun b' hb' hpath => ?_
    rcases eq_or_index_of_path hmodule hkeyed ha hb' hpath with rfl | ⟨hindex, -⟩
    · rfl
    · exact absurd hindex hother
  · rw [survive_iff hwrites hdir hplain]
    constructor
    · rintro hagree ⟨hrst, c, hc, hname⟩
      obtain ⟨a, ha, b', hb', hpath, hdiffer⟩ := page_and_index_differ (o := st.output.options)
        (s := ⟨m, b⟩) hrst hc hname
      exact hdiffer (hagree a ha b' hb' hpath)
    · intro hfree a ha b' hb' hpath
      rcases eq_or_index_of_path hmodule hkeyed ha hb' hpath with rfl | ⟨-, hindex⟩
      · rfl
      · exact absurd hindex hfree

/-- Files with one Python class of a given name. -/
def filesBinding (name : String) : Session :=
  ⟨.dir [("reference", .dir []), ("bindings", .dir [("a.cpp", .file (some
    ("py::class_<BND_C>(m, \"" ++ name ++ "\")\n;")))])], []⟩

def pagesOnly : Settings where
  output := { emitters := ["rst"] }

lemma name_of_bound {s : Session} {b : BindingSet} {name : String}
    (hnames : (outcome (readBindings pagesOnly.bindings "bindings") s).1.map
      (fun b => (b.classes .python).map (·.name)) = .ok [name])
    (hb : (outcome (readBindings pagesOnly.bindings "bindings") s).1 = .ok b) :
    ∀ c ∈ b.classes .python, c.name = name := by
  rw [hb] at hnames
  have hlist : (b.classes .python).map (·.name) = [name] := Except.ok.inj hnames
  intro c hc
  have hmem : c.name ∈ (b.classes .python).map (·.name) := List.mem_map_of_mem hc
  rwa [hlist, List.mem_singleton] at hmem

lemma eq_of_fst_eq {s : Session} {paths : List String}
    (h : (outcome (run pagesOnly "reference" "bindings" "out") s).1 = .ok paths) :
    outcome (run pagesOnly "reference" "bindings" "out") s =
      (.ok paths, (outcome (run pagesOnly "reference" "bindings" "out") s).2) := by
  rw [← h]

/-- The artifacts for a class with another name all survive. -/
theorem artifacts_survive_iff_point :
    (outcome (run pagesOnly "reference" "bindings" "out") (filesBinding "Point")).1 =
      .ok ["out/python/rst/conf.py", "out/python/rst/Point.rst", "out/python/rst/index.rst"] ∧
    ∃ made, (outcome (generate pagesOnly "reference" "bindings") (filesBinding "Point")).1 = .ok made ∧
      ∀ a ∈ made, (outcome (run pagesOnly "reference" "bindings" "out")
        (filesBinding "Point")).2.tree.readText (joinPath "out" a.path) = .ok a.contents := by
  have hpaths : (outcome (run pagesOnly "reference" "bindings" "out") (filesBinding "Point")).1 =
      .ok ["out/python/rst/conf.py", "out/python/rst/Point.rst", "out/python/rst/index.rst"] := by
    decide +kernel
  have hnames : (outcome (readBindings pagesOnly.bindings "bindings") (filesBinding "Point")).1.map
      (fun b => (b.classes .python).map (·.name)) = .ok ["Point"] := by decide +kernel
  obtain ⟨chosen, m, b, -, -, hb, hmade, hsurvive⟩ := artifacts_survive_iff pagesOnly "reference"
    "bindings" "out" (filesBinding "Point") _ _ rfl (eq_of_fst_eq hpaths)
  have hname := name_of_bound hnames hb
  refine ⟨hpaths, _, hmade, (hsurvive fun c hc => ?_).2.2.2 ?_⟩
  · rw [hname c hc]
    decide
  · rintro ⟨-, c, hc, hindex⟩
    rw [hname c hc] at hindex
    exact absurd hindex (by decide)

/-- The page of a class without members that is named `index`. -/
def indexPage : Artifact :=
  ⟨"python/rst/index.rst", "index\n=====\n\n.. py:module:: rhino3dm\n\n.. py:class:: index\n"⟩

/-- The page of a class that is named `index` does not survive: the index of the pages is written over
it. -/
theorem page_of_class_named_index_is_lost :
    ¬ ∀ (st : Settings) (referenceRoot bindingsRoot outputRoot : String) (before after : Session)
      (paths : List String) (b : BindingSet) (made : List Artifact),
      st.output.options.moduleName = ({} : Options).moduleName →
      outcome (run st referenceRoot bindingsRoot outputRoot) before = (.ok paths, after) →
      (outcome (readBindings st.bindings bindingsRoot) before).1 = .ok b →
      (∀ c ∈ b.classes .python, IsIdentifier c.name) →
      (outcome (generate st referenceRoot bindingsRoot) before).1 = .ok made →
      ∀ a ∈ made, after.tree.readText (joinPath outputRoot a.path) = .ok a.contents := by
  intro h
  have hnames : (outcome (readBindings pagesOnly.bindings "bindings") (filesBinding "index")).1.map
      (fun b => (b.classes .python).map (·.name)) = .ok ["index"] := by decide +kernel
  have hpage : (outcome (generate pagesOnly "reference" "bindings") (filesBinding "index")).1.map
      (fun made => made.any (· == indexPage)) = .ok true := by decide +kernel
  have hpaths : (outcome (run pagesOnly "reference" "bindings" "out") (filesBinding "index")).1 =
      .ok ["out/python/rst/conf.py", "out/python/rst/index.rst", "out/python/rst/index.rst"] := by
    decide +kernel
  have hlost : (outcome (run pagesOnly "reference" "bindings" "out")
      (filesBinding "index")).2.tree.readText (joinPath "out" indexPage.path) ≠ .ok indexPage.contents := by
    decide +kernel
  have hidentifier : IsIdentifier "index" := ⟨by decide, List.all_eq_true.1 (by decide)⟩
  cases hb : (outcome (readBindings pagesOnly.bindings "bindings") (filesBinding "index")).1 with
  | error e =>
    rw [hb] at hnames
    cases hnames
  | ok b =>
    cases hmade : (outcome (generate pagesOnly "reference" "bindings") (filesBinding "index")).1 with
    | error e =>
      rw [hmade] at hpage
      cases hpage
    | ok made =>
      rw [hmade] at hpage
      have hany : made.any (· == indexPage) = true := Except.ok.inj hpage
      obtain ⟨a, ha, heq⟩ := List.any_eq_true.1 hany
      rw [beq_iff_eq.1 heq] at ha
      have hname := name_of_bound hnames hb
      exact hlost (h pagesOnly "reference" "bindings" "out" (filesBinding "index") _ _ b made rfl
        (eq_of_fst_eq hpaths) hb (fun c hc => hname c hc ▸ hidentifier) hmade indexPage ha)

end BindingDocs.Generation
