import BindingDocs.Proofs.OutputLayouts

/-! What the outputs declare: every bound class has one block, and every bound member one declaration
in it, whether or not a reference declaration matches. -/
namespace BindingDocs.Output
open BindingDocs.Documentation BindingDocs.Reference BindingDocs.Registration BindingDocs.Text

/-- A file with given code and documentation between it. If the names in it have no line feeds, the
lines of code and documentation are the lines of the file. -/
def IsFile (named : Prop) (Doc : List String → Prop) (contents : String) (code : List String) : Prop :=
  ∃ ls, contents = unlines ls ∧ Documented Doc ls code ∧
    (named → splitAt '\n' contents.toList = ls.map String.toList ++ [[]])

lemma isFile_unlines {named : Prop} {Doc : List String → Prop} {ls code : List String}
    (hdoc : Documented Doc ls code) (hlined : named → Lined ls) :
    IsFile named Doc (unlines ls) code :=
  ⟨ls, rfl, hdoc, fun h => splitAt_unlines (hlined h)⟩

/-- One file that holds a block for each of some classes, in order. -/
def HoldsBlocks (s : Surface) (o : Options) (Doc : List String → Prop)
    (IsBlock : BoundClass → List String → Prop) (cs : List BoundClass) (before after : List String)
    (as : List Artifact) : Prop :=
  ∃ path contents codes, as = [⟨path, contents⟩] ∧ List.Forall₂ IsBlock cs codes ∧
    IsFile (LineNames s o) Doc contents (before ++ codes.flatten ++ after)

/-- One file that holds some classes in a layout, in order, each once. -/
def HoldsClasses (s : Surface) (o : Options) (L : Layout) (cs : List BoundClass)
    (before after : List String) (as : List Artifact) : Prop :=
  HoldsBlocks s o L.Doc (L.IsClass s) cs before after as

section
variable {s : Surface} {o : Options} {cs : List BoundClass} {before after : List String}

lemma holdsBlocks_unlines {Doc : List String → Prop} {IsBlock : BoundClass → List String → Prop}
    {f : BoundClass → List String} (path : String)
    (hclass : ∀ c, ∃ code, IsBlock c code ∧ Documented Doc (f c) code)
    (hlined : LineNames s o → Lined (before ++ cs.flatMap f ++ after)) :
    HoldsBlocks s o Doc IsBlock cs before after [⟨path, unlines (before ++ cs.flatMap f ++ after)⟩] := by
  obtain ⟨codes, hcodes, hdoc⟩ := Documented.flatMap fun c (_ : c ∈ cs) => hclass c
  refine ⟨path, _, codes, rfl, hcodes, isFile_unlines ?_ hlined⟩
  exact ((Documented.ofCode before).append hdoc).append (Documented.ofCode after)

/-- Blocks that show the parameters of constructors and methods are blocks of a layout. -/
lemma HoldsBlocks.holdsClasses {L : Layout} {ks : BoundClass → List (List String)}
    {M : BoundClass → BoundMethod → List String → Prop} {as : List Artifact}
    (h : HoldsBlocks s o L.Doc (fun c => L.Shows s (ks c) (M c) c) cs before after as)
    (count : ∀ c, (ks c).length = L.constructorCount s c)
    (declared : ∀ c, ∀ k ∈ ks c, L.Constructor c.name k) : HoldsClasses s o L cs before after as := by
  obtain ⟨path, contents, codes, has, hcodes, hfile⟩ := h
  exact ⟨path, contents, codes, has,
    hcodes.imp fun c _ hcode => hcode.isClass (count c) (declared c), hfile⟩

end

/-- What stands before the classes of the script module: its entry point, the enumerations, and the
class that holds all exported types. -/
def moduleCode (s : Surface) (o : Options) : List String :=
  ["declare module '" ++ o.moduleName ++ "' \x7b", "",
    "\texport default function " ++ o.moduleName ++ "() : Promise<" ++ o.moduleClass ++ ">;"] ++
    s.bindings.enumList.flatMap enumCode ++
    (["", "\tclass " ++ o.moduleClass ++ " \x7b"] ++
      (s.bindings.enumList.map fun e => "\t\t" ++ e.name ++ ": typeof " ++ e.name) ++
      ((s.bindings.classes .javascript).map fun c => "\t\t" ++ c.name ++ ": typeof " ++ c.name ++ ";") ++
      ["\t\x7d"])

section
variable (s : Surface) (o : Options)

lemma shown_scriptDoc : HoldsBlocks s o scriptDoc.Doc
    (fun c => scriptDoc.Shows s (scriptDocForm.constructors (inputs ·.params) s c)
      (scriptDocForm.ShowsInputs .javascript s c.name) c)
    (s.bindings.classes .javascript) [] [] (ScriptDoc.artifacts s o) := by
  have hfile : ScriptDoc.fileLines s =
      [] ++ (s.bindings.classes .javascript).flatMap (ScriptDoc.classLines s) ++ [] := by
    simp [ScriptDoc.fileLines]
  rw [ScriptDoc.artifacts, hfile]
  exact holdsBlocks_unlines _ (ScriptDoc.shows_class s) fun h => hfile ▸ ScriptDoc.lined_fileLines h

lemma holdsClasses_scriptDoc : HoldsClasses s o scriptDoc (s.bindings.classes .javascript) [] []
    (ScriptDoc.artifacts s o) :=
  (shown_scriptDoc s o).holdsClasses (fun c => length_firstConstructor s c _) fun c =>
    Form.forall_constructors (fun _ => ⟨_, rfl⟩) _ s c

lemma shown_scriptTypes : HoldsBlocks s o scriptTypes.Doc
    (fun c => scriptTypes.Shows s (scriptTypesForm.constructors (·.params) s c)
      (scriptTypesForm.ShowsInputs .javascript s c.name) c)
    (s.bindings.classes .javascript) (moduleCode s o) ["\x7d"] (ScriptTypes.artifacts s o) := by
  have hfile : ScriptTypes.fileLines s o = moduleCode s o ++
      (s.bindings.classes .javascript).flatMap (ScriptTypes.classLines s) ++ ["\x7d"] := by
    rw [ScriptTypes.fileLines, ScriptTypes.moduleClassLines, moduleCode,
      funext ScriptTypes.enumLines_eq]
  rw [ScriptTypes.artifacts, hfile]
  exact holdsBlocks_unlines _ (ScriptTypes.shows_class s)
    fun h => hfile ▸ ScriptTypes.lined_fileLines h

lemma holdsClasses_scriptTypes : HoldsClasses s o scriptTypes (s.bindings.classes .javascript)
    (moduleCode s o) ["\x7d"] (ScriptTypes.artifacts s o) :=
  (shown_scriptTypes s o).holdsClasses (fun c => length_firstConstructor s c _) fun c =>
    Form.forall_constructors (fun _ => ⟨_, rfl⟩) _ s c

lemma shown_skeleton : HoldsBlocks s o (skeleton s).Doc
    (fun c => (skeleton s).Shows s (skeletonForm.constructors (inputs ·.params) s c)
      (skeletonForm.ShowsInputs .python s c.name) c)
    (Inheritance.basesFirst (s.bindings.classes .python)) [] [] (Skeleton.artifacts s o) := by
  have hfile : Skeleton.fileLines s =
      [] ++ (Inheritance.basesFirst (s.bindings.classes .python)).flatMap (Skeleton.classLines s) ++ [] := by
    simp [Skeleton.fileLines]
  rw [Skeleton.artifacts, hfile]
  exact holdsBlocks_unlines _ (Skeleton.shows_class s) fun h => hfile ▸ Skeleton.lined_fileLines h

lemma holdsClasses_skeleton : HoldsClasses s o (skeleton s)
    (Inheritance.basesFirst (s.bindings.classes .python)) [] [] (Skeleton.artifacts s o) :=
  (shown_skeleton s o).holdsClasses (fun c => length_firstConstructor s c _) fun c =>
    Form.forall_constructors (fun _ => ⟨_, rfl⟩) _ s c

lemma shown_hints : HoldsBlocks s o hints.Doc
    (fun c => hints.Shows s (hintsForm.constructors (inputs ·.params) s c)
      (hintsForm.ShowsInputs .python s c.name) c)
    (Inheritance.basesFirst (s.bindings.classes .python))
    ["from typing import Tuple, Set, Iterable, List"] [""] (Hints.artifacts s o) :=
  holdsBlocks_unlines _ (Hints.shows_class s) fun h => Hints.lined_fileLines h

lemma holdsClasses_hints : HoldsClasses s o hints
    (Inheritance.basesFirst (s.bindings.classes .python))
    ["from typing import Tuple, Set, Iterable, List"] [""] (Hints.artifacts s o) :=
  (shown_hints s o).holdsClasses (fun c => length_firstConstructor s c _) fun c =>
    Form.forall_constructors (fun _ => ⟨_, rfl⟩) _ s c

/-- A page of its own for each class, in the order of inheritance. -/
lemma shown_pages : ∃ settings files index,
    Pages.artifacts s o = settings :: files ++ [index] ∧
      List.Forall₂ (fun c file => file.path = "python/rst/" ++ c.name ++ ".rst" ∧
        ∃ code, (pages o).Shows s (pageConstructors s c) (fun _ _ => True) c code ∧
          IsFile (LineNames s o) (pages o).Doc file.contents code)
        (Inheritance.basesFirst (s.bindings.classes .python)) files := by
  refine ⟨_, _, _, rfl, List.forall₂_map_right_iff.2 (List.forall₂_same.2 ?_)⟩
  intro c hc
  obtain ⟨code, hcode, hdoc⟩ := Pages.shows_page s o c
  exact ⟨rfl, code, hcode, isFile_unlines hdoc fun h => Pages.lined_page h (h.basesFirst hc)⟩

lemma pages_hold_classes : ∃ settings files index,
    Pages.artifacts s o = settings :: files ++ [index] ∧
      List.Forall₂ (fun c file => file.path = "python/rst/" ++ c.name ++ ".rst" ∧
        ∃ code, (pages o).IsClass s c code ∧
          IsFile (LineNames s o) (pages o).Doc file.contents code)
        (Inheritance.basesFirst (s.bindings.classes .python)) files := by
  obtain ⟨settings, files, index, has, hfiles⟩ := shown_pages s o
  refine ⟨settings, files, index, has, hfiles.imp fun c file h => ?_⟩
  obtain ⟨hpath, code, hcode, hfile⟩ := h
  refine ⟨hpath, code, hcode.isClass ?_ ?_, hfile⟩
  · simp [pageConstructors, Surface.constructors, pages]
  · intro k hk
    obtain ⟨x, -, rfl⟩ := List.mem_map.1 hk
    exact ⟨_, rfl⟩

end

/-- Members are never lost. Each output holds one block for each bound class of its dialect, and the
block one declaration for each bound member, in the order of registration, with its bound name and
kind, whether or not a reference declaration matches. Type hints show the members that match one. -/
theorem outputs_declare_bound_members (s : Surface) (o : Options) :
    let scripts := s.bindings.classes .javascript
    let ordered := Inheritance.basesFirst (s.bindings.classes .python)
    HoldsClasses s o scriptDoc scripts [] [] (Emitter.jsdoc.artifacts s o) ∧
    HoldsClasses s o scriptTypes scripts (moduleCode s o) ["\x7d"] (Emitter.typescript.artifacts s o) ∧
    HoldsClasses s o (skeleton s) ordered [] [] (Emitter.python.artifacts s o) ∧
    HoldsClasses s o hints ordered ["from typing import Tuple, Set, Iterable, List"] [""]
      (Emitter.pyi.artifacts s o) ∧
    (∃ settings files index, Emitter.rst.artifacts s o = settings :: files ++ [index] ∧
      List.Forall₂ (fun c file => file.path = "python/rst/" ++ c.name ++ ".rst" ∧
        ∃ code, (pages o).IsClass s c code ∧
          IsFile (LineNames s o) (pages o).Doc file.contents code) ordered files) ∧
    ordered.Perm (s.bindings.classes .python) ∧
    ordered.Pairwise fun a b => Inheritance.precedes a b = true := by
  intro scripts ordered
  exact ⟨holdsClasses_scriptDoc s o, holdsClasses_scriptTypes s o, holdsClasses_skeleton s o,
    holdsClasses_hints s o, pages_hold_classes s o, Inheritance.basesFirst_perm _,
    Inheritance.basesFirst_pairwise _⟩

end BindingDocs.Output
