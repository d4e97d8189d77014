import BindingDocs.Proofs.OutputDeclarations

/-! What the outputs show of the parameters of constructors and methods. All outputs pick the same
declarations and show their inputs; only the constructor of a type declaration shows its other
parameters too. -/
namespace BindingDocs.Text

lemma length_joinWith_cons (sep s : String) {l : List String} (h : l ≠ []) :
    (joinWith sep (s :: l)).length = s.length + sep.length + (joinWith sep l).length := by
  obtain ⟨t, r, rfl⟩ := List.exists_cons_of_ne_nil h
  simp [joinWith]

/-- A list of texts that are not empty is longer than any part of it. -/
lemma length_joinWith_lt (sep : String) {l l' : List String} (h : l.Sublist l') (hne : l ≠ l')
    (hfull : ∀ s ∈ l', s ≠ "") : (joinWith sep l).length < (joinWith sep l').length := by
  induction h with
  | slnil => exact absurd rfl hne
  | @cons l l' a hsub ih =>
    have hpos : 0 < a.length := by
      have := hfull a (by simp)
      rw [Nat.pos_iff_ne_zero]
      exact fun h => this (String.length_eq_zero_iff.1 h)
    have hlonger : (joinWith sep l').length < (joinWith sep (a :: l')).length := by
      by_cases hnil : l' = []
      · subst hnil
        simpa [joinWith] using hpos
      · rw [length_joinWith_cons sep a hnil]
        omega
    by_cases heq : l = l'
    · rw [heq]
      exact hlonger
    · exact Nat.lt_trans (ih heq fun s hs => hfull s (List.mem_cons_of_mem _ hs)) hlonger
  | @cons_cons l l' a hsub ih =>
    have hshort := ih (fun heq => hne (by rw [heq])) fun s hs => hfull s (List.mem_cons_of_mem _ hs)
    have hfull' : l' ≠ [] := by
      rintro rfl
      simp [joinWith] at hshort
    rw [length_joinWith_cons sep a hfull']
    by_cases hnil : l = []
    · subst hnil
      simp only [joinWith, String.length_empty] at hshort ⊢
      omega
    · rw [length_joinWith_cons sep a hnil]
      omega

end BindingDocs.Text

namespace BindingDocs.Output
open BindingDocs.Documentation BindingDocs.Reference BindingDocs.Registration BindingDocs.Text

lemma inputs_eq_self_iff {params : List Parameter} :
    inputs params = params ↔ ∀ p ∈ params, p.isOut = false := by
  simp [inputs, List.filter_eq_self]

/-- A style that says something about each parameter shows the inputs in the same way as all parameters
only if there are no others. -/
lemma ParamStyle.text_inputs_eq_iff (f : ParamStyle) (told : ∀ p, f.about p ≠ "")
    (params : List Parameter) :
    f.text [] params = f.text [] (inputs params) ↔ ∀ p ∈ params, p.isOut = false := by
  rw [← inputs_eq_self_iff]
  constructor
  · intro htext
    by_contra hne
    have hsub : (inputs params).Sublist params := List.filter_sublist
    have hfull : ∀ s ∈ params.map (fun p => f.name p.name ++ f.about p), s ≠ "" :=
      List.forall_mem_map.2 fun p _ h => told p (String.append_eq_empty_iff.1 h).2
    have hmapped : (inputs params).map (fun p => f.name p.name ++ f.about p) ≠
        params.map fun p => f.name p.name ++ f.about p := fun h =>
      hne (hsub.eq_of_length (by simpa using congrArg List.length h))
    have hlt := length_joinWith_lt f.separator (hsub.map _) hmapped hfull
    exact absurd (congrArg String.length htext) (Nat.ne_of_gt hlt)
  · intro h
    rw [h]

/-- The constructor that is shown is the first on the pages that matches a declaration. -/
lemma firstConstructor?_eq (s : Surface) (c : BoundClass) :
    s.firstConstructor? c = (s.constructors c).findSome? (·.2) := by
  simp [Surface.firstConstructor?, Surface.constructors, List.findSome?_map, Function.comp_def]

/-- The outputs agree on signatures. Each shows the first constructor that matches a declaration, of
those that the pages list, and for each method that matches one the inputs of that declaration; a
constructor is shown with its inputs, in type declarations with all its parameters. So the type
declaration of a constructor agrees with the other outputs exactly if it has no other parameters. -/
theorem outputs_agree_on_signatures (s : Surface) (o : Options) :
    let scripts := s.bindings.classes .javascript
    let ordered := Inheritance.basesFirst (s.bindings.classes .python)
    HoldsBlocks s o scriptDoc.Doc
      (fun c => scriptDoc.Shows s (scriptDocForm.constructors (inputs ·.params) s c)
        (scriptDocForm.ShowsInputs .javascript s c.name) c)
      scripts [] [] (Emitter.jsdoc.artifacts s o) ∧
    HoldsBlocks s o scriptTypes.Doc
      (fun c => scriptTypes.Shows s (scriptTypesForm.constructors (·.params) s c)
        (scriptTypesForm.ShowsInputs .javascript s c.name) c)
      scripts (moduleCode s o) ["\x7d"] (Emitter.typescript.artifacts s o) ∧
    HoldsBlocks s o (skeleton s).Doc
      (fun c => (skeleton s).Shows s (skeletonForm.constructors (inputs ·.params) s c)
        (skeletonForm.ShowsInputs .python s c.name) c)
      ordered [] [] (Emitter.python.artifacts s o) ∧
    HoldsBlocks s o hints.Doc
      (fun c => hints.Shows s (hintsForm.constructors (inputs ·.params) s c)
        (hintsForm.ShowsInputs .python s c.name) c)
      ordered ["from typing import Tuple, Set, Iterable, List"] [""] (Emitter.pyi.artifacts s o) ∧
    (∃ settings files index, Emitter.rst.artifacts s o = settings :: files ++ [index] ∧
      List.Forall₂ (fun c file => file.path = "python/rst/" ++ c.name ++ ".rst" ∧
        ∃ code, (pages o).Shows s (pageConstructors s c) (fun _ _ => True) c code ∧
          IsFile (LineNames s o) (pages o).Doc file.contents code) ordered files) ∧
    (∀ c, s.firstConstructor? c = (s.constructors c).findSome? (·.2)) ∧
    ∀ k : Constructor, scriptTypesForm.constructorCode k.params =
      scriptTypesForm.constructorCode (inputs k.params) ↔ ∀ p ∈ k.params, p.isOut = false := by
  intro scripts ordered
  refine ⟨shown_scriptDoc s o, shown_scriptTypes s o, shown_skeleton s o, shown_hints s o,
    shown_pages s o, firstConstructor?_eq s, fun k => ?_⟩
  have htold : ∀ p, scriptTypesForm.constructorParams.about p ≠ "" := by
    simp [scriptTypesForm]
  rw [← scriptTypesForm.constructorParams.text_inputs_eq_iff htold]
  simp [Form.constructorCode, scriptTypesForm]

/-- A constructor with a result besides the object. -/
def measuredCircle : Surface where
  reference := Model.empty.update "Circle" fun c =>
    c.addConstructor ⟨[⟨"radius", "double", .byValue⟩, ⟨"area", "double", .byOut⟩], none⟩
  bindings := BindingSet.empty.insert
    (.bound .javascript ⟨"Circle", none, [["double", "double"]], [], []⟩)

/-- The type declaration of a constructor shows a parameter that is no input. -/
theorem type_declaration_shows_out_parameter :
    "  constructor(radius)\x7b\x7d" ∈ ScriptDoc.fileLines measuredCircle ∧
    "\t\tconstructor(radius: number, area: number);" ∈ ScriptTypes.fileLines measuredCircle {} ∧
    "\t\tconstructor(radius: number);" ∉ ScriptTypes.fileLines measuredCircle {} := by
  decide +kernel

end BindingDocs.Output
