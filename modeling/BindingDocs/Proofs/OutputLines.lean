import BindingDocs.Output.Prose
import BindingDocs.Proofs.VocabularyRules
import BindingDocs.Vocabulary.Tables
import Mathlib.Data.List.Forall2

/-! Lines of an output: which texts stay on one line, how the lines are found in the text, and lines
of documentation between lines of code. -/
namespace BindingDocs.Text

/-- No line holds a line feed. -/
lemma not_mem_lines {s l : List Char} (h : l ∈ lines s) : '\n' ∉ l := by
  suffices hfrom : ∀ seen, '\n' ∉ seen → ∀ l ∈ linesFrom seen s, '\n' ∉ l from hfrom [] (by simp) l h
  clear h
  induction s with
  | nil =>
    intro seen hseen l hl
    rw [linesFrom] at hl
    split at hl
    · simp at hl
    · rw [List.mem_singleton.1 hl]
      simpa using hseen
  | cons c s ih =>
    intro seen hseen l hl
    rw [linesFrom] at hl
    split at hl
    · rcases List.mem_cons.1 hl with rfl | hl
      · intro hm
        refine hseen (List.mem_reverse.1 ?_)
        rw [dropReturn] at hm
        split at hm
        · exact List.dropLast_subset _ hm
        · exact hm
      · exact ih [] (by simp) l hl
    · rename_i hc
      refine ih (c :: seen) ?_ l hl
      simp [hseen, Ne.symm hc]

end BindingDocs.Text

namespace BindingDocs.Output
open BindingDocs.Text

/-- A text without a line feed. -/
def IsLine (s : String) : Prop := '\n' ∉ s.toList

instance (s : String) : Decidable (IsLine s) := inferInstanceAs (Decidable (¬ _))

@[simp] lemma isLine_append {a b : String} : IsLine (a ++ b) ↔ IsLine a ∧ IsLine b := by
  simp [IsLine]

lemma isLine_ofList {l : List Char} : IsLine (String.ofList l) ↔ '\n' ∉ l := by simp [IsLine]

lemma isLine_joinWith {sep : String} {ss : List String} (hsep : IsLine sep) (h : ∀ s ∈ ss, IsLine s) :
    IsLine (joinWith sep ss) := by
  induction ss with
  | nil => simp [joinWith, IsLine]
  | cons s ss ih =>
    have hs := h s (by simp)
    cases ss with
    | nil => exact hs
    | cons t ss =>
      have hrest := ih fun u hu => h u (List.mem_cons_of_mem _ hu)
      simpa [joinWith] using ⟨⟨hs, hsep⟩, hrest⟩

lemma isLine_textLines {text s : String} (h : s ∈ textLines text) : IsLine s := by
  obtain ⟨l, hl, hs⟩ := List.mem_filterMap.1 h
  obtain ⟨line, hline, rfl⟩ := List.mem_map.1 hl
  split at hs
  · cases hs
  · cases hs
    exact isLine_ofList.2 fun hm => not_mem_lines hline (mem_of_mem_trim hm)

@[simp] lemma isLine_oneLine (text : String) : IsLine (oneLine text) :=
  isLine_joinWith (by decide) fun _ => isLine_textLines

lemma isLine_pageLines {text s : String} (h : s ∈ pageLines text) : IsLine s := isLine_textLines h

lemma isLine_safeName {name : String} (h : IsLine name) : IsLine (safeName name) := by
  unfold safeName
  split
  · decide
  · exact h

/-- A vocabulary whose spellings all stay on one line. -/
structure SpellsLines (v : Vocabulary) : Prop where
  exact : ∀ x ∈ v.exact, IsLine x.2
  escape : IsLine v.escape
  array : IsLine v.array.before ∧ IsLine v.array.after
  sequence : IsLine v.sequence.before ∧ IsLine v.sequence.after

lemma mem_of_mem_element? {v : Vocabulary} {type r : List Char} {c : Char}
    (h : v.element? type = some r) (hc : c ∈ r) : c ∈ type := by
  obtain ⟨head, -, rfl⟩ := Vocabulary.element?_eq_some_iff.1 h
  simp [hc]

lemma mem_of_mem_unqualified? {v : Vocabulary} {type r : List Char} {c : Char}
    (h : v.unqualified? type = some r) (hc : c ∈ r) : c ∈ type := by
  rw [Vocabulary.unqualified?] at h
  split at h
  · obtain ⟨q, -, hq⟩ := List.exists_of_findSome?_eq_some h
    exact mem_of_mem_dropStart? hq hc
  · split at h
    · cases h
      exact mem_of_mem_afterLast hc
    · cases h

lemma isLine_spellWithin {v : Vocabulary} (hv : SpellsLines v) (n : Nat) {type : List Char}
    (h : '\n' ∉ type) : IsLine (v.spellWithin n type) := by
  induction n generalizing type with
  | zero => exact isLine_ofList.2 h
  | succ n ih =>
    have htrim : '\n' ∉ trim type := fun hm => h (mem_of_mem_trim hm)
    rw [Vocabulary.spellWithin]
    split
    · rename_i x hx
      exact hv.exact _ (List.mem_of_find?_eq_some hx)
    · split
      · exact hv.escape
      · split
        · rename_i element helement
          simpa [Wrapping.wrap] using ⟨⟨hv.array.1,
            ih fun hm => htrim (mem_of_mem_dropEnd? helement hm)⟩, hv.array.2⟩
        · split
          · rename_i element helement
            simpa [Wrapping.wrap] using ⟨⟨hv.sequence.1,
              ih fun hm => htrim (mem_of_mem_element? helement hm)⟩, hv.sequence.2⟩
          · split
            · rename_i rest hrest
              exact ih fun hm => htrim (mem_of_mem_unqualified? hrest hm)
            · exact isLine_ofList.2 htrim

lemma isLine_spell {v : Vocabulary} (hv : SpellsLines v) {type : String} (h : IsLine type) :
    IsLine (v.spell type) := isLine_spellWithin hv _ h

lemma spellsLines_scriptDoc : SpellsLines Vocabulary.scriptDoc :=
  ⟨by decide, by decide, by decide, by decide⟩

lemma spellsLines_declared : SpellsLines Vocabulary.declared :=
  ⟨by decide, by decide, by decide, by decide⟩

lemma spellsLines_pageDoc : SpellsLines Vocabulary.pageDoc :=
  ⟨by decide, by decide, by decide, by decide⟩

lemma spellsLines_hint : SpellsLines Vocabulary.hint :=
  ⟨by decide, by decide, by decide, by decide⟩

/-- Every line has a property. -/
def Each (P : String → Prop) (ls : List String) : Prop := ∀ l ∈ ls, P l

section
variable {P : String → Prop}

@[simp] lemma each_nil : Each P [] := by simp [Each]

@[simp] lemma each_cons {l : String} {ls : List String} : Each P (l :: ls) ↔ P l ∧ Each P ls :=
  List.forall_mem_cons

@[simp] lemma each_append {ls ls' : List String} : Each P (ls ++ ls') ↔ Each P ls ∧ Each P ls' :=
  List.forall_mem_append

lemma each_map {α : Type} {f : α → String} {items : List α} (h : ∀ a ∈ items, P (f a)) :
    Each P (items.map f) := List.forall_mem_map.2 h

lemma each_flatMap {α : Type} {f : α → List String} {items : List α}
    (h : ∀ a ∈ items, Each P (f a)) : Each P (items.flatMap f) := by
  intro l hl
  obtain ⟨a, ha, hl⟩ := List.mem_flatMap.1 hl
  exact h a ha l hl

end

/-- Lines without line feeds. -/
abbrev Lined : List String → Prop := Each IsLine

/-- The lines of a text are found between its line feeds; the last one ends the text. -/
lemma splitAt_unlines {ls : List String} (h : Lined ls) :
    splitAt '\n' (unlines ls).toList = ls.map String.toList ++ [[]] := by
  induction ls with
  | nil => rfl
  | cons l ls ih =>
    have hrest := ih fun k hk => h k (List.mem_cons_of_mem _ hk)
    have hline : (unlines (l :: ls)).toList = l.toList ++ '\n' :: (unlines ls).toList := by
      simp [unlines]
    rw [hline, splitAt_append_cons _ (h l (by simp)), hrest]
    rfl

/-- Lines that are lines of code with blocks of documentation between them: `code` is what is left
without the blocks. -/
inductive Documented (Doc : List String → Prop) : List String → List String → Prop
  | nil : Documented Doc [] []
  | doc {block ls code} (isDoc : Doc block) (rest : Documented Doc ls code) :
      Documented Doc (block ++ ls) code
  | code (line : String) {ls code} (rest : Documented Doc ls code) :
      Documented Doc (line :: ls) (line :: code)

namespace Documented
variable {Doc : List String → Prop} {ls ls' cs cs' : List String}

lemma append (h : Documented Doc ls cs) (h' : Documented Doc ls' cs') :
    Documented Doc (ls ++ ls') (cs ++ cs') := by
  induction h with
  | nil => exact h'
  | doc isDoc _ ih =>
    rw [List.append_assoc]
    exact doc isDoc ih
  | code line _ ih => exact code line ih

lemma ofDoc (h : Doc ls) : Documented Doc ls [] := by simpa using doc h nil

lemma ofCode (cs : List String) : Documented Doc cs cs := by
  induction cs with
  | nil => exact nil
  | cons line cs ih => exact code line ih

/-- What no block of documentation holds is found in the code. -/
lemma filter_eq (h : Documented Doc ls cs) {p : String → Bool}
    (hdoc : ∀ block, Doc block → block.filter p = []) : ls.filter p = cs.filter p := by
  induction h with
  | nil => rfl
  | doc isDoc _ ih => rw [List.filter_append, hdoc _ isDoc, ih, List.nil_append]
  | code line _ ih =>
    rw [List.filter_cons, List.filter_cons, ih]

/-- Every line is one of the documentation or of the code. -/
lemma each (h : Documented Doc ls cs) {P : String → Prop} (hdoc : ∀ block, Doc block → Each P block)
    (hcode : Each P cs) : Each P ls := by
  induction h with
  | nil => exact hcode
  | doc isDoc _ ih => exact each_append.2 ⟨hdoc _ isDoc, ih hcode⟩
  | code line _ ih =>
    obtain ⟨hline, hrest⟩ := each_cons.1 hcode
    exact each_cons.2 ⟨hline, ih hrest⟩

/-- A line of code under a block of documentation. -/
lemma fenced {opening closing : String} (h : Doc ([opening] ++ ls ++ [closing])) (line : String) :
    Documented Doc ([opening] ++ ls ++ [closing, line]) [line] := by
  simpa using doc h (ofCode [line])

/-- Items that each become some code, one after the other. -/
lemma flatMap {α : Type} {R : α → List String → Prop} {f : α → List String} {items : List α}
    (h : ∀ a ∈ items, ∃ code, R a code ∧ Documented Doc (f a) code) :
    ∃ codes, List.Forall₂ R items codes ∧ Documented Doc (items.flatMap f) codes.flatten := by
  induction items with
  | nil => exact ⟨[], List.Forall₂.nil, nil⟩
  | cons a items ih =>
    obtain ⟨code, hcode, hdoc⟩ := h a (by simp)
    obtain ⟨codes, hcodes, hdocs⟩ := ih fun b hb => h b (List.mem_cons_of_mem _ hb)
    exact ⟨code :: codes, List.Forall₂.cons hcode hcodes, by simpa using hdoc.append hdocs⟩

/-- Items that each become the code that is given for them. -/
lemma flatMapCode {α : Type} {f code : α → List String} {items : List α}
    (h : ∀ a ∈ items, Documented Doc (f a) (code a)) :
    Documented Doc (items.flatMap f) (items.flatMap code) := by
  induction items with
  | nil => exact nil
  | cons a items ih =>
    exact (h a (by simp)).append (ih fun b hb => h b (List.mem_cons_of_mem _ hb))

end Documented

lemma forall_of_forall₂ {α β : Type} {P : β → Prop} {as : List α} {bs : List β}
    (h : List.Forall₂ (fun _ b => P b) as bs) : ∀ b ∈ bs, P b := by
  induction h with
  | nil => simp
  | cons first _ ih => exact List.forall_mem_cons.2 ⟨first, ih⟩

end BindingDocs.Output
