import BindingDocs.Proofs.QualifiedTypes

/-! Spelling a type twice. What the script vocabularies write is a type to which their own rules give no
other spelling. -/
namespace BindingDocs.Vocabulary
open BindingDocs.Text

/-- The spellings that a table gives. -/
def spellings (v : Vocabulary) : List String := v.escape :: v.exact.map (·.2)

lemma mem_spellings {v : Vocabulary} {name s : String} (h : v.listed? name = some s) : s ∈ v.spellings := by
  rw [listed?] at h
  split at h
  · rename_i e he
    cases h
    exact List.mem_cons_of_mem _ (List.mem_map_of_mem (List.mem_of_find?_eq_some he))
  · split at h
    · cases h
      exact List.mem_cons_self
    · cases h

/-- A text whose spelling is the text itself: as a whole, or as an array of such a text. -/
inductive Stands (v : Vocabulary) : List Char → Prop
  | whole {s : List Char} (trimmed : trim s = s) (first : v.rule s = .spelled (String.ofList s)) :
      Stands v s
  | array {s : List Char} (first : v.rule (s ++ ['[', ']']) = .wrapped v.array s) (item : Stands v s) :
      Stands v (s ++ ['[', ']'])

namespace Stands
variable {v : Vocabulary} {s : List Char}

lemma trimLeft_eq (h : v.Stands s) : trimLeft s = s := by
  induction h with
  | @whole s trimmed _ =>
    rw [trimLeft, dropWhile_isBlank_of_head]
    intro c hc
    exact not_isBlank_of_head?_trim (trimmed.symm ▸ hc)
  | @array s _ _ ih => rw [trimLeft_append s ⟨'[', rfl, rfl⟩, ih]

lemma brackets (h : v.Stands s) (hlisted : String.ofList (s ++ ['[', ']']) ∉ v.listedNames) :
    v.Stands (s ++ ['[', ']']) := by
  have htrim : trim (s ++ ['[', ']']) = s ++ ['[', ']'] := by
    rw [trim_append s ⟨'[', rfl, rfl⟩ ⟨']', rfl, rfl⟩, h.trimLeft_eq]
  exact .array (rule_of_array (htrim.symm ▸ hlisted) htrim) h

lemma spell_eq (hv : v.DropsOnlyText) (harray : v.array = ⟨"", "[]"⟩) (h : v.Stands s) :
    v.spell (String.ofList s) = String.ofList s := by
  induction h with
  | whole _ first => rw [Vocabulary.spell_eq hv, first, RuleOutcome.finish]
  | array first _ ih =>
    rw [Vocabulary.spell_eq hv, first, RuleOutcome.finish, ih, harray]
    simp [Wrapping.wrap]

end Stands

/-- A vocabulary that writes arrays and sequences as arrays. No rule changes the spellings of its
table, and the elements of a type that is listed as an array are spelled in another way. -/
structure WritesArrays (v : Vocabulary) : Prop where
  dropsOnlyText : v.DropsOnlyText
  array : v.array = ⟨"", "[]"⟩
  sequence : v.sequence = ⟨"", "[]"⟩
  spellings : ∀ s ∈ v.spellings, v.Stands s.toList
  items : ∀ item, String.ofList (item ++ ['[', ']']) ∈ v.listedNames →
    v.spell (String.ofList item) ≠ String.ofList item

namespace WritesArrays
variable {v : Vocabulary} (hv : v.WritesArrays)
include hv

lemma brackets {s : List Char} (h : v.Stands s) : v.Stands (s ++ ['[', ']']) :=
  h.brackets fun hlisted => hv.items s hlisted (h.spell_eq hv.dropsOnlyText hv.array)

/-- No rule changes what a vocabulary has written. -/
theorem stands_spell (type : List Char) : v.Stands (v.spell (String.ofList type)).toList := by
  -- on the length: the first rule leaves a shorter type, whose spelling stands
  induction hlength : type.length using Nat.strongRecOn generalizing type with
  | ind n ih =>
    subst hlength
    rw [spell_eq hv.dropsOnlyText]
    rcases v.rule_cases type with ⟨s, hs, hrule⟩ | ⟨rest, -, hrule⟩ | ⟨rest, -, hrule⟩ |
      ⟨rest, -, hrule⟩ | hrule
    · rw [hrule]
      exact hv.spellings s (mem_spellings hs)
    · have hrest := ih rest.length (length_rule hv.dropsOnlyText hrule) rest rfl
      rw [hrule, RuleOutcome.finish, hv.array]
      simpa [Wrapping.wrap] using hv.brackets hrest
    · have hrest := ih rest.length (length_rule hv.dropsOnlyText hrule) rest rfl
      rw [hrule, RuleOutcome.finish, hv.sequence]
      simpa [Wrapping.wrap] using hv.brackets hrest
    · rw [hrule, RuleOutcome.finish, Wrapping.wrap_bare]
      exact ih rest.length (length_rule hv.dropsOnlyText hrule) rest rfl
    · rw [hrule, RuleOutcome.finish, String.toList_ofList]
      exact .whole (trim_trim type) ((rule_trim type).trans hrule)

lemma spell_spell (type : String) : v.spell (v.spell type) = v.spell type := by
  have hstands := hv.stands_spell type.toList
  simpa using hstands.spell_eq hv.dropsOnlyText hv.array

end WritesArrays

/-- A text that is listed as itself, or that no rule fits. -/
def Unchanged (v : Vocabulary) (s : List Char) : Prop :=
  trim s = s ∧ (v.listed? (String.ofList s) = some (String.ofList s) ∨
    v.listed? (String.ofList s) = none ∧ dropEnd? ['[', ']'] s = none ∧ v.element? s = none ∧
      v.unqualified? s = none)

instance (v : Vocabulary) (s : List Char) : Decidable (v.Unchanged s) :=
  inferInstanceAs (Decidable (_ ∧ _))

lemma Unchanged.stands {v : Vocabulary} {s : List Char} (h : v.Unchanged s) : v.Stands s := by
  obtain ⟨htrim, hlisted | ⟨hlisted, harray, hsequence, hqualifier⟩⟩ := h
  · exact .whole htrim (by rw [rule, htrim, hlisted])
  · exact .whole htrim (by rw [rule, htrim, hlisted, harray, hsequence, hqualifier])

lemma writesArrays_scriptDoc : scriptDoc.WritesArrays where
  dropsOnlyText := by
    intro names hnames
    cases hnames
    decide +kernel
  array := rfl
  sequence := rfl
  spellings s hs := by
    have hunchanged : ∀ s ∈ scriptDoc.spellings, scriptDoc.Unchanged s.toList := by decide +kernel
    exact (hunchanged s hs).stands
  items item hlisted := by
    have hnone : ∀ name ∈ scriptDoc.listedNames, dropEnd? ['[', ']'] name.toList = none := by
      decide +kernel
    have hitem := hnone _ hlisted
    rw [String.toList_ofList, dropEnd?_eq_some_iff.2 rfl] at hitem
    cases hitem

/-- The spellings of declarations are names and arrays of names. -/
lemma declared_spellings : ∀ s ∈ declared.spellings, declared.Unchanged s.toList ∨
    s ∈ ["any[]", "number[]", "number[][]"] := by decide +kernel

lemma stands_declared_spelling {s : String} (hs : s ∈ declared.spellings) : declared.Stands s.toList := by
  have hname : ∀ name ∈ ["any", "number"], declared.Unchanged name.toList := by decide +kernel
  have hany := (hname "any" (by simp)).stands
  have hnumber := (hname "number" (by simp)).stands
  have hunlisted : ∀ name ∈ ["any[]", "number[]", "number[][]"], name ∉ declared.listedNames := by
    decide +kernel
  rcases declared_spellings s hs with hs | hs
  · exact hs.stands
  · simp only [List.mem_cons, List.not_mem_nil, or_false] at hs
    have hnumbers := hnumber.brackets (hunlisted "number[]" (by simp))
    rcases hs with rfl | rfl | rfl
    · exact hany.brackets (hunlisted _ (by simp))
    · exact hnumbers
    · exact hnumbers.brackets (hunlisted "number[][]" (by simp))

lemma writesArrays_declared : declared.WritesArrays where
  dropsOnlyText := dropsOnlyText_declared
  array := rfl
  sequence := rfl
  spellings _ := stands_declared_spelling
  items item hlisted := by
    rcases item_of_listed hlisted with rfl | rfl <;> decide +kernel

/-- What the script vocabularies write is spelled as it stands: each rule that fits it gives back the
same text. -/
theorem script_types_are_stable (type : String) :
    declared.spell (declared.spell type) = declared.spell type ∧
      scriptDoc.spell (scriptDoc.spell type) = scriptDoc.spell type ∧
      declared.Stands (declared.spell type).toList ∧ scriptDoc.Stands (scriptDoc.spell type).toList := by
  refine ⟨writesArrays_declared.spell_spell type, writesArrays_scriptDoc.spell_spell type, ?_, ?_⟩
  · simpa using writesArrays_declared.stands_spell type.toList
  · simpa using writesArrays_scriptDoc.stands_spell type.toList

end BindingDocs.Vocabulary
