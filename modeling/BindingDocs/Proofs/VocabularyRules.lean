import BindingDocs.Proofs.TextSearch
import BindingDocs.Vocabulary.Basic

/-! The rules of a vocabulary: the first rule that fits a type gives its spelling or leaves a shorter
type to be spelled, so the rules come to an end on every type. -/
namespace BindingDocs

/-- Nothing is written around a text. -/
def Wrapping.bare : Wrapping := ⟨"", ""⟩

@[simp] lemma Wrapping.wrap_bare (s : String) : Wrapping.bare.wrap s = s := by simp [bare, wrap]

/-- What a rule makes of a type: its spelling, or a part of the type that is spelled next and what is
written around the spelling of that part. -/
inductive RuleOutcome where
  | spelled (s : String)
  | wrapped (w : Wrapping) (rest : List Char)

/-- The spelling that an outcome leads to. -/
def RuleOutcome.finish (again : List Char → String) : RuleOutcome → String
  | spelled s => s
  | wrapped w rest => w.wrap (again rest)

/-- The texts that may stand in front of the argument of a sequence. -/
def Sequences.Heads : Sequences → List Char → Prop
  | enumerable, head =>
    head = "IEnumerable".toList ∨ head = "System.Collections.Generic.IEnumerable".toList
  | anyGeneric, head => '<' ∉ head

namespace Vocabulary
open BindingDocs.Text
variable (v : Vocabulary)

/-- The spelling of a type that is listed as a whole. -/
def listed? (name : String) : Option String :=
  match v.exact.find? (·.1 == name) with
  | some e => some e.2
  | none => if v.escaped.contains name then some v.escape else none

/-- The first rule that fits a type. -/
def rule (type : List Char) : RuleOutcome :=
  match v.listed? (String.ofList (trim type)) with
  | some s => .spelled s
  | none => match dropEnd? ['[', ']'] (trim type) with
    | some element => .wrapped v.array element
    | none => match v.element? (trim type) with
      | some element => .wrapped v.sequence element
      | none => match v.unqualified? (trim type) with
        | some rest => .wrapped .bare rest
        | none => .spelled (String.ofList (trim type))

lemma spellWithin_succ (n : Nat) (type : List Char) :
    v.spellWithin (n + 1) type = (v.rule type).finish (v.spellWithin n) := by
  rw [spellWithin, rule, listed?]
  cases v.exact.find? (·.1 == String.ofList (trim type)) with
  | some e => rfl
  | none =>
    by_cases hescaped : v.escaped.contains (String.ofList (trim type)) = true
    · simp only [hescaped, if_true]
      rfl
    · simp only [hescaped]
      cases dropEnd? ['[', ']'] (trim type) with
      | some element => rfl
      | none =>
        cases v.element? (trim type) with
        | some element => rfl
        | none =>
          cases v.unqualified? (trim type) with
          | some rest => exact (Wrapping.wrap_bare _).symm
          | none => rfl

variable {v}

lemma element?_eq_some_iff {type element : List Char} :
    v.element? type = some element ↔
      ∃ head, v.sequences.Heads head ∧ type = head ++ '<' :: (element ++ ['>']) := by
  rw [element?]
  cases v.sequences with
  | enumerable =>
    have hopen : "IEnumerable<".toList = "IEnumerable".toList ++ ['<'] := rfl
    have hlong : "System.Collections.Generic.IEnumerable".toList =
      "System.Collections.Generic.".toList ++ "IEnumerable".toList := rfl
    simp only [Option.bind_eq_some_iff, dropStart?_eq_some_iff, dropEnd?_eq_some_iff, exists_eq_right,
      Sequences.Heads, or_and_right, exists_or, exists_eq_left]
    cases hq : dropStart? "System.Collections.Generic.".toList type with
    | none =>
      rw [Option.getD_none, hopen, List.append_assoc, List.singleton_append, hlong]
      refine (or_iff_left fun hlong => ?_).symm
      rw [List.append_assoc, ← dropStart?_eq_some_iff, hq] at hlong
      cases hlong
    | some name =>
      rw [Option.getD_some, dropStart?_eq_some_iff.1 hq, hopen, hlong, List.append_assoc,
        List.append_assoc, List.append_cancel_left_eq, List.singleton_append]
      refine (or_iff_right fun hshort => ?_).symm
      cases hshort
  | anyGeneric =>
    simp only [Option.bind_eq_some_iff, dropEnd?_eq_some_iff, Sequences.Heads]
    constructor
    · rintro ⟨⟨head, rest⟩, hcut, rfl⟩
      exact ⟨head, (cutAt_eq_some hcut).2, (cutAt_eq_some hcut).1⟩
    · rintro ⟨head, hhead, rfl⟩
      exact ⟨(head, element ++ ['>']), cutAt_append _ hhead, rfl⟩

/-- A generic type is no array. -/
lemma dropEnd?_generic (head element : List Char) :
    dropEnd? ['[', ']'] (head ++ '<' :: (element ++ ['>'])) = none := by
  refine Option.eq_none_iff_forall_ne_some.2 fun item hitem => ?_
  have hlast := congrArg List.getLast? (dropEnd?_eq_some_iff.1 hitem)
  rw [← List.cons_append, ← List.append_assoc, List.getLast?_concat] at hlast
  simp at hlast

section Rules

/-- What a rule can do: a type is listed, an array, a sequence or qualified, or its own spelling. -/
lemma rule_cases (type : List Char) :
    (∃ s, v.listed? (String.ofList (trim type)) = some s ∧ v.rule type = .spelled s) ∨
      (∃ item, trim type = item ++ ['[', ']'] ∧ v.rule type = .wrapped v.array item) ∨
      (∃ element, v.element? (trim type) = some element ∧ v.rule type = .wrapped v.sequence element) ∨
      (∃ rest, v.unqualified? (trim type) = some rest ∧ v.rule type = .wrapped .bare rest) ∨
      v.rule type = .spelled (String.ofList (trim type)) := by
  rw [rule]
  split
  · rename_i s hs
    exact .inl ⟨s, hs, rfl⟩
  right
  split
  · rename_i item hitem
    exact .inl ⟨item, dropEnd?_eq_some_iff.1 hitem, rfl⟩
  right
  split
  · rename_i element helement
    exact .inl ⟨element, helement, rfl⟩
  right
  split
  · rename_i rest hrest
    exact .inl ⟨rest, hrest, rfl⟩
  · exact .inr rfl

lemma rule_trim (type : List Char) : v.rule (trim type) = v.rule type := by
  rw [rule, rule, trim_trim]

/-- The types that are spelled as a whole. -/
def listedNames (v : Vocabulary) : List String := v.exact.map (·.1) ++ v.escaped

lemma listed?_eq_none_iff {name : String} : v.listed? name = none ↔ name ∉ v.listedNames := by
  rw [listed?, listedNames, List.mem_append, not_or]
  cases hfind : v.exact.find? (·.1 == name) with
  | some e =>
    have hname : e.1 = name := by simpa using List.find?_some hfind
    have hmem : name ∈ v.exact.map (·.1) := List.mem_map.2 ⟨e, List.mem_of_find?_eq_some hfind, hname⟩
    simp [hmem]
  | none =>
    have hmem : name ∉ v.exact.map (·.1) := by
      intro hmem
      obtain ⟨e, he, rfl⟩ := List.mem_map.1 hmem
      simpa using List.find?_eq_none.1 hfind e he
    simp [hmem]

variable {type : List Char} (hlisted : String.ofList (trim type) ∉ v.listedNames)
include hlisted

lemma rule_of_array {item : List Char} (h : trim type = item ++ ['[', ']']) :
    v.rule type = .wrapped v.array item := by
  rw [rule, listed?_eq_none_iff.2 hlisted, dropEnd?_eq_some_iff.2 h]

lemma rule_of_element {element : List Char} (h : v.element? (trim type) = some element) :
    v.rule type = .wrapped v.sequence element := by
  obtain ⟨head, -, htype⟩ := element?_eq_some_iff.1 h
  have harray : dropEnd? ['[', ']'] (trim type) = none := htype ▸ dropEnd?_generic head element
  rw [rule, listed?_eq_none_iff.2 hlisted, harray, h]

lemma rule_of_unqualified {rest : List Char} (harray : dropEnd? ['[', ']'] (trim type) = none)
    (hsequence : v.element? (trim type) = none) (h : v.unqualified? (trim type) = some rest) :
    v.rule type = .wrapped .bare rest := by
  rw [rule, listed?_eq_none_iff.2 hlisted, harray, hsequence, h]

lemma rule_of_name (harray : dropEnd? ['[', ']'] (trim type) = none)
    (hsequence : v.element? (trim type) = none) (h : v.unqualified? (trim type) = none) :
    v.rule type = .spelled (String.ofList (trim type)) := by
  rw [rule, listed?_eq_none_iff.2 hlisted, harray, hsequence, h]

end Rules

/-- No qualifier that is left out is empty. -/
def DropsOnlyText (v : Vocabulary) : Prop := ∀ names, v.qualifiers = .listed names → "" ∉ names

lemma length_element? {type element : List Char} (h : v.element? type = some element) :
    element.length < type.length := by
  obtain ⟨head, -, rfl⟩ := element?_eq_some_iff.1 h
  simp only [List.length_append, List.length_cons]
  omega

lemma length_unqualified? (hv : v.DropsOnlyText) {type rest : List Char}
    (h : v.unqualified? type = some rest) : rest.length < type.length := by
  rw [unqualified?] at h
  split at h
  · rename_i names hnames
    obtain ⟨q, hq, hrest⟩ := List.exists_of_findSome?_eq_some h
    have hne : q ≠ "" := fun hempty => hv names hnames (hempty ▸ hq)
    have hpos : 0 < q.toList.length := List.length_pos_of_ne_nil (by simpa using hne)
    rw [dropStart?_eq_some_iff.1 hrest, List.length_append]
    omega
  · split at h
    · rename_i hdot
      cases h
      exact length_afterLast_lt (List.contains_iff_mem.1 hdot)
    · cases h

/-- A rule leaves a shorter type. -/
lemma length_rule (hv : v.DropsOnlyText) {type rest : List Char} {w : Wrapping}
    (h : v.rule type = .wrapped w rest) : rest.length < type.length := by
  refine Nat.lt_of_lt_of_le ?_ (length_trim_le type)
  rw [rule] at h
  split at h
  · cases h
  split at h
  · rename_i helement
    cases h
    rw [dropEnd?_eq_some_iff.1 helement]
    simp
  split at h
  · rename_i helement
    cases h
    exact length_element? helement
  split at h
  · rename_i hrest
    cases h
    exact length_unqualified? hv hrest
  · cases h

/-- Any bound above the length of a type gives the same spelling. -/
lemma spellWithin_eq (hv : v.DropsOnlyText) {n m : Nat} {type : List Char} (hn : type.length < n)
    (hm : type.length < m) : v.spellWithin n type = v.spellWithin m type := by
  induction n generalizing m type with
  | zero => omega
  | succ n ih =>
    -- each rule uses up one of the bound and at least one character
    obtain ⟨m, rfl⟩ : ∃ k, m = k + 1 := ⟨m - 1, by omega⟩
    rw [spellWithin_succ, spellWithin_succ]
    cases hrule : v.rule type with
    | spelled s => rfl
    | wrapped w rest =>
      have hshorter := length_rule hv hrule
      exact congrArg w.wrap (ih (by omega) (by omega))

/-- The spelling of a type follows from the first rule that fits it, without a bound. -/
theorem spell_eq (hv : v.DropsOnlyText) (type : List Char) :
    v.spell (String.ofList type) = (v.rule type).finish fun rest => v.spell (String.ofList rest) := by
  simp only [spell, String.toList_ofList]
  rw [spellWithin_succ]
  cases hrule : v.rule type with
  | spelled s => rfl
  | wrapped w rest =>
    exact congrArg w.wrap (spellWithin_eq hv (length_rule hv hrule) (Nat.lt_succ_self _))

/-- The blanks around a type do not matter. -/
lemma spell_eq_of_trim (hv : v.DropsOnlyText) {s t : List Char} (h : trim s = trim t) :
    v.spell (String.ofList s) = v.spell (String.ofList t) := by
  rw [spell_eq hv, spell_eq hv, rule, rule, h]

/-- The rules applied to a type, and to what they leave of it, up to the end. -/
inductive Spells (v : Vocabulary) : List Char → String → Prop
  | spelled {type s} (first : v.rule type = .spelled s) : Spells v type s
  | wrapped {type w rest s} (first : v.rule type = .wrapped w rest) (next : Spells v rest s) :
      Spells v type (w.wrap s)

/-- The rules come to an end on every type. -/
theorem spells_iff (hv : v.DropsOnlyText) {type : List Char} {s : String} :
    v.Spells type s ↔ s = v.spell (String.ofList type) := by
  constructor
  · intro h
    induction h with
    | spelled first => rw [spell_eq hv, first, RuleOutcome.finish]
    | wrapped first _ ih => rw [spell_eq hv, first, RuleOutcome.finish, ih]
  · rintro rfl
    induction hlength : type.length using Nat.strongRecOn generalizing type with
    | ind n ih =>
      subst hlength
      rw [spell_eq hv]
      cases hrule : v.rule type with
      | spelled s => exact .spelled hrule
      | wrapped w rest => exact .wrapped hrule (ih rest.length (length_rule hv hrule) rfl)

end Vocabulary
end BindingDocs
