import BindingDocs.Text.Blank
import BindingDocs.Text.Search
import Mathlib.Data.List.Basic
import Mathlib.Data.List.TakeWhile
import Mathlib.Tactic.Lemma

/-! Cutting and searching texts: where a mark can stand, and what the parts of a cut are. -/
namespace BindingDocs.Text

lemma cutAt_eq_none_iff {d : Char} {s : List Char} : cutAt d s = none ↔ d ∉ s := by
  induction s with
  | nil => simp [cutAt]
  | cons c s ih =>
    by_cases h : c = d
    · simp [cutAt, h]
    · simp [cutAt, h, ih, Ne.symm h]

lemma cutAt_eq_some {d : Char} {s : List Char} {r : List Char × List Char}
    (h : cutAt d s = some r) : s = r.1 ++ d :: r.2 ∧ d ∉ r.1 := by
  induction s generalizing r with
  | nil => simp [cutAt] at h
  | cons c s ih =>
    rw [cutAt] at h
    split at h
    · rename_i hc
      cases h
      simp [hc]
    · rename_i hc
      obtain ⟨r, hr, rfl⟩ := Option.map_eq_some_iff.1 h
      obtain ⟨hs, hd⟩ := ih hr
      exact ⟨by simp [← hs], by simp [hd, Ne.symm hc]⟩

lemma cutAt_append {d : Char} {a : List Char} (b : List Char) (h : d ∉ a) :
    cutAt d (a ++ d :: b) = some (a, b) := by
  induction a with
  | nil => simp [cutAt]
  | cons c a ih =>
    obtain ⟨hc, ha⟩ := not_or.1 (mt List.mem_cons.2 h)
    simp [cutAt, Ne.symm hc, ih ha]

/-- A mark of one character. -/
lemma cut_singleton (d : Char) (s : List Char) : cut [d] s = cutAt d s := by
  induction s with
  | nil => rfl
  | cons c s ih =>
    by_cases h : d = c
    · simp [cut, cutAt, h]
    · simp [cut, cutAt, h, Ne.symm h, ih]

lemma cut_eq_some {pat s : List Char} {r : List Char × List Char} (h : cut pat s = some r) :
    s = r.1 ++ pat ++ r.2 := by
  induction s generalizing r with
  | nil =>
    rw [cut] at h
    split at h
    · rename_i hp
      cases h
      simp [List.isEmpty_iff.1 hp]
    · cases h
  | cons c s ih =>
    rw [cut] at h
    split at h
    · rename_i hp
      cases h
      obtain ⟨t, ht⟩ := List.isPrefixOf_iff_prefix.1 hp
      simp [← ht]
    · obtain ⟨r, hr, rfl⟩ := Option.map_eq_some_iff.1 h
      simp [← ih hr]

@[simp] lemma contains_nil (pat : List Char) : contains pat [] = pat.isEmpty := by
  cases pat <;> rfl

lemma cut_eq_none_iff {pat s : List Char} : cut pat s = none ↔ contains pat s = false := by
  simp [contains]

lemma contains_cons (pat : List Char) (c : Char) (s : List Char) :
    contains pat (c :: s) = (pat.isPrefixOf (c :: s) || contains pat s) := by
  rw [contains, cut, contains]
  cases pat.isPrefixOf (c :: s) <;> simp

/-- A mark that does not stand at the front of a text is looked for in the rest. -/
lemma cut_cons {pat s : List Char} {c : Char} (h : pat.isPrefixOf (c :: s) = false) :
    cut pat (c :: s) = (cut pat s).map fun r => (c :: r.1, r.2) := by
  rw [cut, h]
  rfl

/-- A text that lacks a character of a mark does not hold the mark. -/
lemma contains_eq_false {pat s : List Char} {c : Char} (hp : c ∈ pat) (hs : c ∉ s) :
    contains pat s = false := by
  by_contra h
  obtain ⟨r, hr⟩ := Option.isSome_iff_exists.1 (Bool.not_eq_false _ ▸ h)
  exact hs (by rw [cut_eq_some hr]; simp [hp])

/-- A mark does not reach over a character that it lacks. -/
lemma isPrefixOf_append_cons {pat : List Char} {sep : Char} (hp : sep ∉ pat) (a b : List Char) :
    pat.isPrefixOf (a ++ sep :: b) = pat.isPrefixOf a := by
  induction pat generalizing a with
  | nil => rfl
  | cons p pat ih =>
    obtain ⟨hne, hp⟩ := not_or.1 (mt List.mem_cons.2 hp)
    cases a with
    | nil => simp [List.isPrefixOf, Ne.symm hne]
    | cons c a => simp only [List.cons_append, List.isPrefixOf, ih hp]

/-- Where a mark lacks a character, it is looked for before the character and then after it. -/
lemma contains_append_cons {pat : List Char} {sep : Char} (hp : sep ∉ pat) (a b : List Char) :
    contains pat (a ++ sep :: b) = (contains pat a || contains pat b) := by
  induction a with
  | nil =>
    have hstart := isPrefixOf_append_cons hp [] b
    rw [List.nil_append] at hstart ⊢
    rw [contains_cons, hstart, contains_nil]
    cases pat <;> rfl
  | cons c a ih =>
    have hstart := isPrefixOf_append_cons hp (c :: a) b
    rw [List.cons_append] at hstart ⊢
    rw [contains_cons, hstart, ih, contains_cons, Bool.or_assoc]

lemma cut_append_cons {pat : List Char} {sep : Char} (hp : sep ∉ pat) (a b : List Char)
    (ha : contains pat a = false) :
    cut pat (a ++ sep :: b) = (cut pat b).map fun r => (a ++ sep :: r.1, r.2) := by
  induction a with
  | nil =>
    have hstart := isPrefixOf_append_cons hp [] b
    rw [List.nil_append] at hstart ⊢
    rw [cut_cons]
    · rfl
    · cases pat with
      | nil => simp at ha
      | cons p pat => exact hstart
  | cons c a ih =>
    have hstart := isPrefixOf_append_cons hp (c :: a) b
    rw [contains_cons, Bool.or_eq_false_iff] at ha
    rw [List.cons_append] at hstart ⊢
    rw [cut_cons (hstart.trans ha.1), ih ha.2, Option.map_map]
    rfl

/-- A mark that stands at the front of a text. -/
lemma cut_self_append {pat : List Char} (h : pat ≠ []) (b : List Char) :
    cut pat (pat ++ b) = some ([], b) := by
  cases pat with
  | nil => exact absurd rfl h
  | cons p pat =>
    have hstart : (p :: pat).isPrefixOf (p :: (pat ++ b)) = true :=
      List.isPrefixOf_iff_prefix.2 (List.prefix_append (p :: pat) b)
    rw [List.cons_append, cut, if_pos hstart, ← List.cons_append, List.drop_left]

lemma splitAt_ne_nil (d : Char) (s : List Char) : splitAt d s ≠ [] := by
  cases s with
  | nil => simp [splitAt]
  | cons c s =>
    rw [splitAt]
    split
    · simp
    · split <;> simp

lemma splitAt_of_not_mem {d : Char} {s : List Char} (h : d ∉ s) : splitAt d s = [s] := by
  induction s with
  | nil => rfl
  | cons c s ih =>
    obtain ⟨hc, hs⟩ := not_or.1 (mt List.mem_cons.2 h)
    rw [splitAt, if_neg (Ne.symm hc), ih hs]

lemma splitAt_append_cons {d : Char} {a : List Char} (b : List Char) (h : d ∉ a) :
    splitAt d (a ++ d :: b) = a :: splitAt d b := by
  induction a with
  | nil => simp [splitAt]
  | cons c a ih =>
    obtain ⟨hc, ha⟩ := not_or.1 (mt List.mem_cons.2 h)
    rw [List.cons_append, splitAt, if_neg (Ne.symm hc), ih ha]

lemma dropStart?_eq_some_iff {start s r : List Char} : dropStart? start s = some r ↔ s = start ++ r := by
  rw [dropStart?]
  constructor
  · intro h
    split at h
    · rename_i hstart
      cases h
      exact (List.prefix_iff_eq_append.1 (List.isPrefixOf_iff_prefix.1 hstart)).symm
    · cases h
  · rintro rfl
    simp

lemma dropStart?_append_append (a b s : List Char) :
    dropStart? (a ++ b) (a ++ s) = dropStart? b s := by
  refine Option.ext fun r => ?_
  rw [dropStart?_eq_some_iff, dropStart?_eq_some_iff, List.append_assoc, List.append_cancel_left_eq]

lemma dropEnd?_eq_some_iff {tail s r : List Char} : dropEnd? tail s = some r ↔ s = r ++ tail := by
  rw [dropEnd?]
  constructor
  · intro h
    split at h
    · rename_i htail
      cases h
      exact (List.suffix_iff_eq_append.1 (List.isSuffixOf_iff_suffix.1 htail)).symm
    · cases h
  · rintro rfl
    simp

/-- A run ends before the first character that does not belong to it. -/
lemma takeWhile_append {p : Char → Bool} {s rest : List Char} (hs : ∀ c ∈ s, p c = true)
    (hrest : ∀ c ∈ rest.head?, p c = false) : (s ++ rest).takeWhile p = s := by
  rw [List.takeWhile_append_of_pos hs]
  cases rest with
  | nil => simp
  | cons c r => simp [hrest c rfl]

lemma afterLast_append_cons (d : Char) (s t : List Char) :
    afterLast d (s ++ d :: t) = afterLast d t := by
  have hrev : (s ++ d :: t).reverse = t.reverse ++ d :: s.reverse := by simp
  have hstop : (d :: s.reverse).takeWhile (· ≠ d) = [] := List.takeWhile_cons_of_neg (by simp)
  rw [afterLast, afterLast, hrev, List.takeWhile_append, hstop]
  split
  · rename_i h
    rw [List.append_nil, (List.takeWhile_prefix _).eq_of_length h]
  · rfl

lemma afterLast_of_not_mem {d : Char} {s : List Char} (h : d ∉ s) : afterLast d s = s := by
  have hne : ∀ c ∈ s.reverse, decide (c ≠ d) = true := fun c hc =>
    decide_eq_true fun heq => h (heq ▸ List.mem_reverse.1 hc)
  rw [afterLast, List.takeWhile_eq_self_iff.2 hne, List.reverse_reverse]

lemma afterLast_append_of_mem {d : Char} {b : List Char} (h : d ∈ b) (a : List Char) :
    afterLast d (a ++ b) = afterLast d b := by
  obtain ⟨x, y, rfl⟩ := List.append_of_mem h
  rw [← List.append_assoc, afterLast_append_cons, afterLast_append_cons]

lemma afterLast_append_of_not_mem {d : Char} {b : List Char} (h : d ∉ b) (a : List Char) :
    afterLast d (a ++ b) = afterLast d a ++ b := by
  have hne : ∀ c ∈ b.reverse, decide (c ≠ d) = true := fun c hc =>
    decide_eq_true fun heq => h (heq ▸ List.mem_reverse.1 hc)
  rw [afterLast, List.reverse_append, List.takeWhile_append_of_pos hne, List.reverse_append,
    List.reverse_reverse, afterLast]

lemma afterLast_suffix (d : Char) (s : List Char) : afterLast d s <:+ s := by
  rw [afterLast, ← List.reverse_prefix, List.reverse_reverse]
  exact List.takeWhile_prefix _

lemma exists_append_afterLast {d : Char} {s : List Char} (h : d ∈ s) :
    ∃ front, s = front ++ d :: afterLast d s := by
  obtain ⟨a, b, hs, ha⟩ := List.eq_append_cons_of_mem (List.mem_reverse.2 h)
  obtain rfl : s = b.reverse ++ d :: a.reverse := by simpa using congrArg List.reverse hs
  rw [afterLast_append_cons, afterLast_of_not_mem (by simpa using ha)]
  exact ⟨_, rfl⟩

lemma not_mem_afterLast (d : Char) (s : List Char) : d ∉ afterLast d s := by
  intro h
  have hne := List.mem_takeWhile_imp (List.mem_reverse.1 h)
  simp at hne

lemma length_afterLast_lt {d : Char} {s : List Char} (h : d ∈ s) : (afterLast d s).length < s.length := by
  obtain ⟨front, hs⟩ := exists_append_afterLast h
  have hlength := congrArg List.length hs
  rw [List.length_append, List.length_cons] at hlength
  omega

lemma dropWhile_isBlank_of_head {s : List Char} (h : ∀ c ∈ s.head?, isBlank c = false) :
    s.dropWhile isBlank = s := by
  cases s with
  | nil => rfl
  | cons c s => exact List.dropWhile_cons_of_neg (by simp [h c rfl])

/-- A text that neither begins nor ends with a blank. -/
lemma trim_eq_self {s : List Char} (hhead : ∀ c ∈ s.head?, isBlank c = false)
    (hlast : ∀ c ∈ s.getLast?, isBlank c = false) : trim s = s := by
  have hrev : ∀ c ∈ s.reverse.head?, isBlank c = false := by simpa using hlast
  rw [trim, trimLeft, dropWhile_isBlank_of_head hhead, trimRight, dropWhile_isBlank_of_head hrev,
    List.reverse_reverse]

lemma trim_of_no_blanks {s : List Char} (h : ∀ c ∈ s, isBlank c = false) : trim s = s :=
  trim_eq_self (fun c hc => h c (List.mem_of_mem_head? hc))
    (fun c hc => h c (List.mem_of_getLast? hc))

lemma trim_cons_blank {c : Char} (s : List Char) (h : isBlank c = true) : trim (c :: s) = trim s := by
  rw [trim, trimLeft, List.dropWhile_cons_of_pos h]
  rfl

lemma trim_concat_blank (s : List Char) {c : Char} (h : isBlank c = true) :
    trim (s ++ [c]) = trim s := by
  have hright : ∀ r : List Char, trimRight (r ++ [c]) = trimRight r := fun r => by
    simp [trimRight, h]
  rw [trim, trim, trimLeft, List.dropWhile_append, ← trimLeft]
  split
  · rename_i hempty
    rw [List.isEmpty_iff.1 hempty]
    simp [trimRight, h]
  · exact hright _

/-- A text that begins without a blank stops the trimming of what stands before it. -/
lemma trimLeft_append {t : List Char} (s : List Char) (h : ∃ c ∈ t.head?, isBlank c = false) :
    trimLeft (s ++ t) = trimLeft s ++ t := by
  obtain ⟨c, hc, hblank⟩ := h
  induction s with
  | nil =>
    obtain ⟨t, rfl⟩ := List.head?_eq_some_iff.1 hc
    exact List.dropWhile_cons_of_neg (by simp [hblank])
  | cons d s ih =>
    rw [trimLeft] at ih
    rw [trimLeft, trimLeft, List.cons_append]
    by_cases hd : isBlank d = true
    · rw [List.dropWhile_cons_of_pos hd, List.dropWhile_cons_of_pos hd, ih]
      rfl
    · rw [List.dropWhile_cons_of_neg hd, List.dropWhile_cons_of_neg hd]
      rfl

/-- A text that begins and ends without a blank keeps its place behind a trimmed text. -/
lemma trim_append {t : List Char} (s : List Char) (hhead : ∃ c ∈ t.head?, isBlank c = false)
    (hlast : ∃ c ∈ t.getLast?, isBlank c = false) : trim (s ++ t) = trimLeft s ++ t := by
  obtain ⟨c, hc, hblank⟩ := hlast
  obtain ⟨t, rfl⟩ := List.getLast?_eq_some_iff.1 hc
  rw [trim, trimLeft_append s hhead, ← List.append_assoc, trimRight, List.reverse_concat,
    List.dropWhile_cons_of_neg (by simp [hblank]), List.reverse_cons, List.reverse_reverse]

lemma trim_trimLeft (s : List Char) : trim (trimLeft s) = trim s := by
  induction s with
  | nil => rfl
  | cons c s ih =>
    by_cases hc : isBlank c = true
    · rw [trim_cons_blank s hc, trimLeft, List.dropWhile_cons_of_pos hc]
      exact ih
    · rw [trimLeft, List.dropWhile_cons_of_neg hc]

lemma trim_eq_nil_iff {s : List Char} : trim s = [] ↔ ∀ c ∈ s, isBlank c = true := by
  rw [trim, trimRight, List.reverse_eq_nil_iff, List.dropWhile_eq_nil_iff]
  constructor
  · intro h c hc
    by_contra hblank
    have hkept : c ∈ trimLeft s := by
      rw [← List.takeWhile_append_dropWhile (p := isBlank) (l := s), List.mem_append] at hc
      exact hc.resolve_left fun hmem => hblank (List.mem_takeWhile_imp hmem)
    exact hblank (h c (List.mem_reverse.2 hkept))
  · intro h c hc
    exact h c ((List.dropWhile_suffix isBlank).mem (List.mem_reverse.1 hc))

lemma length_trim_le (s : List Char) : (trim s).length ≤ s.length := by
  have hright : ∀ r : List Char, (trimRight r).length ≤ r.length := fun r => by
    simpa [trimRight] using (List.dropWhile_suffix isBlank (l := r.reverse)).length_le
  exact Nat.le_trans (hright _) (List.dropWhile_suffix isBlank).length_le

/-- Trimming takes nothing but blanks off the two ends. -/
lemma exists_blanks_trim (s : List Char) : ∃ lead tail, (∀ c ∈ lead, isBlank c = true) ∧
    (∀ c ∈ tail, isBlank c = true) ∧ s = lead ++ trim s ++ tail := by
  refine ⟨s.takeWhile isBlank, ((trimLeft s).reverse.takeWhile isBlank).reverse,
    fun c hc => List.mem_takeWhile_imp hc, fun c hc => List.mem_takeWhile_imp (List.mem_reverse.1 hc), ?_⟩
  rw [List.append_assoc, trim, trimRight, ← List.reverse_append, List.takeWhile_append_dropWhile,
    List.reverse_reverse, trimLeft, List.takeWhile_append_dropWhile]

lemma trimRight_isPrefix (s : List Char) : trimRight s <+: s := by
  rw [trimRight, ← List.reverse_suffix, List.reverse_reverse]
  exact List.dropWhile_suffix _

lemma not_isBlank_of_head?_dropWhile {s : List Char} {c : Char} (h : c ∈ (s.dropWhile isBlank).head?) :
    isBlank c = false := by
  have := List.head?_dropWhile_not isBlank s
  rw [h] at this
  simpa using this

lemma not_isBlank_of_getLast?_trim {s : List Char} {c : Char} (h : c ∈ (trim s).getLast?) :
    isBlank c = false := by
  rw [trim, trimRight, List.getLast?_reverse] at h
  exact not_isBlank_of_head?_dropWhile h

lemma not_isBlank_of_head?_trim {s : List Char} {c : Char} (h : c ∈ (trim s).head?) :
    isBlank c = false := by
  obtain ⟨tail, htail⟩ := trimRight_isPrefix (trimLeft s)
  rw [← trim] at htail
  refine not_isBlank_of_head?_dropWhile (s := s) ?_
  rw [← trimLeft, ← htail]
  exact List.mem_head?_append_of_mem_head? h

lemma trim_trim (s : List Char) : trim (trim s) = trim s :=
  trim_eq_self (fun _ => not_isBlank_of_head?_trim) (fun _ => not_isBlank_of_getLast?_trim)

/-- The end of a trimmed text has blanks at most in front. -/
lemma trim_suffix {s t : List Char} (h : s <:+ trim t) : trim s <:+ trim t := by
  obtain ⟨lead, tail, -, htail, hs⟩ := exists_blanks_trim s
  rcases List.eq_nil_or_concat tail with rfl | ⟨front, c, rfl⟩
  · rw [List.append_nil] at hs
    exact List.IsSuffix.trans ⟨lead, hs.symm⟩ h
  · obtain ⟨start, hstart⟩ := h
    have hlast : c ∈ (trim t).getLast? := by
      rw [← hstart, hs]
      simp
    have hblank := htail c (by simp)
    rw [not_isBlank_of_getLast?_trim hlast] at hblank
    cases hblank

/-- A text whose end is no blank stops the trimming of what stands behind it. -/
lemma trimRight_append {a : List Char} (h : ∀ c ∈ a.getLast?, isBlank c = false) (b : List Char) :
    trimRight (a ++ b) = a ++ trimRight b := by
  have hrev : a.reverse.dropWhile isBlank = a.reverse := dropWhile_isBlank_of_head (by simpa using h)
  rw [trimRight, List.reverse_append, List.dropWhile_append, trimRight]
  split
  · rename_i hempty
    rw [hrev, List.reverse_reverse, List.isEmpty_iff.1 hempty, List.reverse_nil, List.append_nil]
  · rw [List.reverse_append, List.reverse_reverse]

/-- Trimming a text around a part without blanks. -/
lemma trim_around {z : List Char} (hne : z ≠ []) (hz : ∀ c ∈ z, isBlank c = false) (p q : List Char) :
    trim (p ++ (z ++ q)) = trimLeft p ++ (z ++ trimRight q) := by
  obtain ⟨c, z, rfl⟩ := List.exists_cons_of_ne_nil hne
  have hlast : ∀ d ∈ (trimLeft p ++ c :: z).getLast?, isBlank d = false := by
    intro d hd
    rw [List.getLast?_append_of_ne_nil _ (by simp)] at hd
    exact hz d (List.mem_of_getLast? hd)
  rw [trim, trimLeft_append p ⟨c, rfl, hz c (by simp)⟩, ← List.append_assoc, trimRight_append hlast,
    List.append_assoc]

lemma mem_of_mem_trim {s : List Char} {c : Char} (h : c ∈ trim s) : c ∈ s := by
  have hright : c ∈ trimLeft s := by
    have := (List.dropWhile_suffix isBlank (l := (trimLeft s).reverse)).mem (List.mem_reverse.1 h)
    exact List.mem_reverse.1 this
  exact (List.dropWhile_suffix isBlank).mem hright

lemma mem_of_mem_dropStart? {start s r : List Char} {c : Char} (h : dropStart? start s = some r)
    (hc : c ∈ r) : c ∈ s := by
  rw [dropStart?_eq_some_iff.1 h]
  exact List.mem_append_right _ hc

lemma mem_of_mem_dropEnd? {tail s r : List Char} {c : Char} (h : dropEnd? tail s = some r)
    (hc : c ∈ r) : c ∈ s := by
  rw [dropEnd?_eq_some_iff.1 h]
  exact List.mem_append_left _ hc

lemma mem_of_mem_afterLast {d c : Char} {s : List Char} (h : c ∈ afterLast d s) : c ∈ s := by
  exact (afterLast_suffix d s).mem h

lemma mem_trimLeft {s : List Char} {c : Char} (h : c ∈ s) (hc : isBlank c = false) : c ∈ trimLeft s := by
  rw [← List.takeWhile_append_dropWhile (p := isBlank) (l := s), List.mem_append] at h
  refine h.resolve_left fun hmem => ?_
  rw [List.mem_takeWhile_imp hmem] at hc
  cases hc

lemma mem_trimRight {s : List Char} {c : Char} (h : c ∈ s) (hc : isBlank c = false) : c ∈ trimRight s := by
  rw [trimRight, List.mem_reverse]
  exact mem_trimLeft (List.mem_reverse.2 h) hc

lemma mem_trim {s : List Char} {c : Char} (h : c ∈ s) (hc : isBlank c = false) : c ∈ trim s := by
  rw [trim]
  exact mem_trimRight (mem_trimLeft h hc) hc

lemma count_trimLeft {c : Char} (hc : isBlank c = false) (s : List Char) :
    (trimLeft s).count c = s.count c := by
  have hblanks : (s.takeWhile isBlank).count c = 0 :=
    List.count_eq_zero.2 fun h => by simp [List.mem_takeWhile_imp h] at hc
  conv_rhs => rw [← List.takeWhile_append_dropWhile (p := isBlank) (l := s), List.count_append, hblanks,
    Nat.zero_add]
  rfl

lemma toNat_of_isAlphanum {c : Char} (h : c.isAlphanum = true) :
    (65 ≤ c.toNat ∧ c.toNat ≤ 90 ∨ 97 ≤ c.toNat ∧ c.toNat ≤ 122) ∨ 48 ≤ c.toNat ∧ c.toNat ≤ 57 := by
  change ((decide ('A'.val ≤ c.val ∧ c.val ≤ 'Z'.val) ||
    decide ('a'.val ≤ c.val) && decide (c.val ≤ 'z'.val)) ||
    decide ('0'.val ≤ c.val) && decide (c.val ≤ '9'.val)) = true at h
  simp only [Bool.or_eq_true, Bool.and_eq_true, decide_eq_true_eq, UInt32.le_iff_toNat_le] at h
  exact h

lemma not_isBlank_of_isAlphanum {c : Char} (h : c.isAlphanum = true) : isBlank c = false := by
  by_contra hblank
  simp only [Bool.not_eq_false, isBlank, Bool.or_eq_true, Bool.and_eq_true, decide_eq_true_eq,
    beq_iff_eq] at hblank
  have hcode := toNat_of_isAlphanum h
  omega

end BindingDocs.Text
