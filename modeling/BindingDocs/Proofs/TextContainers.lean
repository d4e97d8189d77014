import BindingDocs.Output.Prose
import BindingDocs.Proofs.TextSearch
import Mathlib.Data.List.TakeWhile

/-! Containers in a text, such as comments and documentation strings. A container goes on until its
first closing, so what it holds may end it too early; trimming a text and folding its lines neither
make a closing nor remove one. -/
namespace BindingDocs.Text

/-- How the end of a container is found: `cut` splits the text behind an opening at the first closing.
Neutral characters are no part of a closing and have no influence on what follows them. -/
structure Container where
  opening : String
  closing : String
  cut : List Char → Option (List Char × List Char)
  isNeutral : Char → Bool
  cut_nil : cut [] = none
  eq_of_cut : ∀ s r, cut s = some r → s = r.1 ++ closing.toList ++ r.2
  cut_closing : ∀ rest, cut (closing.toList ++ rest) = some ([], rest)
  cut_append_cons : ∀ a c b, isNeutral c = true → cut (a ++ c :: b) =
    ((cut a).map fun r => (r.1, r.2 ++ c :: b)).or ((cut b).map fun r => (a ++ c :: r.1, r.2))
  neutral_of_isBlank : ∀ c, isBlank c = true → isNeutral c = true

namespace Container

/-- A text that ends the container it stands in. -/
def ends (k : Container) (s : List Char) : Bool := (k.cut s).isSome

variable {k : Container}

@[simp] lemma ends_nil : k.ends [] = false := by rw [ends, k.cut_nil, Option.isSome_none]

lemma ends_append_cons {c : Char} (h : k.isNeutral c = true) (a b : List Char) :
    k.ends (a ++ c :: b) = (k.ends a || k.ends b) := by
  rw [ends, k.cut_append_cons a c b h, Option.isSome_or, Option.isSome_map, Option.isSome_map]
  rfl

lemma ends_cons {c : Char} (h : k.isNeutral c = true) (s : List Char) : k.ends (c :: s) = k.ends s := by
  have hsplit := ends_append_cons h [] s
  rwa [List.nil_append, ends_nil, Bool.false_or] at hsplit

lemma ends_neutral_append {w : List Char} (h : ∀ c ∈ w, k.isNeutral c = true) (s : List Char) :
    k.ends (w ++ s) = k.ends s := by
  induction w with
  | nil => rfl
  | cons c w ih =>
    rw [List.cons_append, ends_cons (h c (by simp)), ih fun d hd => h d (List.mem_cons_of_mem c hd)]

lemma ends_append_neutral {w : List Char} (h : ∀ c ∈ w, k.isNeutral c = true) (s : List Char) :
    k.ends (s ++ w) = k.ends s := by
  cases w with
  | nil => rw [List.append_nil]
  | cons c w =>
    have hrest := ends_neutral_append (fun d hd => h d (List.mem_cons_of_mem c hd)) []
    rw [List.append_nil, ends_nil] at hrest
    rw [ends_append_cons (h c (by simp)), hrest, Bool.or_false]

/-- A container that ends with neutral characters is closed by its own closing exactly if nothing in it
is a closing. -/
lemma cut_closed_iff {w : List Char} (hne : w ≠ []) (h : ∀ c ∈ w, k.isNeutral c = true)
    (s rest : List Char) :
    k.cut (s ++ w ++ k.closing.toList ++ rest) = some (s ++ w, rest) ↔ k.ends s = false := by
  obtain ⟨u, c, rfl⟩ := (List.eq_nil_or_concat w).resolve_left hne
  have hc : k.isNeutral c = true := h c (by simp)
  have hu : k.ends (s ++ u) = k.ends s := ends_append_neutral (fun d hd => h d (by simp [hd])) s
  rw [List.concat_eq_append] at *
  have hsplit : s ++ (u ++ [c]) ++ k.closing.toList ++ rest = s ++ u ++ c :: (k.closing.toList ++ rest) := by
    simp
  rw [hsplit, k.cut_append_cons _ _ _ hc, k.cut_closing, ← hu, ends]
  cases hcut : k.cut (s ++ u) with
  | none => simp
  | some r =>
    have hshort : r.1.length ≤ (s ++ u).length := by
      rw [k.eq_of_cut _ r hcut, List.append_assoc, List.length_append]
      omega
    simp only [Option.map_some, Option.some_or, Option.some.injEq, Prod.mk.injEq, Option.isSome_some,
      Bool.true_eq_false, iff_false, not_and]
    intro hfront
    rw [hfront, ← List.append_assoc, List.length_append, List.length_singleton] at hshort
    omega

lemma ends_trimLeft (s : List Char) : k.ends (trimLeft s) = k.ends s := by
  have hblank : ∀ c ∈ s.takeWhile isBlank, k.isNeutral c = true :=
    fun c hc => k.neutral_of_isBlank c (List.mem_takeWhile_imp hc)
  rw [trimLeft, ← ends_neutral_append hblank, List.takeWhile_append_dropWhile]

lemma ends_trim (s : List Char) : k.ends (trim s) = k.ends s := by
  have hsplit : trimRight (trimLeft s) ++ ((trimLeft s).reverse.takeWhile isBlank).reverse =
      trimLeft s := by
    rw [trimRight, ← List.reverse_append, List.takeWhile_append_dropWhile, List.reverse_reverse]
  have hblank : ∀ c ∈ ((trimLeft s).reverse.takeWhile isBlank).reverse, k.isNeutral c = true :=
    fun c hc => k.neutral_of_isBlank c (List.mem_takeWhile_imp (List.mem_reverse.1 hc))
  rw [trim, ← ends_append_neutral hblank, hsplit, ends_trimLeft]

lemma ends_dropReturn (line : List Char) : k.ends (dropReturn line) = k.ends line := by
  rw [dropReturn]
  split
  · rename_i h
    obtain ⟨front, rfl⟩ := List.getLast?_eq_some_iff.1 h
    have hreturn : ∀ c ∈ ['\r'], k.isNeutral c = true := by
      simpa using k.neutral_of_isBlank '\r' (by decide)
    rw [List.dropLast_concat, ends_append_neutral hreturn]
  · rfl

lemma neutral_lineFeed : k.isNeutral '\n' = true := k.neutral_of_isBlank '\n' (by decide)

lemma any_ends_linesFrom (seen s : List Char) :
    (linesFrom seen s).any k.ends = k.ends (seen.reverse ++ s) := by
  induction s generalizing seen with
  | nil =>
    rw [linesFrom, List.append_nil]
    split
    · rename_i h
      rw [List.isEmpty_iff.1 h, List.any_nil, List.reverse_nil, ends_nil]
    · rw [List.any_cons, List.any_nil, Bool.or_false]
  | cons c s ih =>
    rw [linesFrom]
    split
    · rename_i h
      rw [List.any_cons, ih, ends_dropReturn, h, ends_append_cons neutral_lineFeed]
      rfl
    · rw [ih, List.reverse_cons, List.append_assoc, List.singleton_append]

lemma any_ends_nonempty (ls : List (List Char)) :
    ((ls.filterMap fun l => if l.isEmpty then none else some (String.ofList l)).any
      fun l => k.ends l.toList) = ls.any k.ends := by
  induction ls with
  | nil => rfl
  | cons l ls ih =>
    cases l with
    | nil => rw [List.filterMap_cons_none rfl, ih, List.any_cons, ends_nil, Bool.false_or]
    | cons c l =>
      rw [List.filterMap_cons]
      simp only [List.isEmpty_cons, Bool.false_eq_true, if_false, List.any_cons, String.toList_ofList, ih]

/-- Some line of a text ends a container exactly if the text does. -/
lemma any_ends_textLines (text : String) :
    ((Output.textLines text).any fun l => k.ends l.toList) = k.ends text.toList := by
  have htrim : k.ends ∘ trim = k.ends := funext ends_trim
  rw [Output.textLines, any_ends_nonempty, List.any_map, htrim, lines, any_ends_linesFrom]
  rfl

/-- Lines are folded with blanks between them. -/
lemma ends_folded (ls : List String) :
    k.ends (joinWith " " ls).toList = ls.any fun l => k.ends l.toList := by
  induction ls with
  | nil => exact ends_nil
  | cons l ls ih =>
    cases ls with
    | nil => rw [joinWith, List.any_cons, List.any_nil, Bool.or_false]
    | cons l' ls =>
      have hblank : k.isNeutral ' ' = true := k.neutral_of_isBlank ' ' (by decide)
      have hjoin : (joinWith " " (l :: l' :: ls)).toList =
          l.toList ++ ' ' :: (joinWith " " (l' :: ls)).toList := by simp [joinWith]
      rw [hjoin, ends_append_cons hblank, ih]
      rfl

lemma ends_oneLine (text : String) : k.ends (Output.oneLine text).toList = k.ends text.toList := by
  rw [Output.oneLine, ends_folded, any_ends_textLines]

lemma ends_unlines (ls : List String) :
    k.ends (Output.unlines ls).toList = ls.any fun l => k.ends l.toList := by
  induction ls with
  | nil => exact ends_nil
  | cons l ls ih =>
    have hline : (Output.unlines (l :: ls)).toList = l.toList ++ '\n' :: (Output.unlines ls).toList := by
      simp [Output.unlines]
    rw [hline, ends_append_cons neutral_lineFeed, ih, List.any_cons]

/-- Words that leave the text behind them as it is. -/
def Leads (k : Container) (w : List Char) : Prop := ∀ b, k.ends (w ++ b) = k.ends b

/-- Words that keep the texts before and behind them apart. -/
def Separates (k : Container) (w : List Char) : Prop :=
  ∀ a b, k.ends (a ++ w ++ b) = (k.ends a || k.ends b)

lemma Separates.leads {w : List Char} (h : k.Separates w) : k.Leads w := by
  intro b
  have hsplit := h [] b
  rwa [List.nil_append, ends_nil, Bool.false_or] at hsplit

lemma Leads.append {v w : List Char} (hv : k.Leads v) (hw : k.Leads w) : k.Leads (v ++ w) := by
  intro b
  rw [List.append_assoc, hv, hw]

/-- Words that begin and end with neutral characters and hold no closing. -/
def isSeparator (k : Container) (w : List Char) : Bool :=
  w.head?.any k.isNeutral && w.getLast?.any k.isNeutral && !k.ends w

lemma separates_of_isSeparator {w : List Char} (h : k.isSeparator w = true) : k.Separates w := by
  intro a b
  simp only [isSeparator, Bool.and_eq_true, Bool.not_eq_true', Option.any_eq_true] at h
  obtain ⟨⟨⟨c, hfirst, hc⟩, d, hlast, hd⟩, hends⟩ := h
  obtain ⟨front, rfl⟩ := List.getLast?_eq_some_iff.1 hlast
  cases front with
  | nil => rw [List.nil_append, List.append_assoc, List.singleton_append, ends_append_cons hd]
  | cons c' mid =>
    cases hfirst
    have hmid : k.ends mid = false := by
      rwa [ends_append_neutral (by simpa using hd), ends_cons hc] at hends
    have hsplit : a ++ (c :: mid ++ [d]) ++ b = a ++ c :: (mid ++ d :: b) := by simp
    rw [hsplit, ends_append_cons hc, ends_append_cons hd, hmid, Bool.false_or]

end Container

lemma ne_of_isBlank {c d : Char} (hd : isBlank d = false) (h : isBlank c = true) : c ≠ d := by
  rintro rfl
  rw [h] at hd
  cases hd

lemma cut_append_cons_of_some {pat : List Char} {sep : Char} (hp : sep ∉ pat) {a : List Char}
    {r : List Char × List Char} (ha : cut pat a = some r) (b : List Char) :
    cut pat (a ++ sep :: b) = some (r.1, r.2 ++ sep :: b) := by
  induction a generalizing r with
  | nil =>
    rw [cut] at ha
    split at ha
    · rename_i hpat
      cases ha
      rw [List.isEmpty_iff.1 hpat]
      rfl
    · cases ha
  | cons c a ih =>
    have hstart := isPrefixOf_append_cons hp (c :: a) b
    rw [cut] at ha
    split at ha
    · rename_i hpat
      cases ha
      have hlength := (List.isPrefixOf_iff_prefix.1 hpat).length_le
      rw [List.cons_append] at hstart ⊢
      rw [cut, if_pos (hstart.trans hpat), ← List.cons_append, List.drop_append_of_le_length hlength]
    · rename_i hpat
      obtain ⟨r, hr, rfl⟩ := Option.map_eq_some_iff.1 ha
      rw [List.cons_append] at hstart ⊢
      rw [cut_cons (hstart.trans (Bool.eq_false_iff.2 hpat)), ih hr]
      rfl

/-- A comment ends at the first asterisk with a slash behind it. -/
def blockComment : Container where
  opening := "/*"
  closing := "*/"
  cut := cut ['*', '/']
  isNeutral c := c ≠ '*' && c ≠ '/'
  cut_nil := rfl
  eq_of_cut _ _ := cut_eq_some
  cut_closing := cut_self_append (by simp)
  cut_append_cons a c b h := by
    have hc : c ∉ ['*', '/'] := by simpa using h
    cases ha : cut ['*', '/'] a with
    | none => exact cut_append_cons hc a b (cut_eq_none_iff.1 ha)
    | some r => exact cut_append_cons_of_some hc ha b
  neutral_of_isBlank c h := by
    have hstar : c ≠ '*' := ne_of_isBlank (by decide) h
    have hslash : c ≠ '/' := ne_of_isBlank (by decide) h
    simp [hstar, hslash]

/-- Cut a text at the first three quotes; a backslash takes the next character out of the search. -/
def cutQuotes (escaped : Bool) : List Char → Option (List Char × List Char)
  | [] => none
  | c :: s =>
    if !escaped && ['"', '"', '"'].isPrefixOf (c :: s) then some ([], (c :: s).drop 3)
    else (cutQuotes (!escaped && c == '\\') s).map fun r => (c :: r.1, r.2)

lemma cutQuotes_eq_some {escaped : Bool} {s : List Char} {r : List Char × List Char}
    (h : cutQuotes escaped s = some r) : s = r.1 ++ ['"', '"', '"'] ++ r.2 := by
  induction s generalizing escaped r with
  | nil => cases h
  | cons c s ih =>
    rw [cutQuotes] at h
    split at h
    · rename_i hp
      cases h
      rw [Bool.and_eq_true] at hp
      obtain ⟨t, ht⟩ := List.isPrefixOf_iff_prefix.1 hp.2
      simp [← ht]
    · obtain ⟨r, hr, rfl⟩ := Option.map_eq_some_iff.1 h
      simp [← ih hr]

lemma cutQuotes_append_cons {c : Char} (hquote : c ≠ '"') (hescape : c ≠ '\\') (escaped : Bool)
    (a b : List Char) : cutQuotes escaped (a ++ c :: b) =
      ((cutQuotes escaped a).map fun r => (r.1, r.2 ++ c :: b)).or
        ((cutQuotes false b).map fun r => (a ++ c :: r.1, r.2)) := by
  have hc : c ∉ ['"', '"', '"'] := by simpa using hquote
  induction a generalizing escaped with
  | nil =>
    have hstart : ['"', '"', '"'].isPrefixOf (c :: b) = false := isPrefixOf_append_cons hc [] b
    have hplain : (c == '\\') = false := beq_false_of_ne hescape
    have hnext : cutQuotes escaped (c :: b) = (cutQuotes false b).map fun r => (c :: r.1, r.2) := by
      rw [cutQuotes, hstart, hplain, Bool.and_false, if_neg Bool.false_ne_true]
    exact hnext
  | cons x a ih =>
    have hstart := isPrefixOf_append_cons hc (x :: a) b
    rw [List.cons_append] at hstart ⊢
    rw [cutQuotes, cutQuotes, hstart]
    split
    · rename_i hp
      rw [Bool.and_eq_true] at hp
      have hlength := (List.isPrefixOf_iff_prefix.1 hp.2).length_le
      change 3 ≤ _ at hlength
      rw [← List.cons_append, List.drop_append_of_le_length hlength]
      rfl
    · rw [ih, Option.map_or, Option.map_map, Option.map_map, Option.map_map]
      rfl

/-- A documentation string ends at the first three quotes that no backslash precedes. -/
def docstring : Container where
  opening := "\"\"\""
  closing := "\"\"\""
  cut := cutQuotes false
  isNeutral c := c ≠ '"' && c ≠ '\\'
  cut_nil := rfl
  eq_of_cut _ _ := cutQuotes_eq_some
  cut_closing _ := rfl
  cut_append_cons a c b h := by
    have hc : c ≠ '"' ∧ c ≠ '\\' := by simpa using h
    exact cutQuotes_append_cons hc.1 hc.2 false a b
  neutral_of_isBlank c h := by
    have hquote : c ≠ '"' := ne_of_isBlank (by decide) h
    have hescape : c ≠ '\\' := ne_of_isBlank (by decide) h
    simp [hquote, hescape]

end BindingDocs.Text
