import BindingDocs.Output.Prose
import BindingDocs.Proofs.TextSearch
import Mathlib.Data.List.Forall2

/-! Words of documentation texts on reference pages. The lines of a page hold the words of the text in
order. A literal of the reference language is respelled before a blank, also where it is only the end
of a longer word. -/
namespace BindingDocs.Text

/-- The characters of words: the letters and digits of the basic alphabet, any others, but no blank. -/
structure LetterClass where
  holds : Char → Bool
  alphanumeric : ∀ c, c.isAlphanum = true → holds c = true
  not_blank : ∀ c, isBlank c = true → holds c = false

/-- A word of a text and the character behind it. -/
@[ext] structure PlacedWord where
  word : List Char
  next : Option Char
  deriving DecidableEq

/-- A run of letters as a word, unless it is empty. -/
def PlacedWord.ofRun (run : List Char) (next : Option Char) : List PlacedWord :=
  if run.isEmpty then [] else [⟨run, next⟩]

namespace LetterClass
variable (k : LetterClass)

/-- The words that follow the part `seen` (in reverse) of an unfinished one. -/
def wordsFrom (seen : List Char) : List Char → List PlacedWord
  | [] => PlacedWord.ofRun seen.reverse none
  | c :: s =>
    if k.holds c then wordsFrom (c :: seen) s
    else PlacedWord.ofRun seen.reverse (some c) ++ wordsFrom [] s

/-- The words of a text, which are its longest runs of letters, with what stands behind them. -/
def placedWords (s : List Char) : List PlacedWord := k.wordsFrom [] s

def words (s : List Char) : List (List Char) := (k.placedWords s).map (·.word)

def IsRun (s : List Char) : Prop := ∀ c ∈ s, k.holds c = true

variable {k}

lemma wordsFrom_run {r : List Char} (hr : k.IsRun r) (seen : List Char) :
    k.wordsFrom seen r = PlacedWord.ofRun (seen.reverse ++ r) none := by
  induction r generalizing seen with
  | nil => rw [wordsFrom, List.append_nil]
  | cons c r ih =>
    obtain ⟨hc, hr⟩ := List.forall_mem_cons.1 hr
    rw [wordsFrom, if_pos hc, ih hr, List.reverse_cons, List.append_assoc, List.singleton_append]

lemma wordsFrom_run_cons {r : List Char} (hr : k.IsRun r) {c : Char} (hc : k.holds c = false)
    (seen rest : List Char) : k.wordsFrom seen (r ++ c :: rest) =
      PlacedWord.ofRun (seen.reverse ++ r) (some c) ++ k.placedWords rest := by
  induction r generalizing seen with
  | nil => rw [List.nil_append, wordsFrom, if_neg (by simp [hc]), List.append_nil, placedWords]
  | cons d r ih =>
    obtain ⟨hd, hr⟩ := List.forall_mem_cons.1 hr
    rw [List.cons_append, wordsFrom, if_pos hd, ih hr, List.reverse_cons, List.append_assoc,
      List.singleton_append]

lemma placedWords_run {r : List Char} (hr : k.IsRun r) : k.placedWords r = PlacedWord.ofRun r none :=
  wordsFrom_run hr []

lemma placedWords_run_cons {r : List Char} (hr : k.IsRun r) {c : Char} (hc : k.holds c = false)
    (rest : List Char) :
    k.placedWords (r ++ c :: rest) = PlacedWord.ofRun r (some c) ++ k.placedWords rest :=
  wordsFrom_run_cons hr hc [] rest

/-- A text is a run of letters, or a run followed by another character and a text. -/
lemma run_induction {P : List Char → Prop} (last : ∀ r, k.IsRun r → P r)
    (more : ∀ r c rest, k.IsRun r → k.holds c = false → P rest → P (r ++ c :: rest)) (s : List Char) :
    P s := by
  suffices hseen : ∀ seen, k.IsRun seen → P (seen ++ s) from hseen [] (by simp [IsRun])
  induction s with
  | nil =>
    intro seen hseen
    rw [List.append_nil]
    exact last seen hseen
  | cons c s ih =>
    intro seen hseen
    by_cases hc : k.holds c = true
    · have hlonger : k.IsRun (seen ++ [c]) := by
        intro d hd
        rcases List.mem_append.1 hd with hd | hd
        · exact hseen d hd
        · rw [List.mem_singleton.1 hd]
          exact hc
      simpa using ih (seen ++ [c]) hlonger
    · exact more seen c s hseen (Bool.not_eq_true _ ▸ hc) (ih [] (by simp [IsRun]))

lemma words_run {r : List Char} (hr : k.IsRun r) : k.words r = if r.isEmpty then [] else [r] := by
  rw [words, placedWords_run hr]
  cases r <;> rfl

lemma words_run_cons {r : List Char} (hr : k.IsRun r) {c : Char} (hc : k.holds c = false)
    (rest : List Char) : k.words (r ++ c :: rest) = k.words r ++ k.words rest := by
  rw [words_run hr, words, placedWords_run_cons hr hc]
  cases r <;> rfl

/-- The words before and after a character that is no letter. -/
lemma words_append_cons {c : Char} (hc : k.holds c = false) (a b : List Char) :
    k.words (a ++ c :: b) = k.words a ++ k.words b := by
  induction a using k.run_induction with
  | last r hr => exact words_run_cons hr hc b
  | more r d rest hr hd ih =>
    rw [List.append_assoc, List.cons_append, words_run_cons hr hd, ih, words_run_cons hr hd,
      List.append_assoc]

lemma words_append_blanks {tail : List Char} (h : ∀ c ∈ tail, isBlank c = true) (s : List Char) :
    k.words (s ++ tail) = k.words s := by
  induction tail generalizing s with
  | nil => rw [List.append_nil]
  | cons c tail ih =>
    obtain ⟨hc, htail⟩ := List.forall_mem_cons.1 h
    have hnone := ih htail []
    rw [words_append_cons (k.not_blank c hc), ← List.nil_append tail, hnone]
    exact List.append_nil _

lemma words_blanks_append {lead : List Char} (h : ∀ c ∈ lead, isBlank c = true) (s : List Char) :
    k.words (lead ++ s) = k.words s := by
  induction lead with
  | nil => rfl
  | cons c lead ih =>
    obtain ⟨hc, hlead⟩ := List.forall_mem_cons.1 h
    rw [← ih hlead]
    exact words_append_cons (k.not_blank c hc) [] (lead ++ s)

lemma words_trim (s : List Char) : k.words (trim s) = k.words s := by
  obtain ⟨lead, tail, hlead, htail, hs⟩ := exists_blanks_trim s
  conv_rhs => rw [hs, words_append_blanks htail, words_blanks_append hlead]

lemma words_dropReturn (line : List Char) : k.words (dropReturn line) = k.words line := by
  rw [dropReturn]
  split
  · rename_i h
    obtain ⟨front, rfl⟩ := List.getLast?_eq_some_iff.1 h
    rw [List.dropLast_concat, words_append_blanks (by simp [isBlank])]
  · rfl

lemma flatMap_words_linesFrom (seen s : List Char) :
    (linesFrom seen s).flatMap k.words = k.words (seen.reverse ++ s) := by
  induction s generalizing seen with
  | nil =>
    rw [linesFrom, List.append_nil]
    split
    · rename_i h
      rw [List.isEmpty_iff.1 h]
      rfl
    · rw [List.flatMap_singleton]
  | cons c s ih =>
    rw [linesFrom]
    split
    · rename_i h
      have hfeed : k.holds c = false := k.not_blank c (h ▸ rfl)
      rw [List.flatMap_cons, ih, words_dropReturn, words_append_cons hfeed]
      rfl
    · rw [ih, List.reverse_cons, List.append_assoc, List.singleton_append]

/-- The lines of a text hold its words. -/
lemma flatMap_words_textLines (text : String) :
    ((Output.textLines text).flatMap fun l => k.words l.toList) = k.words text.toList := by
  have hnonempty : ∀ ls : List (List Char),
      ((ls.filterMap fun l => if l.isEmpty then none else some (String.ofList l)).flatMap
        fun l => k.words l.toList) = ls.flatMap k.words := by
    intro ls
    induction ls with
    | nil => rfl
    | cons l ls ih =>
      cases l with
      | nil =>
        rw [List.filterMap_cons_none rfl, ih]
        rfl
      | cons c l =>
        rw [List.filterMap_cons]
        simp only [List.isEmpty_cons, Bool.false_eq_true, if_false, List.flatMap_cons,
          String.toList_ofList, ih]
  have htrim : (fun l => k.words (trim l)) = k.words := funext words_trim
  rw [Output.textLines, hnonempty, List.flatMap_map, htrim, lines, flatMap_words_linesFrom]
  rfl

end LetterClass

/-- A word and its spelling on a page. -/
structure Literal where
  word : String
  spelling : String
  deriving DecidableEq

/-- A word before a blank, with another spelling of the literal that it ends in. -/
def PlacedWord.respell (x : PlacedWord) (l : Literal) : PlacedWord :=
  if x.next = some ' ' then
    match dropEnd? l.word.toList x.word with
    | some front => { x with word := front ++ l.spelling.toList }
    | none => x
  else x

/-- A literal of letters. -/
structure Literal.Fits (l : Literal) (k : LetterClass) : Prop where
  nonempty : l.word ≠ ""
  spelled : l.spelling ≠ ""
  word : k.IsRun l.word.toList
  spelling : k.IsRun l.spelling.toList

/-- Replace a literal before a blank. -/
def Literal.replace (l : Literal) (s : List Char) : List Char :=
  replaceAll (l.word.toList ++ [' ']) (l.spelling.toList ++ [' ']) s

section Replacement
variable {k : LetterClass}

lemma replaceFrom_skip (pat new a b : List Char) :
    replaceFrom pat new a.length (a ++ b) = replaceFrom pat new 0 b := by
  induction a with
  | nil => rfl
  | cons c a ih => rw [List.length_cons, List.cons_append, replaceFrom, ih]

lemma replaceFrom_cons_of_not_prefix {pat s : List Char} (new : List Char) {c : Char}
    (h : ¬ pat <+: c :: s) : replaceFrom pat new 0 (c :: s) = c :: replaceFrom pat new 0 s := by
  rw [replaceFrom, if_neg (mt List.isPrefixOf_iff_prefix.1 h)]

lemma LetterClass.not_holds_blank (k : LetterClass) : k.holds ' ' = false := k.not_blank ' ' rfl

/-- A run of letters before a blank reaches up to the first character that is no letter. -/
lemma run_prefix_iff {w r : List Char} (hw : k.IsRun w) (hr : k.IsRun r) {c : Char}
    (hc : k.holds c = false) (rest : List Char) :
    w ++ [' '] <+: r ++ c :: rest ↔ r = w ∧ c = ' ' := by
  induction w generalizing r with
  | nil =>
    cases r with
    | nil => simp [eq_comm]
    | cons d r =>
      obtain ⟨hd, -⟩ := List.forall_mem_cons.1 hr
      have hne : ' ' ≠ d := fun heq => Bool.false_ne_true (k.not_holds_blank.symm.trans (heq ▸ hd))
      simp [hne]
  | cons a w ih =>
    obtain ⟨ha, hw⟩ := List.forall_mem_cons.1 hw
    cases r with
    | nil =>
      have hne : a ≠ c := fun heq => Bool.false_ne_true (hc.symm.trans (heq ▸ ha))
      simp [hne]
    | cons d r =>
      obtain ⟨-, hr⟩ := List.forall_mem_cons.1 hr
      rw [List.cons_append, List.cons_append, List.cons_prefix_cons, ih hw hr, List.cons.injEq]
      tauto

lemma dropEnd?_cons {tail s : List Char} {c : Char} (h : c :: s ≠ tail) :
    dropEnd? tail (c :: s) = (dropEnd? tail s).map (c :: ·) := by
  refine Option.ext fun r => ?_
  rw [dropEnd?_eq_some_iff, Option.map_eq_some_iff]
  constructor
  · intro hs
    cases r with
    | nil => exact absurd hs h
    | cons d r =>
      obtain ⟨rfl, hrest⟩ := List.cons.inj hs
      exact ⟨r, dropEnd?_eq_some_iff.2 hrest, rfl⟩
  · rintro ⟨r, hr, rfl⟩
    rw [dropEnd?_eq_some_iff.1 hr, List.cons_append]

namespace PlacedWord
variable {x : PlacedWord} {l : Literal}

lemma respell_of_dropEnd? {front : List Char} (hnext : x.next = some ' ')
    (h : dropEnd? l.word.toList x.word = some front) :
    x.respell l = ⟨front ++ l.spelling.toList, some ' '⟩ := by
  rw [respell, if_pos hnext, h, ← hnext]

lemma respell_of_next (h : x.next ≠ some ' ') : x.respell l = x := if_neg h

lemma respell_of_no_literal (h : dropEnd? l.word.toList x.word = none) : x.respell l = x := by
  rw [respell, h]
  exact ite_self x

@[simp] lemma next_respell (x : PlacedWord) (l : Literal) : (x.respell l).next = x.next := by
  unfold respell
  split
  · split <;> rfl
  · rfl

/-- A letter in front of a word that is longer than the literal. -/
lemma word_respell_cons {c : Char} {w : List Char} {next : Option Char}
    (h : ¬ (c :: w = l.word.toList ∧ next = some ' ')) :
    (respell ⟨c :: w, next⟩ l).word = c :: (respell ⟨w, next⟩ l).word := by
  by_cases hnext : next = some ' '
  · have hend := dropEnd?_cons (fun heq => h ⟨heq, hnext⟩)
    cases hw : dropEnd? l.word.toList w with
    | none =>
      rw [hw] at hend
      rw [respell_of_no_literal hend, respell_of_no_literal hw]
    | some front =>
      rw [hw] at hend
      rw [respell_of_dropEnd? hnext hend, respell_of_dropEnd? hnext hw]
      rfl
  · rw [respell_of_next hnext, respell_of_next hnext]

end PlacedWord

namespace Literal
variable {l : Literal}

lemma replace_run (l : Literal) {r : List Char} (hr : k.IsRun r) : l.replace r = r := by
  induction r with
  | nil => rfl
  | cons c r ih =>
    have hstarts : ¬ l.word.toList ++ [' '] <+: c :: r := by
      intro h
      have hblank := hr ' ' (h.mem (by simp))
      exact Bool.false_ne_true (k.not_holds_blank.symm.trans hblank)
    rw [replace, replaceAll, replaceFrom_cons_of_not_prefix _ hstarts]
    exact congrArg (c :: ·) (ih (List.forall_mem_cons.1 hr).2)

namespace Fits
variable (hl : l.Fits k)
include hl

lemma word_ne_nil : l.word.toList ≠ [] := by simpa using hl.nonempty

lemma respell_nil (next : Option Char) : PlacedWord.respell ⟨[], next⟩ l = ⟨[], next⟩ := by
  refine PlacedWord.respell_of_no_literal (Option.eq_none_iff_forall_ne_some.2 fun front hfront => ?_)
  exact hl.word_ne_nil (List.append_eq_nil_iff.1 (dropEnd?_eq_some_iff.1 hfront).symm).2

/-- Only the word before the first character that is no letter can change there. -/
lemma replace_run_cons {r : List Char} (hr : k.IsRun r) {c : Char} (hc : k.holds c = false)
    (rest : List Char) : l.replace (r ++ c :: rest) =
      (PlacedWord.respell ⟨r, some c⟩ l).word ++ c :: l.replace rest := by
  induction r with
  | nil =>
    have hstarts : ¬ l.word.toList ++ [' '] <+: c :: rest := by
      intro h
      have hnil := ((run_prefix_iff hl.word (r := []) (by simp [LetterClass.IsRun]) hc rest).1 h).1
      exact hl.word_ne_nil hnil.symm
    rw [List.nil_append, replace, replaceAll, replaceFrom_cons_of_not_prefix _ hstarts, hl.respell_nil]
    rfl
  | cons d r ih =>
    have hstarts := run_prefix_iff hl.word hr hc rest
    rw [List.cons_append] at hstarts
    by_cases hmatch : d :: r = l.word.toList ∧ c = ' '
    · have hlength : (l.word.toList ++ [' ']).length - 1 = (r ++ [c]).length := by
        simp [← hmatch.1]
      have hwhole : dropEnd? l.word.toList (d :: r) = some [] := dropEnd?_eq_some_iff.2 hmatch.1
      rw [replace, replaceAll, List.cons_append, replaceFrom,
        if_pos (List.isPrefixOf_iff_prefix.2 (hstarts.2 hmatch)), hlength, List.append_cons r c rest,
        replaceFrom_skip, PlacedWord.respell_of_dropEnd? (congrArg some hmatch.2) hwhole, hmatch.2]
      simp [replace, replaceAll]
    · have hmatch' : ¬ (d :: r = l.word.toList ∧ some c = some ' ') := by simpa using hmatch
      rw [replace, replaceAll, List.cons_append, replaceFrom_cons_of_not_prefix _ (mt hstarts.1 hmatch),
        PlacedWord.word_respell_cons hmatch']
      exact congrArg (d :: ·) (ih (List.forall_mem_cons.1 hr).2)

lemma isRun_respell {x : PlacedWord} (hx : k.IsRun x.word) : k.IsRun (x.respell l).word := by
  unfold PlacedWord.respell
  split
  · split
    · rename_i front hfront
      rw [dropEnd?_eq_some_iff.1 hfront] at hx
      intro c hc
      rcases List.mem_append.1 hc with hc | hc
      · exact hx c (List.mem_append_left _ hc)
      · exact hl.spelling c hc
    · exact hx
  · exact hx

lemma respell_ne_nil {x : PlacedWord} (hx : x.word ≠ []) : (x.respell l).word ≠ [] := by
  unfold PlacedWord.respell
  split
  · split
    · have hspelled : l.spelling.toList ≠ [] := by simpa using hl.spelled
      exact List.append_ne_nil_of_right_ne_nil _ hspelled
    · exact hx
  · exact hx

lemma ofRun_respell (r : List Char) (next : Option Char) :
    PlacedWord.ofRun (PlacedWord.respell ⟨r, next⟩ l).word next =
      (PlacedWord.ofRun r next).map (·.respell l) := by
  cases r with
  | nil =>
    rw [hl.respell_nil]
    rfl
  | cons c r =>
    have hne := hl.respell_ne_nil (x := ⟨c :: r, next⟩) (by simp)
    rw [PlacedWord.ofRun, if_neg (by simpa using hne)]
    exact congrArg (fun x => [x]) (PlacedWord.ext rfl (PlacedWord.next_respell ⟨c :: r, next⟩ l).symm)

/-- The words of a text in which a literal is replaced. -/
theorem placedWords_replace (s : List Char) :
    k.placedWords (l.replace s) = (k.placedWords s).map (·.respell l) := by
  induction s using k.run_induction with
  | last r hr =>
    rw [l.replace_run hr, LetterClass.placedWords_run hr, ← hl.ofRun_respell,
      PlacedWord.respell_of_next (by simp)]
  | more r c rest hr hc ih =>
    rw [hl.replace_run_cons hr hc, LetterClass.placedWords_run_cons (hl.isRun_respell hr) hc, ih,
      LetterClass.placedWords_run_cons hr hc, List.map_append, hl.ofRun_respell]

end Fits
end Literal
end Replacement

end BindingDocs.Text

namespace BindingDocs.Output
open BindingDocs.Text

/-- The literals that pages spell in another way. -/
def literals : List Literal := [⟨"null", "None"⟩, ⟨"true", "True"⟩, ⟨"false", "False"⟩]

/-- A word as a page shows it. Before a blank the literal that it ends in is respelled. -/
def shownWord (x : PlacedWord) : List Char :=
  if x.next = some ' ' then
    (literals.findSome? fun l => (dropEnd? l.word.toList x.word).map (· ++ l.spelling.toList)).getD x.word
  else x.word

/-- A word that is kept, or a literal that is respelled as a whole. -/
def Kept (word shown : List Char) : Prop :=
  shown = word ∨ ∃ l ∈ literals, word = l.word.toList ∧ shown = l.spelling.toList

lemma pageLines_eq (text : String) :
    pageLines text = textLines (String.ofList (literals.foldl (fun s l => l.replace s) text.toList)) := by
  rfl

lemma fits_literal (k : LetterClass) {l : Literal} (hl : l ∈ literals) : l.Fits k := by
  have hletters : ∀ l ∈ literals, l.word ≠ "" ∧ l.spelling ≠ "" ∧
      (l.word.toList.all Char.isAlphanum && l.spelling.toList.all Char.isAlphanum) = true := by decide
  obtain ⟨hword, hspelling, hall⟩ := hletters l hl
  rw [Bool.and_eq_true, List.all_eq_true, List.all_eq_true] at hall
  exact ⟨hword, hspelling, fun c hc => k.alphanumeric c (hall.1 c hc),
    fun c hc => k.alphanumeric c (hall.2 c hc)⟩

/-- No literal ends in another, and none of their spellings. -/
lemma literals_apart : ∀ l ∈ literals, ∀ m ∈ literals,
    (l ≠ m → ¬ l.word.toList <:+ m.word.toList) ∧
      ¬ l.word.toList <:+ m.spelling.toList ∧ ¬ m.spelling.toList <:+ l.word.toList := by
  decide

/-- A word that ends in the spelling of a literal does not end in a literal. -/
lemma dropEnd?_spelling {l m : Literal} (hl : l ∈ literals) (hm : m ∈ literals) (front : List Char) :
    dropEnd? l.word.toList (front ++ m.spelling.toList) = none := by
  refine Option.eq_none_iff_forall_ne_some.2 fun r hr => ?_
  obtain ⟨-, hspelling, hword⟩ := literals_apart l hl m hm
  have hend : l.word.toList <:+ front ++ m.spelling.toList := ⟨r, (dropEnd?_eq_some_iff.1 hr).symm⟩
  rcases List.suffix_or_suffix_of_suffix hend (List.suffix_append front m.spelling.toList) with h | h
  · exact hspelling h
  · exact hword h

lemma foldl_respell_eq_self {ls : List Literal} {x : PlacedWord} (h : ∀ l ∈ ls, x.respell l = x) :
    ls.foldl PlacedWord.respell x = x := by
  induction ls with
  | nil => rfl
  | cons l ls ih =>
    obtain ⟨hl, hls⟩ := List.forall_mem_cons.1 h
    rw [List.foldl_cons, hl, ih hls]

lemma word_foldl_respell_before_blank {ls : List Literal} (hls : ls ⊆ literals) {x : PlacedWord}
    (hnext : x.next = some ' ') : (ls.foldl PlacedWord.respell x).word =
      (ls.findSome? fun l => (dropEnd? l.word.toList x.word).map (· ++ l.spelling.toList)).getD x.word := by
  induction ls with
  | nil => rfl
  | cons l ls ih =>
    obtain ⟨hl, hls⟩ := List.cons_subset.1 hls
    rw [List.foldl_cons, List.findSome?_cons]
    cases hend : dropEnd? l.word.toList x.word with
    | none =>
      rw [PlacedWord.respell_of_no_literal hend]
      exact ih hls
    | some front =>
      have hrest : ∀ m ∈ ls, PlacedWord.respell ⟨front ++ l.spelling.toList, some ' '⟩ m =
          ⟨front ++ l.spelling.toList, some ' '⟩ := fun m hm =>
        PlacedWord.respell_of_no_literal (dropEnd?_spelling (hls hm) hl front)
      rw [PlacedWord.respell_of_dropEnd? hnext hend, foldl_respell_eq_self hrest]
      rfl

/-- One replacement after the other respells at most one literal of a word. -/
lemma word_foldl_respell (x : PlacedWord) : (literals.foldl PlacedWord.respell x).word = shownWord x := by
  rw [shownWord]
  split
  · rename_i hnext
    exact word_foldl_respell_before_blank (List.Subset.refl _) hnext
  · rename_i hnext
    rw [foldl_respell_eq_self fun l _ => PlacedWord.respell_of_next hnext]

lemma placedWords_foldl_replace (k : LetterClass) {ls : List Literal} (hls : ls ⊆ literals) (s : List Char) :
    k.placedWords (ls.foldl (fun s l => l.replace s) s) =
      (k.placedWords s).map fun x => ls.foldl PlacedWord.respell x := by
  induction ls generalizing s with
  | nil => simp
  | cons l ls ih =>
    obtain ⟨hl, hls⟩ := List.cons_subset.1 hls
    rw [List.foldl_cons, ih hls, (fits_literal k hl).placedWords_replace, List.map_map]
    rfl

/-- The words on a page are those of the text, as the page shows them. -/
lemma words_pageLines (k : LetterClass) (text : String) :
    ((pageLines text).flatMap fun l => k.words l.toList) = (k.placedWords text.toList).map shownWord := by
  rw [pageLines_eq, k.flatMap_words_textLines, String.toList_ofList, LetterClass.words,
    placedWords_foldl_replace k (List.Subset.refl _), List.map_map]
  exact List.map_congr_left fun x _ => word_foldl_respell x

/-- A word ends in at most one literal. -/
lemma literal_unique {l m : Literal} (hl : l ∈ literals) (hm : m ∈ literals) {w : List Char}
    (hlw : l.word.toList <:+ w) (hmw : m.word.toList <:+ w) : l = m := by
  by_contra hne
  rcases List.suffix_or_suffix_of_suffix hlw hmw with h | h
  · exact (literals_apart l hl m hm).1 hne h
  · exact (literals_apart m hm l hl).1 (Ne.symm hne) h

section Shown
variable {x : PlacedWord}

lemma shownWord_of_literal {l : Literal} (hl : l ∈ literals) (hnext : x.next = some ' ')
    {front : List Char} (h : x.word = front ++ l.word.toList) :
    shownWord x = front ++ l.spelling.toList := by
  rw [shownWord, if_pos hnext]
  have hend := dropEnd?_eq_some_iff.2 h
  have hsome : (literals.findSome? fun l =>
      (dropEnd? l.word.toList x.word).map (· ++ l.spelling.toList)).isSome = true :=
    List.findSome?_isSome_iff.2 ⟨l, hl, by rw [hend]; rfl⟩
  obtain ⟨shown, hshown⟩ := Option.isSome_iff_exists.1 hsome
  obtain ⟨m, hm, hfound⟩ := List.exists_of_findSome?_eq_some hshown
  obtain ⟨front', hfront', rfl⟩ := Option.map_eq_some_iff.1 hfound
  obtain rfl := literal_unique hl hm ⟨front, h.symm⟩ ⟨front', (dropEnd?_eq_some_iff.1 hfront').symm⟩
  obtain rfl := Option.some.inj (hend.symm.trans hfront')
  rw [hshown, Option.getD_some]

lemma shownWord_of_no_literal (h : ∀ l ∈ literals, ¬ l.word.toList <:+ x.word) : shownWord x = x.word := by
  have hnone : (literals.findSome? fun l =>
      (dropEnd? l.word.toList x.word).map (· ++ l.spelling.toList)) = none := by
    refine List.findSome?_eq_none_iff.2 fun l hl => Option.map_eq_none_iff.2 ?_
    refine Option.eq_none_iff_forall_ne_some.2 fun front hfront => h l hl ?_
    exact ⟨front, (dropEnd?_eq_some_iff.1 hfront).symm⟩
  rw [shownWord, hnone]
  exact ite_self x.word

/-- A word is kept unless it is longer than the literal that it ends in. -/
lemma kept_shownWord_iff (x : PlacedWord) : Kept x.word (shownWord x) ↔
    (x.next = some ' ' → ∀ l ∈ literals, l.word.toList <:+ x.word → x.word = l.word.toList) := by
  by_cases hnext : x.next = some ' '
  · by_cases hend : ∃ l ∈ literals, l.word.toList <:+ x.word
    · obtain ⟨l, hl, front, hfront⟩ := hend
      rw [shownWord_of_literal hl hnext hfront.symm]
      constructor
      · rintro (hsame | ⟨m, hm, hword, -⟩) - l' hl' hend'
        · rw [← hfront] at hsame
          have hspelling := List.append_cancel_left hsame
          exact absurd (hspelling ▸ List.suffix_refl _) (literals_apart l hl l hl).2.1
        · rw [hword] at hend' ⊢
          rw [literal_unique hl' hm hend' (List.suffix_refl _)]
      · intro h
        have hword := h hnext l hl ⟨front, hfront⟩
        obtain rfl : front = [] := by simpa [← hfront] using hword
        exact .inr ⟨l, hl, hfront.symm, rfl⟩
    · rw [shownWord_of_no_literal fun l hl h => hend ⟨l, hl, h⟩]
      exact iff_of_true (.inl rfl) fun _ l hl h => absurd ⟨l, hl, h⟩ hend
  · rw [shownWord, if_neg hnext]
    exact iff_of_true (.inl rfl) fun h => absurd h hnext

end Shown

/-- No line of a page is blank or has blanks at its ends. -/
lemma ends_pageLines {text line : String} (h : line ∈ pageLines text) :
    line ≠ "" ∧ ∀ c, c ∈ line.toList.head? ∨ c ∈ line.toList.getLast? → isBlank c = false := by
  obtain ⟨l, hl, hline⟩ := List.mem_filterMap.1 h
  obtain ⟨full, -, rfl⟩ := List.mem_map.1 hl
  split at hline
  · cases hline
  · rename_i hne
    cases hline
    refine ⟨by simpa using hne, fun c hc => ?_⟩
    rw [String.toList_ofList] at hc
    exact hc.elim not_isBlank_of_head?_trim not_isBlank_of_getLast?_trim

/-- A page shows the words of a text in order. They are all kept, but for whole literals, exactly if no
longer word ends in a literal right before a blank. -/
theorem page_keeps_words_iff (k : LetterClass) (text : String) :
    ((pageLines text).flatMap fun l => k.words l.toList) = (k.placedWords text.toList).map shownWord ∧
      (List.Forall₂ Kept (k.words text.toList) ((pageLines text).flatMap fun l => k.words l.toList) ↔
        ∀ x ∈ k.placedWords text.toList, x.next = some ' ' →
          ∀ l ∈ literals, l.word.toList <:+ x.word → x.word = l.word.toList) ∧
      ∀ line ∈ pageLines text, line ≠ "" ∧
        ∀ c, c ∈ line.toList.head? ∨ c ∈ line.toList.getLast? → isBlank c = false := by
  refine ⟨words_pageLines k text, ?_, fun line => ends_pageLines⟩
  rw [words_pageLines, LetterClass.words, List.forall₂_map_left_iff, List.forall₂_map_right_iff,
    List.forall₂_same]
  exact forall₂_congr fun x _ => kept_shownWord_iff x

/-- The letters and digits of the basic alphabet. -/
def basicLetters : LetterClass where
  holds := Char.isAlphanum
  alphanumeric _ := id
  not_blank _ hblank := Bool.eq_false_iff.2 fun hletter => by
    rw [not_isBlank_of_isAlphanum hletter] at hblank
    cases hblank

/-- The end of a word is taken for a literal. -/
theorem end_of_word_is_respelled :
    ¬ ∀ text, List.Forall₂ Kept (basicLetters.words text.toList)
      ((pageLines text).flatMap fun l => basicLetters.words l.toList) := by
  intro h
  have hkept := h "A nonnull value."
  rw [words_pageLines, LetterClass.words, List.forall₂_map_left_iff, List.forall₂_map_right_iff,
    List.forall₂_same] at hkept
  have hword : ⟨"nonnull".toList, some ' '⟩ ∈ basicLetters.placedWords "A nonnull value.".toList := by
    decide +kernel
  have hnull := (kept_shownWord_iff _).1 (hkept _ hword) rfl ⟨"null", "None"⟩ (by decide) (by decide)
  simp at hnull

end BindingDocs.Output
