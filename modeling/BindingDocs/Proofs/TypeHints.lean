import BindingDocs.Proofs.HintRules

/-! Hints for types with any number of arguments. The text between the angle brackets is spelled as one
type, so a list of several arguments is shown as it stands, without what a rule takes off its ends. -/
namespace BindingDocs
open BindingDocs.Text BindingDocs.Vocabulary

/-- The name of a type. -/
structure TypeName extends DottedName where
  named : last.text ≠ ""
  noComma : ',' ∉ toDottedName.chars

/-- The blanks behind a comma. -/
structure Blanks where
  text : String
  blank : ∀ c ∈ text.toList, isBlank c = true

inductive Role where
  | type
  | arguments

/-- A type, or the arguments of a type. -/
inductive TypeTerm : Role → Type where
  | name (n : TypeName) : TypeTerm .type
  | array (item : TypeTerm .type) : TypeTerm .type
  | generic (n : TypeName) (arguments : TypeTerm .arguments) : TypeTerm .type
  | last (t : TypeTerm .type) : TypeTerm .arguments
  | more (t : TypeTerm .type) (gap : Blanks) (rest : TypeTerm .arguments) : TypeTerm .arguments

namespace TypeTerm
variable {r : Role}

def chars {r : Role} : TypeTerm r → List Char
  | name n => n.chars
  | array item => item.chars ++ ['[', ']']
  | generic n arguments => n.chars ++ '<' :: (arguments.chars ++ ['>'])
  | last t => t.chars
  | more t gap rest => t.chars ++ ',' :: (gap.text.toList ++ rest.chars)

/-- The names that are no heads of generic types. -/
def leaves {r : Role} : TypeTerm r → List TypeName
  | name n => [n]
  | array item => item.leaves
  | generic _ arguments => arguments.leaves
  | last t => t.leaves
  | more t _ rest => t.leaves ++ rest.leaves

def first {r : Role} : TypeTerm r → TypeName
  | name n => n
  | array item => item.first
  | generic _ arguments => arguments.first
  | last t => t.first
  | more t _ _ => t.first

/-- The same type with another name in the place of its first leaf. -/
def withFirst {r : Role} (m : TypeName) : TypeTerm r → TypeTerm r
  | name _ => name m
  | array item => array (item.withFirst m)
  | generic n arguments => generic n (arguments.withFirst m)
  | last t => last (t.withFirst m)
  | more t gap rest => more (t.withFirst m) gap rest

def NoGeneric {r : Role} : TypeTerm r → Prop
  | name _ => True
  | array item => item.NoGeneric
  | generic _ _ => False
  | last t => t.NoGeneric
  | more t _ rest => t.NoGeneric ∧ rest.NoGeneric

/-- Where several arguments stand side by side, none is generic and all but the first are unqualified. -/
def Flat {r : Role} : TypeTerm r → Prop
  | name _ => True
  | array item => item.Flat
  | generic _ arguments => arguments.Flat
  | last t => t.Flat
  | more t _ rest => t.NoGeneric ∧ rest.NoGeneric ∧ ∀ n ∈ rest.leaves, n.path = []

lemma withFirst_first (t : TypeTerm r) : t.withFirst t.first = t := by
  induction t with
  | name n => rfl
  | array item ih => exact congrArg array ih
  | generic n arguments ih => exact congrArg (generic n) ih
  | last t ih => exact congrArg last ih
  | more t gap rest ih _ => exact congrArg (more · gap rest) ih

lemma mem_leaves_withFirst (m : TypeName) (t : TypeTerm r) : m ∈ (t.withFirst m).leaves := by
  induction t with
  | name n => exact List.mem_singleton_self m
  | array item ih => exact ih
  | generic n arguments ih => exact ih
  | last t ih => exact ih
  | more t gap rest ih _ => exact List.mem_append_left _ ih

lemma noGeneric_withFirst {m : TypeName} {t : TypeTerm r} : (t.withFirst m).NoGeneric ↔ t.NoGeneric := by
  induction t with
  | name n => exact Iff.rfl
  | array item ih => exact ih
  | generic n arguments => exact Iff.rfl
  | last t ih => exact ih
  | more t gap rest ih _ => exact and_congr_left' ih

lemma flat_withFirst {m : TypeName} {t : TypeTerm r} : (t.withFirst m).Flat ↔ t.Flat := by
  induction t with
  | name n => exact Iff.rfl
  | array item ih => exact ih
  | generic n arguments ih => exact ih
  | last t ih => exact ih
  | more t gap rest => exact and_congr_left' noGeneric_withFirst

lemma count_withFirst (m : TypeName) (t : TypeTerm r) :
    (t.withFirst m).chars.count '<' = t.chars.count '<' := by
  have hname (n : TypeName) : n.chars.count '<' = 0 :=
    List.count_eq_zero.2 (DottedName.not_mem_chars rfl (by decide))
  induction t with
  | name n => exact (hname m).trans (hname n).symm
  | array item ih => simp only [withFirst, chars, List.count_append, ih]
  | generic n arguments ih => simp only [withFirst, chars, List.count_append, List.count_cons, ih]
  | last t ih => exact ih
  | more t gap rest ih _ => simp only [withFirst, chars, List.count_append, ih]

lemma exists_of_mem_leaves {t : TypeTerm r} {n : TypeName} (h : n ∈ t.leaves) :
    ∃ p q, t.chars = p ++ (n.chars ++ q) := by
  induction t with
  | name m =>
    obtain rfl := List.mem_singleton.1 h
    exact ⟨[], [], (List.append_nil _).symm⟩
  | array item ih =>
    obtain ⟨p, q, hitem⟩ := ih h
    exact ⟨p, q ++ ['[', ']'], by simp [chars, hitem]⟩
  | generic m arguments ih =>
    obtain ⟨p, q, harguments⟩ := ih h
    exact ⟨m.chars ++ '<' :: p, q ++ ['>'], by simp [chars, harguments]⟩
  | last t ih => exact ih h
  | more t gap rest iht ihrest =>
    rcases List.mem_append.1 h with h | h
    · obtain ⟨p, q, ht⟩ := iht h
      exact ⟨p, q ++ ',' :: (gap.text.toList ++ rest.chars), by simp [chars, ht]⟩
    · obtain ⟨p, q, hrest⟩ := ihrest h
      exact ⟨t.chars ++ ',' :: (gap.text.toList ++ p), q, by simp [chars, hrest]⟩

lemma first_mem_leaves (t : TypeTerm r) : t.first ∈ t.leaves := by
  have h := mem_leaves_withFirst t.first t
  rwa [withFirst_first] at h

lemma exists_plain (t : TypeTerm r) : ∃ d ∈ t.chars, IsSegmentChar d := by
  obtain ⟨p, q, ht⟩ := exists_of_mem_leaves t.first_mem_leaves
  have hne : t.first.last.text.toList ≠ [] := by simpa using t.first.named
  obtain ⟨d, hd⟩ := List.exists_mem_of_ne_nil _ hne
  exact ⟨d, by simp [ht, DottedName.chars, hd], t.first.last.plain d hd⟩

lemma dot_mem_chars {t : TypeTerm r} {n : TypeName} (h : n ∈ t.leaves) (hpath : n.path ≠ []) :
    '.' ∈ t.chars := by
  obtain ⟨p, q, ht⟩ := exists_of_mem_leaves h
  simp [ht, DottedName.dot_mem_chars_iff.2 hpath]

/-- Angle brackets stand around arguments only. -/
lemma mem_chars_of_not_noGeneric {t : TypeTerm r} (h : ¬ t.NoGeneric) {c : Char} (hc : c ∈ ['<', '>']) :
    c ∈ t.chars := by
  induction t with
  | name n => exact absurd trivial h
  | array item ih => exact List.mem_append_left _ (ih h)
  | generic n arguments =>
    simp only [List.mem_cons, List.not_mem_nil, or_false] at hc
    rcases hc with rfl | rfl <;> simp [chars]
  | last t ih => exact ih h
  | more t gap rest iht ihrest =>
    rcases not_and_or.1 h with h | h
    · exact List.mem_append_left _ (iht h)
    · simp [chars, ihrest h]

lemma mem_chars_of_noGeneric {t : TypeTerm r} (h : t.NoGeneric) {c : Char} (hc : c ∈ t.chars) :
    (∃ n ∈ t.leaves, c ∈ n.chars) ∨ c ∈ ['[', ']', ','] ∨ isBlank c = true := by
  induction t with
  | name n => exact .inl ⟨n, List.mem_singleton_self n, hc⟩
  | array item ih =>
    rcases List.mem_append.1 hc with hc | hc
    · exact ih h hc
    · exact .inr (.inl (List.mem_append_left [','] hc))
  | generic n arguments => exact h.elim
  | last t ih => exact ih h hc
  | more t gap rest iht ihrest =>
    simp only [chars, List.mem_append, List.mem_cons] at hc
    rcases hc with hc | rfl | hc | hc
    · exact (iht h.1 hc).imp_left (Exists.imp fun n hn => hn.imp_left (List.mem_append_left _))
    · exact .inr (.inl (by decide))
    · exact .inr (.inr (gap.blank c hc))
    · exact (ihrest h.2 hc).imp_left (Exists.imp fun n hn => hn.imp_left (List.mem_append_right _))

lemma paired_chars (t : TypeTerm r) : Paired t.chars := by
  have hname (n : TypeName) : Paired n.chars := .of_forall fun c hc => by
    constructor <;> rintro rfl <;> exact DottedName.not_mem_chars rfl (by decide) hc
  have hgap (gap : Blanks) : Paired gap.text.toList := .of_forall fun c hc => by
    constructor <;> rintro rfl <;> cases gap.blank _ hc
  induction t with
  | name n => exact hname n
  | array item ih => exact ih.append (.pair .nil)
  | generic n arguments ih =>
    exact (hname n).append (.other (by decide) (ih.append (.other (by decide) .nil)))
  | last t ih => exact ih
  | more t gap rest iht ihrest => exact iht.append (.other (by decide) ((hgap gap).append ihrest))

lemma not_mem_chars_of_noGeneric {t : TypeTerm r} (h : t.NoGeneric) {c : Char} (hc : c ∈ ['<', '>']) :
    c ∉ t.chars := by
  intro hmem
  simp only [List.mem_cons, List.not_mem_nil, or_false] at hc
  rcases mem_chars_of_noGeneric h hmem with ⟨n, -, hn⟩ | hother
  · rcases hc with rfl | rfl <;> exact DottedName.not_mem_chars rfl (by decide) hn
  · rcases hc with rfl | rfl <;> revert hother <;> decide

lemma dot_not_mem_chars {t : TypeTerm r} (h : t.NoGeneric) (hpath : ∀ n ∈ t.leaves, n.path = []) :
    '.' ∉ t.chars := by
  intro hmem
  rcases mem_chars_of_noGeneric h hmem with ⟨n, hleaf, hn⟩ | hother
  · exact DottedName.dot_mem_chars_iff.1 hn (hpath n hleaf)
  · revert hother
    decide

/-- A type that is no generic type is a name with brackets behind it. -/
lemma exists_of_noGeneric {t : TypeTerm r} (hr : r = .type) (h : t.NoGeneric) :
    ∃ n tail, t.leaves = [n] ∧ t.chars = n.chars ++ tail ∧ ∀ c ∈ tail, c ∈ ['[', ']'] := by
  induction t with
  | name n => exact ⟨n, [], rfl, (List.append_nil _).symm, by simp⟩
  | array item ih =>
    obtain ⟨n, tail, hleaves, hchars, htail⟩ := ih rfl h
    refine ⟨n, tail ++ ['[', ']'], hleaves, by simp [chars, hchars], fun c hc => ?_⟩
    exact (List.mem_append.1 hc).elim (htail c) id
  | generic n arguments => exact h.elim
  | last t => cases hr
  | more t gap rest => cases hr

/-- A closing bracket behind which the first leaf does not stand. -/
lemma exists_closing {t : TypeTerm r} (h : ¬ t.NoGeneric) (m : TypeName) :
    ∃ u u' b, t.chars = u ++ '>' :: b ∧ (t.withFirst m).chars = u' ++ '>' :: b ∧
      u.count '<' = u'.count '<' := by
  induction t with
  | name n => exact absurd trivial h
  | array item ih =>
    obtain ⟨u, u', b, hu, hu', hcount⟩ := ih h
    exact ⟨u, u', b ++ ['[', ']'], by simp [chars, hu], by simp [withFirst, chars, hu'], hcount⟩
  | generic n arguments =>
    refine ⟨n.chars ++ '<' :: arguments.chars, n.chars ++ '<' :: (arguments.withFirst m).chars, [],
      by simp [chars], by simp [withFirst, chars], ?_⟩
    simp only [List.count_append, List.count_cons, count_withFirst]
  | last t ih => exact ih h
  | more t gap rest iht _ =>
    by_cases hfirst : t.NoGeneric
    · have hrest : ¬ rest.NoGeneric := fun hrest => h ⟨hfirst, hrest⟩
      obtain ⟨a, b, hb⟩ := List.append_of_mem (mem_chars_of_not_noGeneric hrest (c := '>') (by decide))
      refine ⟨t.chars ++ ',' :: (gap.text.toList ++ a), (t.withFirst m).chars ++ ',' :: (gap.text.toList ++ a),
        b, by simp [chars, hb], by simp [withFirst, chars, hb], ?_⟩
      simp only [List.count_append, count_withFirst]
    · obtain ⟨u, u', b, hu, hu', hcount⟩ := iht hfirst
      exact ⟨u, u', b ++ ',' :: (gap.text.toList ++ rest.chars), by simp [chars, hu],
        by simp [withFirst, chars, hu'], hcount⟩

end TypeTerm

lemma translate_segment (s : Segment) :
    Vocabulary.hint.translate .toLast (.name ⟨[], s⟩) = (Vocabulary.hint.listed? s.text).getD s.text := by
  have hspelling : (TypeExpr.name ⟨[], s⟩).spelling = s.text := String.ofList_toList
  cases hlisted : Vocabulary.hint.listed? s.text with
  | none =>
    rw [translate_name (hspelling ▸ hlisted)]
    exact hspelling
  | some spelling => exact translate_listed (hspelling ▸ hlisted)

/-- The table has the same spelling for a name and for its last segment. -/
lemma listed_last : ∀ name ∈ Vocabulary.hint.listedNames,
    Vocabulary.hint.listed? (String.ofList (afterLast '.' name.toList)) = Vocabulary.hint.listed? name := by
  decide +kernel

lemma translate_dottedName (n : DottedName) :
    Vocabulary.hint.translate .toLast (.name n) =
      (Vocabulary.hint.listed? n.last.text).getD n.last.text := by
  obtain ⟨path, last⟩ := n
  cases path with
  | nil => exact translate_segment last
  | cons s path =>
    cases hlisted : Vocabulary.hint.listed? (TypeExpr.name ⟨s :: path, last⟩).spelling with
    | none =>
      rw [translate_name hlisted]
      exact translate_segment last
    | some spelling =>
      have hmem : (TypeExpr.name ⟨s :: path, last⟩).spelling ∈ Vocabulary.hint.listedNames := by
        by_contra hmem
        rw [listed?_eq_none_iff.2 hmem] at hlisted
        cases hlisted
      have hlast := listed_last _ hmem
      rw [hlisted, TypeExpr.spelling, String.toList_ofList, TypeExpr.chars, DottedName.afterLast_chars,
        String.ofList_toList] at hlast
      rw [translate_listed hlisted, hlast, Option.getD_some]

lemma hinted_dottedName (n : DottedName) :
    hinted n.chars = ((Vocabulary.hint.listed? n.last.text).getD n.last.text).toList := by
  rw [← translate_dottedName]
  exact congrArg String.toList (spell_spelling Use.hint.shortens (.name n))

namespace TypeName

/-- The last segment of the name, or what the table has for it, is a part of the text. -/
def Shown (n : TypeName) (text : List Char) : Prop :=
  n.last.text.toList <:+: text ∨
    ∃ s, Vocabulary.hint.listed? n.last.text = some s ∧ s.toList <:+: text

/-- A name of one segment. -/
def plain (text : String) (named : text ≠ "") (h : ∀ c ∈ text.toList, IsSegmentChar c ∧ c ≠ ',') :
    TypeName where
  path := []
  last := ⟨text, fun c hc => (h c hc).1⟩
  named := named
  noComma hc := (h ',' hc).2 rfl

lemma Shown.mono {n : TypeName} {a b : List Char} (h : n.Shown a) (hab : a <:+: b) : n.Shown b :=
  h.imp (·.trans hab) (Exists.imp fun _ hs => hs.imp_right (·.trans hab))

lemma shown_hinted (n : TypeName) : n.Shown (hinted n.chars) := by
  rw [hinted_dottedName]
  cases hlisted : Vocabulary.hint.listed? n.last.text with
  | none => exact .inl (List.infix_refl _)
  | some s => exact .inr ⟨s, hlisted, List.infix_refl _⟩

/-- A name of a given length that the table does not have. -/
def fresh (length : Nat) : TypeName :=
  plain (String.ofList (List.replicate (length + 1) 'q')) (by simp) (by simp [IsSegmentChar, isBlank, isMark])

lemma not_shown_fresh (text : List Char) : ¬ (fresh text.length).Shown text := by
  have hlisted : Vocabulary.hint.listed? (fresh text.length).last.text = none := by
    have htable : lacks ['q'] Vocabulary.hint.listedNames = true := by decide +kernel
    refine listed?_eq_none_iff.2 fun hmem => not_mem_of_lacks htable (List.mem_singleton_self 'q') hmem ?_
    simp [fresh, plain]
  rintro (hpart | ⟨s, hs, -⟩)
  · have hlength := hpart.length_le
    simp only [fresh, plain, String.toList_ofList, List.length_replicate] at hlength
    omega
  · rw [hlisted] at hs
    cases hs

end TypeName

namespace TypeTerm
variable {r : Role}

def hint (t : TypeTerm r) : List Char := hinted t.chars

/-- A hint in the syntax of hints that names what the type is made of. -/
structure Legible (t : TypeTerm r) : Prop where
  noAngle : ∀ c ∈ ['<', '>'], c ∉ t.hint
  balanced : Balanced t.hint
  shown : ∀ n ∈ t.leaves, n.Shown t.hint

lemma hint_array (item : TypeTerm .type) : (array item).hint = "List[".toList ++ item.hint ++ [']'] :=
  hinted_brackets item.chars

lemma hint_generic (n : TypeName) (arguments : TypeTerm .arguments) :
    (generic n arguments).hint = "Iterable[".toList ++ arguments.hint ++ [']'] :=
  hinted_arguments (DottedName.not_mem_chars rfl (by decide)) arguments.chars

lemma balanced_hint (t : TypeTerm r) : Balanced t.hint := t.paired_chars.balanced_hinted

lemma not_mem_hint {t : TypeTerm r} (h : t.Flat) {c : Char} (hc : c ∈ ['<', '>']) : c ∉ t.hint := by
  induction t with
  | name n => exact not_mem_hinted hc (not_mem_chars_of_noGeneric (t := name n) trivial hc)
  | array item ih =>
    rw [hint_array]
    exact not_mem_wrapped hc (by simp) (ih h)
  | generic n arguments ih =>
    rw [hint_generic]
    exact not_mem_wrapped hc (by simp) (ih h)
  | last t ih => exact ih h
  | more t gap rest =>
    exact not_mem_hinted hc (not_mem_chars_of_noGeneric (t := more t gap rest) ⟨h.1, h.2.1⟩ hc)

/-- A list of several arguments is shown but for a path in front of it. -/
lemma shown_hint_more {t : TypeTerm .type} {gap : Blanks} {rest : TypeTerm .arguments}
    (h : (more t gap rest).Flat) {n : TypeName} (hn : n ∈ (more t gap rest).leaves) :
    n.Shown (more t gap rest).hint := by
  obtain ⟨ht, hrest, hpath⟩ := h
  have hne : n.last.text.toList ≠ [] := by simpa using n.named
  have hflat : (more t gap rest).NoGeneric := ⟨ht, hrest⟩
  have hopen := not_mem_chars_of_noGeneric hflat (c := '<') (by decide)
  have hgap : '.' ∉ gap.text.toList := fun hmem => by cases gap.blank _ hmem
  have hdot : '.' ∉ rest.chars := dot_not_mem_chars hrest hpath
  left
  rcases List.mem_append.1 hn with hn | hn
  · obtain ⟨m, tail, hleaves, hchars, htail⟩ := exists_of_noGeneric rfl ht
    obtain rfl : n = m := by simpa [hleaves] using hn
    have hmore : (more t gap rest).chars = pathChars n.path ++
        (n.last.text.toList ++ (tail ++ ',' :: (gap.text.toList ++ rest.chars))) := by
      simp [chars, hchars, DottedName.chars]
    have hdots : '.' ∉ tail := fun hmem => by simpa using htail _ hmem
    rw [hint, hmore]
    rw [hmore] at hopen
    exact infix_hinted hne n.last.plain hopen (by simp [hdots, hgap, hdot]) (.inl (by simp))
  · obtain ⟨p, q, hchars⟩ := exists_of_mem_leaves hn
    have hmore : (more t gap rest).chars = (t.chars ++ ',' :: (gap.text.toList ++ p ++ pathChars n.path)) ++
        (n.last.text.toList ++ q) := by
      simp [chars, hchars, DottedName.chars]
    rw [hchars, DottedName.chars] at hdot
    simp only [List.mem_append, not_or] at hdot
    rw [hint, hmore]
    rw [hmore] at hopen
    refine infix_hinted hne n.last.plain hopen hdot.2.2 (.inr ⟨t.chars, _, rfl, ?_⟩)
    simp [hgap, hdot.1, hdot.2.1.1]

lemma shown_hint {t : TypeTerm r} (h : t.Flat) {n : TypeName} (hn : n ∈ t.leaves) : n.Shown t.hint := by
  induction t with
  | name m =>
    obtain rfl := List.mem_singleton.1 hn
    exact n.shown_hinted
  | array item ih =>
    rw [hint_array]
    exact (ih h hn).mono ⟨_, _, rfl⟩
  | generic m arguments ih =>
    rw [hint_generic]
    exact (ih h hn).mono ⟨_, _, rfl⟩
  | last t ih => exact ih h hn
  | more t gap rest => exact shown_hint_more h hn

lemma Flat.legible {t : TypeTerm r} (h : t.Flat) : t.Legible where
  noAngle _ := not_mem_hint h
  balanced := t.balanced_hint
  shown _ := shown_hint h

/-- Where a list of several arguments has a generic or a qualified one, what stands in front is lost, or
the hint shows an angle bracket. -/
lemma hint_withFirst_more {t : TypeTerm .type} {gap : Blanks} {rest : TypeTerm .arguments}
    (h : ¬ (more t gap rest).Flat) (m : TypeName) :
    (more t gap rest).hint = ((more t gap rest).withFirst m).hint ∨
      ∃ c ∈ ['<', '>'], c ∈ (more t gap rest).hint := by
  obtain ⟨d, hd, hplain⟩ := rest.exists_plain
  by_cases hfirst : t.NoGeneric
  · have hcount := (count_withFirst m t).symm
    rcases hinted_seam (c := ',') (by decide) hcount (w := gap.text.toList ++ rest.chars)
      ⟨d, List.mem_append_right _ hd, hplain⟩ with hsame | hshows
    · exact .inl hsame
    right
    by_cases hrest : rest.NoGeneric
    · have hpath : ¬ ∀ n ∈ rest.leaves, n.path = [] := fun hpath => h ⟨hfirst, hrest, hpath⟩
      push Not at hpath
      obtain ⟨n, hn, hpath⟩ := hpath
      exact absurd (List.mem_append_right _ (dot_mem_chars hn hpath)) hshows.noDot
    · have hopen := mem_chars_of_not_noGeneric hrest (c := '<') (by decide)
      exact ⟨'<', by decide, hshows.opening (List.mem_append_right _ hopen)⟩
  · obtain ⟨u, u', b, hu, hu', hcount⟩ := exists_closing hfirst m
    have hseam := hinted_seam (c := '>') (by decide) hcount (w := b ++ ',' :: (gap.text.toList ++ rest.chars))
      ⟨d, by simp [hd], hplain⟩
    have hmore : (more t gap rest).chars = u ++ '>' :: (b ++ ',' :: (gap.text.toList ++ rest.chars)) := by
      simp [chars, hu]
    have hmore' : ((more t gap rest).withFirst m).chars =
        u' ++ '>' :: (b ++ ',' :: (gap.text.toList ++ rest.chars)) := by
      simp [withFirst, chars, hu']
    rw [hint, hint, hmore, hmore']
    exact hseam.imp_right fun hshows => ⟨'>', by decide, hshows.mark⟩

lemma hint_withFirst {t : TypeTerm r} (h : ¬ t.Flat) (m : TypeName) :
    t.hint = (t.withFirst m).hint ∨ ∃ c ∈ ['<', '>'], c ∈ t.hint := by
  have hwrapped (before : List Char) {a b : List Char} (hab : a = b ∨ ∃ c ∈ ['<', '>'], c ∈ a) :
      before ++ a ++ [']'] = before ++ b ++ [']'] ∨ ∃ c ∈ ['<', '>'], c ∈ before ++ a ++ [']'] := by
    rcases hab with rfl | ⟨c, hc, hmem⟩
    · exact .inl rfl
    · exact .inr ⟨c, hc, List.mem_append_left _ (List.mem_append_right _ hmem)⟩
  induction t with
  | name n => exact absurd trivial h
  | array item ih =>
    rw [withFirst, hint_array, hint_array]
    exact hwrapped _ (ih h)
  | generic n arguments ih =>
    rw [withFirst, hint_generic, hint_generic]
    exact hwrapped _ (ih h)
  | last t ih => exact ih h
  | more t gap rest => exact hint_withFirst_more h m

lemma exists_not_legible {t : TypeTerm r} (h : ¬ t.Flat) : ∃ m, ¬ (t.withFirst m).Legible := by
  by_cases hangle : ∃ c ∈ ['<', '>'], c ∈ t.hint
  · obtain ⟨c, hc, hmem⟩ := hangle
    refine ⟨t.first, fun hlegible => hlegible.noAngle c hc ?_⟩
    rwa [withFirst_first]
  · refine ⟨.fresh t.hint.length, fun hlegible => ?_⟩
    have hshown := hlegible.shown _ (mem_leaves_withFirst _ t)
    rw [← (hint_withFirst h _).resolve_right hangle] at hshown
    exact TypeName.not_shown_fresh _ hshown

/-- The brackets of every hint are balanced. The hints of types that differ in their first leaf only are
legible if and only if the types are flat: otherwise a hint shows an angle bracket or does not depend on
the first leaf. -/
theorem hints_legible_iff_flat (t : TypeTerm .type) :
    Balanced t.hint ∧ (t.Flat → t.Legible) ∧
      (¬ t.Flat → (∃ c ∈ ['<', '>'], c ∈ t.hint) ∨ ∀ m, (t.withFirst m).hint = t.hint) ∧
      ((∀ m, (t.withFirst m).Legible) ↔ t.Flat) := by
  refine ⟨t.balanced_hint, Flat.legible, fun h => ?_, fun hlegible => ?_, fun h m => ?_⟩
  · by_cases hangle : ∃ c ∈ ['<', '>'], c ∈ t.hint
    · exact .inl hangle
    · exact .inr fun m => ((hint_withFirst h m).resolve_right hangle).symm
  · by_contra h
    obtain ⟨m, hm⟩ := exists_not_legible h
    exact hm (hlegible m)
  · exact (flat_withFirst.2 h).legible

/-- `Dictionary<List<int>, string>` -/
def nestedArguments : TypeTerm .type :=
  .generic (.plain "Dictionary" (by simp) (by simp [IsSegmentChar, isBlank, isMark]))
    (.more (.generic (.plain "List" (by simp) (by simp [IsSegmentChar, isBlank, isMark]))
        (.last (.name (.plain "int" (by simp) (by simp [IsSegmentChar, isBlank, isMark])))))
      ⟨" ", by simp [isBlank]⟩
      (.last (.name (.plain "string" (by simp) (by simp [IsSegmentChar, isBlank, isMark])))))

/-- The first bracket opens the whole list, so the brackets of an argument are not taken off. -/
theorem nested_argument_keeps_brackets :
    nestedArguments.hint = "Iterable[List<int>, string]".toList ∧ ¬ nestedArguments.Legible := by
  have hhint : nestedArguments.hint = "Iterable[List<int>, string]".toList := by decide +kernel
  refine ⟨hhint, fun hlegible => hlegible.noAngle '<' (by decide) ?_⟩
  rw [hhint]
  decide

end TypeTerm
end BindingDocs
