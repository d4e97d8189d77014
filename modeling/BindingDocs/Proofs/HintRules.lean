import BindingDocs.Proofs.TypeExpressions

/-! Type hints by the rules. A rule takes brackets off the end of a text, or what stands up to its first
angle bracket together with the closing one at its end, or what stands up to its last dot. -/
namespace BindingDocs.Vocabulary
open BindingDocs.Text

lemma dropsOnlyText_hint : hint.DropsOnlyText := by
  intro names hnames
  cases hnames

/-- The hint for a type. -/
def hinted (s : List Char) : List Char := (hint.spell (String.ofList s)).toList

/-- A text that ends like an array or a generic type. -/
def Closes (s : List Char) : Prop := (∃ item, s = item ++ ['[', ']']) ∨ '<' ∈ s ∧ ∃ front, s = front ++ ['>']

/-- Texts in which none of the marks stands. -/
def lacks (marks : List Char) (texts : List String) : Bool :=
  texts.all fun text => marks.all fun c => !text.toList.contains c

lemma not_mem_of_lacks {marks : List Char} {texts : List String} (h : lacks marks texts = true)
    {c : Char} (hc : c ∈ marks) {text : String} (htext : text ∈ texts) : c ∉ text.toList := by
  have hnot := List.all_eq_true.1 (List.all_eq_true.1 h text htext) c hc
  simpa using hnot

/-- No name of the table holds a comma, an angle bracket or a square bracket. -/
lemma not_listed {s : List Char} {c : Char} (hc : c ∈ [',', '<', '>', '[', ']']) (h : c ∈ s) :
    String.ofList s ∉ hint.listedNames := by
  have htable : lacks [',', '<', '>', '[', ']'] hint.listedNames = true := by decide +kernel
  intro hlisted
  exact not_mem_of_lacks htable hc hlisted (by simpa using h)

lemma hinted_wrapped {s rest : List Char} {w : Wrapping} (h : hint.rule s = .wrapped w rest) :
    hinted s = w.before.toList ++ hinted rest ++ w.after.toList := by
  rw [hinted, spell_eq dropsOnlyText_hint, h, RuleOutcome.finish, Wrapping.wrap, String.toList_append,
    String.toList_append, hinted]

lemma hinted_spelled {s : List Char} {spelling : String} (h : hint.rule s = .spelled spelling) :
    hinted s = spelling.toList := by
  rw [hinted, spell_eq dropsOnlyText_hint, h, RuleOutcome.finish]

section Rules
variable {s : List Char}

lemma hinted_array {item : List Char} (h : trim s = item ++ ['[', ']']) :
    hinted s = "List[".toList ++ hinted item ++ [']'] := by
  have hlisted : String.ofList (trim s) ∉ hint.listedNames :=
    not_listed (c := '[') (by decide) (by simp [h])
  exact hinted_wrapped (rule_of_array hlisted h)

lemma hinted_generic {head element : List Char} (hhead : '<' ∉ head)
    (h : trim s = head ++ '<' :: (element ++ ['>'])) :
    hinted s = "Iterable[".toList ++ hinted element ++ [']'] := by
  have hlisted : String.ofList (trim s) ∉ hint.listedNames :=
    not_listed (c := '<') (by decide) (by simp [h])
  exact hinted_wrapped (rule_of_element hlisted (element?_eq_some_iff.2 ⟨head, hhead, h⟩))

/-- The blanks in front of a type do not matter. -/
lemma hinted_trimLeft (s : List Char) : hinted (trimLeft s) = hinted s :=
  congrArg String.toList (spell_eq_of_trim dropsOnlyText_hint (trim_trimLeft s))

lemma hinted_brackets (s : List Char) :
    hinted (s ++ ['[', ']']) = "List[".toList ++ hinted s ++ [']'] := by
  rw [hinted_array (trim_append s ⟨'[', rfl, rfl⟩ ⟨']', rfl, rfl⟩), hinted_trimLeft]

lemma hinted_arguments {head : List Char} (hhead : '<' ∉ head) (s : List Char) :
    hinted (head ++ '<' :: (s ++ ['>'])) = "Iterable[".toList ++ hinted s ++ [']'] := by
  have htrim := trim_append (t := '<' :: (s ++ ['>'])) head ⟨'<', rfl, rfl⟩
    ⟨'>', List.getLast?_concat (l := '<' :: s), rfl⟩
  exact hinted_generic (fun h => hhead ((List.dropWhile_suffix _).mem h)) htrim

lemma no_end_of_not_closes (h : ¬ Closes (trim s)) :
    dropEnd? ['[', ']'] (trim s) = none ∧ hint.element? (trim s) = none := by
  constructor
  · refine Option.eq_none_iff_forall_ne_some.2 fun item hitem => h (.inl ⟨item, ?_⟩)
    exact dropEnd?_eq_some_iff.1 hitem
  · refine Option.eq_none_iff_forall_ne_some.2 fun element helement => h (.inr ?_)
    obtain ⟨head, -, hs⟩ := element?_eq_some_iff.1 helement
    exact ⟨by simp [hs], head ++ '<' :: element, by simp [hs]⟩

lemma hinted_dotted (hlisted : String.ofList (trim s) ∉ hint.listedNames) (h : ¬ Closes (trim s))
    (hdot : '.' ∈ trim s) : hinted s = hinted (afterLast '.' (trim s)) := by
  obtain ⟨harray, helement⟩ := no_end_of_not_closes h
  have hrest : hint.unqualified? (trim s) = some (afterLast '.' (trim s)) :=
    if_pos (List.contains_iff_mem.2 hdot)
  rw [hinted_wrapped (rule_of_unqualified hlisted harray helement hrest)]
  simp [Wrapping.bare]

lemma hinted_name (hlisted : String.ofList (trim s) ∉ hint.listedNames) (h : ¬ Closes (trim s))
    (hdot : '.' ∉ trim s) : hinted s = trim s := by
  obtain ⟨harray, helement⟩ := no_end_of_not_closes h
  have hrest : hint.unqualified? (trim s) = none := if_neg (mt List.contains_iff_mem.1 hdot)
  rw [hinted_spelled (rule_of_name hlisted harray helement hrest), String.toList_ofList]

end Rules

lemma Closes.of_suffix {s t : List Char} (h : Closes s) (hst : s <:+ t) : Closes t := by
  obtain ⟨start, rfl⟩ := hst
  rcases h with ⟨item, rfl⟩ | ⟨hopen, front, rfl⟩
  · exact .inl ⟨start ++ item, by simp⟩
  · exact .inr ⟨List.mem_append_right _ hopen, start ++ front, by simp⟩

/-- Where a comma or an angle bracket stands behind the last dot, only what stands up to the dot is lost. -/
lemma hinted_of_not_closes {s : List Char} (h : ¬ Closes (trim s)) {c : Char} (hmark : c ∈ [',', '>'])
    (hc : c ∈ afterLast '.' (trim s)) : hinted s = trim (afterLast '.' (trim s)) := by
  have hlisted : c ∈ [',', '<', '>', '[', ']'] ∧ isBlank c = false := by
    simp only [List.mem_cons, List.not_mem_nil, or_false] at hmark
    rcases hmark with rfl | rfl <;> decide
  have hend := afterLast_suffix '.' (trim s)
  have hwhole := not_listed hlisted.1 (hend.mem hc)
  by_cases hdot : '.' ∈ trim s
  · rw [hinted_dotted hwhole h hdot]
    apply hinted_name
    · exact not_listed hlisted.1 (mem_trim hc hlisted.2)
    · exact fun hcloses => h (hcloses.of_suffix (trim_suffix hend))
    · exact fun hmem => not_mem_afterLast '.' (trim s) (mem_of_mem_trim hmem)
  · rw [afterLast_of_not_mem hdot, trim_trim, hinted_name hwhole h hdot]

lemma exists_of_listed {name spelling : String} (h : hint.listed? name = some spelling) :
    ∃ e ∈ hint.exact, e.2 = spelling := by
  rw [listed?] at h
  split at h
  · rename_i e he
    cases h
    exact ⟨e, List.mem_of_find?_eq_some he, rfl⟩
  · cases h

lemma exists_append_of_unqualified {s rest : List Char} (h : hint.unqualified? s = some rest) :
    ∃ front, s = front ++ '.' :: rest := by
  change (if s.contains '.' then some (afterLast '.' s) else none) = some rest at h
  split at h
  · rename_i hdot
    cases h
    exact exists_append_afterLast (List.contains_iff_mem.1 hdot)
  · cases h

/-- What holds of a text and of what the rules leave of it shapes the hint. -/
lemma hinted_induction {P Q : List Char → Prop} (trimmed : ∀ s, P s → P (trim s))
    (array : ∀ item, P (item ++ ['[', ']']) → P item)
    (generic : ∀ head element, P (head ++ '<' :: (element ++ ['>'])) → P element)
    (dotted : ∀ front rest, P (front ++ '.' :: rest) → P rest)
    (listed : ∀ e ∈ hint.exact, Q e.2.toList)
    (wrapped : ∀ before ∈ ["List[", "Iterable["], ∀ h, Q h → Q (before.toList ++ h ++ [']']))
    (whole : ∀ s, P s → Q s) {s : List Char} (hs : P s) : Q (hinted s) := by
  induction hlength : s.length using Nat.strongRecOn generalizing s with
  | ind n ih =>
    subst hlength
    have ht := trimmed s hs
    rcases hint.rule_cases s with ⟨spelling, hlisted, hrule⟩ | ⟨item, hitem, hrule⟩ |
      ⟨element, helement, hrule⟩ | ⟨rest, hrest, hrule⟩ | hrule
    · obtain ⟨e, he, rfl⟩ := exists_of_listed hlisted
      rw [hinted_spelled hrule]
      exact listed e he
    · rw [hinted_wrapped hrule]
      exact wrapped "List[" (by simp) _ (ih _ (length_rule dropsOnlyText_hint hrule) (array _ (hitem ▸ ht)) rfl)
    · obtain ⟨head, -, helement⟩ := element?_eq_some_iff.1 helement
      rw [hinted_wrapped hrule]
      exact wrapped "Iterable[" (by simp) _
        (ih _ (length_rule dropsOnlyText_hint hrule) (generic head _ (helement ▸ ht)) rfl)
    · obtain ⟨front, hfront⟩ := exists_append_of_unqualified hrest
      have hhint : hinted s = hinted rest := by
        rw [hinted_wrapped hrule]
        simp [Wrapping.bare]
      rw [hhint]
      exact ih _ (length_rule dropsOnlyText_hint hrule) (dotted front rest (hfront ▸ ht)) rfl
    · rw [hinted_spelled hrule, String.toList_ofList]
      exact whole _ ht

lemma not_mem_wrapped {c : Char} (hc : c ∈ ['<', '>']) {before : String}
    (hbefore : before ∈ ["List[", "Iterable["]) {h : List Char} (hh : c ∉ h) :
    c ∉ before.toList ++ h ++ [']'] := by
  simp only [List.mem_cons, List.not_mem_nil, or_false] at hbefore hc
  rcases hbefore with rfl | rfl <;> rcases hc with rfl | rfl <;> simp [hh]

lemma not_mem_hinted {c : Char} (hc : c ∈ ['<', '>']) {s : List Char} (h : c ∉ s) : c ∉ hinted s := by
  refine hinted_induction (P := (c ∉ ·)) (Q := (c ∉ ·)) ?_ ?_ ?_ ?_ ?_ ?_ (fun _ => id) h
  · exact fun s hs hmem => hs (mem_of_mem_trim hmem)
  · exact fun item hitem hmem => hitem (List.mem_append_left _ hmem)
  · exact fun head element helement hmem => helement (by simp [hmem])
  · exact fun front rest hrest hmem => hrest (by simp [hmem])
  · have htable : lacks ['<', '>'] (hint.exact.map (·.2)) = true := by decide +kernel
    exact fun e he => not_mem_of_lacks htable hc (List.mem_map_of_mem he)
  · exact fun before hbefore h => not_mem_wrapped hc hbefore

/-- The number of open square brackets behind a character, unless it closes one too many. -/
def bracketStep (opened : Nat) (c : Char) : Option Nat :=
  if c = '[' then some (opened + 1)
  else if c = ']' then if opened = 0 then none else some (opened - 1)
  else some opened

def openBrackets (opened : Nat) : List Char → Option Nat
  | [] => some opened
  | c :: s => (bracketStep opened c).bind fun n => openBrackets n s

def Balanced (s : List Char) : Prop := openBrackets 0 s = some 0

instance (s : List Char) : Decidable (Balanced s) := inferInstanceAs (Decidable (_ = _))

lemma openBrackets_append (opened : Nat) (a b : List Char) :
    openBrackets opened (a ++ b) = (openBrackets opened a).bind fun n => openBrackets n b := by
  induction a generalizing opened with
  | nil => rfl
  | cons c a ih => simp only [List.cons_append, openBrackets, ih, Option.bind_assoc]

lemma bracketStep_add {opened n : Nat} {c : Char} (h : bracketStep opened c = some n) (k : Nat) :
    bracketStep (opened + k) c = some (n + k) := by
  rw [bracketStep] at h ⊢
  by_cases hopen : c = '['
  · rw [if_pos hopen] at h ⊢
    cases h
    exact congrArg some (Nat.add_right_comm opened k 1)
  rw [if_neg hopen] at h ⊢
  by_cases hclose : c = ']'
  · rw [if_pos hclose] at h ⊢
    split at h
    · cases h
    · cases h
      rw [if_neg (by omega)]
      exact congrArg some (by omega)
  · rw [if_neg hclose] at h ⊢
    cases h
    rfl

/-- Brackets that are open before a text stay open behind it. -/
lemma openBrackets_add {opened n : Nat} {s : List Char} (h : openBrackets opened s = some n) (k : Nat) :
    openBrackets (opened + k) s = some (n + k) := by
  induction s generalizing opened with
  | nil =>
    cases h
    rfl
  | cons c s ih =>
    obtain ⟨m, hstep, hrest⟩ := Option.bind_eq_some_iff.1 h
    rw [openBrackets, bracketStep_add hstep k, Option.bind_some, ih hrest]

lemma Balanced.wrapped {before h : List Char} (hbefore : openBrackets 0 before = some 1) (hh : Balanced h) :
    Balanced (before ++ h ++ [']']) := by
  rw [Balanced, openBrackets_append, openBrackets_append, hbefore, Option.bind_some,
    openBrackets_add hh 1]
  rfl

/-- A text in which square brackets stand only in pairs with nothing between. -/
inductive Paired : List Char → Prop
  | nil : Paired []
  | other {c : Char} {s : List Char} (hc : c ≠ '[' ∧ c ≠ ']') (rest : Paired s) : Paired (c :: s)
  | pair {s : List Char} (rest : Paired s) : Paired ('[' :: ']' :: s)

namespace Paired
variable {a b s : List Char}

lemma balanced (h : Paired s) : Balanced s := by
  induction h with
  | nil => rfl
  | other hc _ ih => rwa [Balanced, openBrackets, bracketStep, if_neg hc.1, if_neg hc.2]
  | pair _ ih => exact ih

lemma of_forall (h : ∀ c ∈ s, c ≠ '[' ∧ c ≠ ']') : Paired s := by
  induction s with
  | nil => exact .nil
  | cons c s ih =>
    obtain ⟨hc, hs⟩ := List.forall_mem_cons.1 h
    exact .other hc (ih hs)

lemma append (ha : Paired a) (hb : Paired b) : Paired (a ++ b) := by
  induction ha with
  | nil => exact hb
  | other hc _ ih => exact .other hc ih
  | pair _ ih => exact .pair ih

/-- A cut that does not fall between two brackets. -/
lemma cut (h : Paired s) (hs : s = a ++ b) (hb : b.head? ≠ some ']') : Paired a ∧ Paired b := by
  induction h generalizing a with
  | nil =>
    obtain ⟨rfl, rfl⟩ := List.append_eq_nil_iff.1 hs.symm
    exact ⟨.nil, .nil⟩
  | other hc rest ih =>
    cases a with
    | nil =>
      subst hs
      exact ⟨.nil, .other hc rest⟩
    | cons d a =>
      obtain ⟨rfl, htail⟩ := List.cons.inj hs
      exact ⟨.other hc (ih htail).1, (ih htail).2⟩
  | pair rest ih =>
    rcases a with _ | ⟨d, _ | ⟨e, a⟩⟩
    · subst hs
      exact ⟨.nil, .pair rest⟩
    · obtain ⟨-, rfl⟩ := List.cons.inj hs
      exact absurd rfl hb
    · simp only [List.cons_append, List.cons.injEq] at hs
      obtain ⟨rfl, rfl, hrest⟩ := hs
      exact ⟨.pair (ih hrest).1, (ih hrest).2⟩

lemma of_cons {c : Char} (hc : c ≠ '[') (h : Paired (c :: s)) : Paired s := by
  cases h with
  | other _ rest => exact rest
  | pair => exact absurd rfl hc

lemma of_blanks_append (h : Paired (a ++ s)) (ha : ∀ c ∈ a, isBlank c = true) : Paired s := by
  induction a with
  | nil => exact h
  | cons c a ih =>
    obtain ⟨hc, ha⟩ := List.forall_mem_cons.1 ha
    refine ih (h.of_cons ?_) ha
    rintro rfl
    cases hc

lemma trimmed (h : Paired s) : Paired (trim s) := by
  obtain ⟨lead, tail, hlead, htail, hs⟩ := exists_blanks_trim s
  refine (h.cut hs ?_).1.of_blanks_append hlead
  intro hclose
  cases htail ']' (List.mem_of_mem_head? hclose)

lemma balanced_hinted (h : Paired s) : Balanced (hinted s) := by
  refine hinted_induction (P := Paired) (Q := Balanced) (fun _ => trimmed) ?_ ?_ ?_ ?_ ?_ (fun _ => balanced) h
  · exact fun item hitem => (hitem.cut rfl (by simp)).1
  · intro head element helement
    have hrest := ((helement.cut rfl (by simp)).2).of_cons (by decide)
    exact (hrest.cut rfl (by simp)).1
  · exact fun front rest hrest => ((hrest.cut rfl (by simp)).2).of_cons (by decide)
  · decide +kernel
  · intro before hbefore h hh
    simp only [List.mem_cons, List.not_mem_nil, or_false] at hbefore
    rcases hbefore with rfl | rfl <;> exact hh.wrapped (by decide)

end Paired

/-- The end of a text stands at the end of each part that begins behind another character. -/
lemma end_of_append {w q item tail : List Char} (h : w ++ q = item ++ tail)
    (hlast : ∀ c ∈ w.getLast?, c ∉ tail) : ∃ y, q = y ++ tail := by
  rcases List.append_eq_append_iff.1 h with ⟨y, -, hq⟩ | ⟨b, hw, htail⟩
  · exact ⟨y, hq⟩
  · rcases List.eq_nil_or_concat b with rfl | ⟨b, c, rfl⟩
    · exact ⟨[], htail.symm⟩
    · exact absurd (by simp [htail]) (hlast c (by simp [hw]))

section Shown
variable {z : List Char} (hne : z ≠ []) (hz : ∀ c ∈ z, IsSegmentChar c)
include hne hz

/-- A text closes only behind its last part without marks. -/
lemma not_closes_around {p q : List Char} (hopen : '<' ∉ p ++ (z ++ q)) (harray : ¬ ∃ y, q = y ++ ['[', ']']) :
    ¬ Closes (p ++ (z ++ q)) := by
  rintro (⟨item, hitem⟩ | ⟨hmem, -⟩)
  · rw [← List.append_assoc] at hitem
    refine harray (end_of_append hitem fun c hc hbracket => ?_)
    rw [List.getLast?_append_of_ne_nil _ hne] at hc
    have hplain := (hz c (List.mem_of_getLast? hc)).2
    simp only [List.mem_cons, List.not_mem_nil, or_false] at hbracket
    rcases hbracket with rfl | rfl <;> cases hplain
  · exact hopen hmem

lemma infix_hinted_of_not_closes {s p q : List Char} (hs : trim s = p ++ (z ++ q))
    (hcloses : ¬ Closes (trim s)) (hq : '.' ∉ q)
    (hcomma : ',' ∈ q ∨ ∃ x y, p = x ++ ',' :: y ∧ '.' ∉ y) : z <:+: hinted s := by
  have hdot : '.' ∉ z ++ q := by
    intro hmem
    rcases List.mem_append.1 hmem with hmem | hmem
    · exact Bool.false_ne_true ((hz _ hmem).2.symm.trans rfl)
    · exact hq hmem
  have hend : afterLast '.' (trim s) = afterLast '.' p ++ (z ++ q) := by
    rw [hs, afterLast_append_of_not_mem hdot]
  have hmark : ',' ∈ afterLast '.' (trim s) := by
    rw [hend]
    rcases hcomma with hcomma | ⟨x, y, rfl, hy⟩
    · simp [hcomma]
    · rw [afterLast_append_of_not_mem (by simp [hy])]
      simp
  rw [hinted_of_not_closes hcloses (by simp) hmark, hend, trim_around hne fun c hc => (hz c hc).1]
  exact ⟨_, _, List.append_assoc _ _ _⟩

/-- A part without blanks and marks is shown in the hint, if no angle bracket opens, no dot stands
behind the part, and a comma stands behind all dots. -/
lemma infix_hinted {p q : List Char} (hopen : '<' ∉ p ++ (z ++ q)) (hq : '.' ∉ q)
    (hcomma : ',' ∈ q ∨ ∃ x y, p = x ++ ',' :: y ∧ '.' ∉ y) : z <:+: hinted (p ++ (z ++ q)) := by
  -- on the length of the end, from which brackets are taken off
  induction hlength : q.length using Nat.strongRecOn generalizing p q with
  | ind n ih =>
    have hs := trim_around hne (fun c hc => (hz c hc).1) p q
    have hshorter : (trimRight q).length ≤ n := hlength ▸ (trimRight_isPrefix q).length_le
    replace hopen : '<' ∉ trimLeft p ++ (z ++ trimRight q) := fun hmem => hopen (mem_of_mem_trim (hs ▸ hmem))
    replace hq : '.' ∉ trimRight q := fun hmem => hq ((trimRight_isPrefix q).mem hmem)
    replace hcomma : ',' ∈ trimRight q ∨ ∃ x y, trimLeft p = x ++ ',' :: y ∧ '.' ∉ y := by
      refine hcomma.imp (fun h => mem_trimRight h rfl) ?_
      rintro ⟨x, y, rfl, hy⟩
      exact ⟨trimLeft x, y, trimLeft_append x ⟨',', rfl, rfl⟩, hy⟩
    generalize trimLeft p = p' at *
    generalize trimRight q = q' at *
    by_cases harray : ∃ y, q' = y ++ ['[', ']']
    · obtain ⟨y, rfl⟩ := harray
      have hbrackets : trim (p ++ (z ++ q)) = p' ++ (z ++ y) ++ ['[', ']'] := by simp [hs]
      have hless : y.length < n := by
        simp only [List.length_append, List.length_cons] at hshorter
        omega
      have hitem := ih y.length hless (p := p') (q := y) (by simpa using hopen) (by simpa using hq)
        (by simpa using hcomma) rfl
      rw [hinted_array hbrackets]
      exact hitem.trans ⟨_, _, rfl⟩
    · exact infix_hinted_of_not_closes hne hz hs (hs ▸ not_closes_around hne hz hopen harray) hq hcomma

end Shown

/-- The first opening bracket of two texts with equally many of them. -/
lemma exists_openings {u u' : List Char} (hcount : u.count '<' = u'.count '<') (h : '<' ∈ u) :
    ∃ a b a' b', u = a ++ '<' :: b ∧ '<' ∉ a ∧ u' = a' ++ '<' :: b' ∧ '<' ∉ a' ∧
      b.count '<' = b'.count '<' := by
  have h' : '<' ∈ u' := List.count_pos_iff.1 (hcount ▸ List.count_pos_iff.2 h)
  obtain ⟨a, b, rfl, ha⟩ := List.eq_append_cons_of_mem h
  obtain ⟨a', b', rfl, ha'⟩ := List.eq_append_cons_of_mem h'
  refine ⟨a, b, a', b', rfl, ha, rfl, ha', ?_⟩
  simpa [List.count_eq_zero.2 ha, List.count_eq_zero.2 ha'] using hcount

/-- The end `x` of a text is the end `w`, but for blanks and closing brackets. -/
def KeepsEnd (w x : List Char) : Prop := ∀ c, (IsSegmentChar c ∨ c = '.' ∨ c = '<') → c ∈ w → c ∈ x

lemma KeepsEnd.exists_plain {w x : List Char} (h : KeepsEnd w x) (hw : ∃ d ∈ w, IsSegmentChar d) :
    ∃ d ∈ x, IsSegmentChar d := by
  obtain ⟨d, hd, hplain⟩ := hw
  exact ⟨d, h d (.inl hplain) hd, hplain⟩

lemma keepsEnd_trimRight (w : List Char) : KeepsEnd w (trimRight w) := by
  intro c hc hmem
  apply mem_trimRight hmem
  rcases hc with hplain | rfl | rfl
  · exact hplain.1
  · rfl
  · rfl

lemma keepsEnd_append {tail : List Char} (htail : ∀ c ∈ tail, c ∈ ['[', ']', '>']) (y : List Char) :
    KeepsEnd (y ++ tail) y := by
  intro c hc hmem
  refine (List.mem_append.1 hmem).resolve_right fun hend => ?_
  have hclosing := htail c hend
  rcases hc with hplain | rfl | rfl
  · simp only [List.mem_cons, List.not_mem_nil, or_false] at hclosing
    rcases hclosing with rfl | rfl | rfl <;> cases hplain.2
  · simp at hclosing
  · simp at hclosing

/-- Closing brackets at the end of a text stand at the end of each part that holds a letter. -/
lemma end_of_append_of_plain {z x item tail : List Char} (h : z ++ x = item ++ tail)
    (hx : ∃ d ∈ x, IsSegmentChar d) (htail : ∀ c ∈ tail, isMark c = true) : ∃ y, x = y ++ tail := by
  rcases List.append_eq_append_iff.1 h with ⟨a, -, hx'⟩ | ⟨a, -, htail'⟩
  · exact ⟨a, hx'⟩
  · obtain ⟨d, hd, hplain⟩ := hx
    have hmark := htail d (by simp [htail', hd])
    rw [hplain.2] at hmark
    cases hmark

/-- A hint that shows the end `c :: w` of a text, but for blanks and closing brackets. -/
structure ShowsEnd (c : Char) (w hint : List Char) : Prop where
  mark : c ∈ hint
  noDot : '.' ∉ w
  opening : '<' ∈ w → '<' ∈ hint

namespace ShowsEnd
variable {c : Char} {w y hint : List Char}

lemma of_keepsEnd (h : ShowsEnd c y hint) (hkeeps : KeepsEnd w y) : ShowsEnd c w hint where
  mark := h.mark
  noDot hdot := h.noDot (hkeeps '.' (by simp) hdot)
  opening hopen := h.opening (hkeeps '<' (by simp) hopen)

lemma wrapped (h : ShowsEnd c y hint) (before after : List Char) :
    ShowsEnd c y (before ++ hint ++ after) where
  mark := List.mem_append_left _ (List.mem_append_right _ h.mark)
  noDot := h.noDot
  opening hopen := List.mem_append_left _ (List.mem_append_right _ (h.opening hopen))

lemma wrapped_or {hint' : List Char} (h : hint = hint' ∨ ShowsEnd c y hint) (hkeeps : KeepsEnd w y)
    (before after : List Char) :
    before ++ hint ++ after = before ++ hint' ++ after ∨ ShowsEnd c w (before ++ hint ++ after) := by
  rcases h with rfl | hshows
  · exact .inl rfl
  · exact .inr ((hshows.of_keepsEnd hkeeps).wrapped before after)

end ShowsEnd

section Seam
variable {c : Char} (hmark : c ∈ [',', '>'])
include hmark

lemma mark_cases : c ∈ [',', '<', '>', '[', ']'] ∧ isBlank c = false ∧ '.' ≠ c ∧ '<' ≠ c := by
  simp only [List.mem_cons, List.not_mem_nil, or_false] at hmark
  rcases hmark with rfl | rfl <;> decide

/-- Two texts that end in neither a square nor an angle bracket that a rule takes off. -/
lemma hinted_seam_of_no_end {s s' v v' x : List Char} (hs : trim s = v ++ c :: x)
    (hs' : trim s' = v' ++ c :: x) (hcount : v.count '<' = v'.count '<') (hx : ∃ d ∈ x, IsSegmentChar d)
    (harray : ¬ ∃ y, x = y ++ ['[', ']']) (hgeneric : ¬ ('<' ∈ v ++ c :: x ∧ ∃ y, x = y ++ ['>'])) :
    hinted s = hinted s' ∨ ShowsEnd c x (hinted s) := by
  obtain ⟨hlisted, hblank, hdot, -⟩ := mark_cases hmark
  have hcloses : ∀ t, ('<' ∈ t ++ c :: x → '<' ∈ v ++ c :: x) → ¬ Closes (t ++ c :: x) := by
    rintro t hopen (⟨item, hitem⟩ | ⟨hopens, front, hfront⟩)
    · rw [List.append_cons] at hitem
      exact harray (end_of_append_of_plain hitem hx (by simp [isMark]))
    · rw [List.append_cons] at hfront
      exact hgeneric ⟨hopen hopens, end_of_append_of_plain hfront hx (by simp [isMark])⟩
  have hopen' : '<' ∈ v' ++ c :: x → '<' ∈ v ++ c :: x := by
    rw [List.mem_append, List.mem_append, ← List.count_pos_iff, ← hcount, List.count_pos_iff]
    exact id
  have hfirst := hs ▸ hcloses v id
  have hsecond := hs' ▸ hcloses v' hopen'
  by_cases hdots : '.' ∈ x
  · have hcut : ∀ {t r}, trim t = r ++ c :: x → ¬ Closes (trim t) → hinted t = hinted (afterLast '.' x) := by
      intro t r ht hcloses
      have hunlisted := not_listed (s := trim t) hlisted (by simp [ht])
      rw [hinted_dotted hunlisted hcloses (by simp [ht, hdots]), ht, List.append_cons,
        afterLast_append_of_mem hdots]
    exact .inl ((hcut hs hfirst).trans (hcut hs' hsecond).symm)
  · right
    have hend : afterLast '.' (trim s) = afterLast '.' v ++ c :: x := by
      rw [hs, afterLast_append_of_not_mem (by simp [hdot, hdots])]
    have hshown : hinted s = trim (afterLast '.' v ++ c :: x) := by
      rw [← hend]
      exact hinted_of_not_closes hfirst hmark (by simp [hend])
    rw [hshown]
    exact ⟨mem_trim (by simp) hblank, hdots, fun hopen => mem_trim (by simp [hopen]) rfl⟩

omit hmark in
/-- Brackets are taken off the ends of both texts. -/
lemma hinted_seam_of_array {s s' v v' y : List Char} (hs : trim s = v ++ c :: (y ++ ['[', ']']))
    (hs' : trim s' = v' ++ c :: (y ++ ['[', ']']))
    (h : hinted (v ++ c :: y) = hinted (v' ++ c :: y) ∨ ShowsEnd c y (hinted (v ++ c :: y))) :
    hinted s = hinted s' ∨ ShowsEnd c (y ++ ['[', ']']) (hinted s) := by
  have hitem : ∀ {t r}, trim t = r ++ c :: (y ++ ['[', ']']) →
      hinted t = "List[".toList ++ hinted (r ++ c :: y) ++ [']'] := by
    intro t r ht
    exact hinted_array (by simp [ht])
  rw [hitem hs, hitem hs']
  exact ShowsEnd.wrapped_or h (keepsEnd_append (by simp) y) _ _

omit hmark in
/-- The first opening bracket of each text is taken off with the closing one at its end. -/
lemma hinted_seam_of_generic {s s' a a' b b' y : List Char} (ha : '<' ∉ a) (ha' : '<' ∉ a')
    (hs : trim s = a ++ '<' :: b ++ c :: (y ++ ['>'])) (hs' : trim s' = a' ++ '<' :: b' ++ c :: (y ++ ['>']))
    (h : hinted (b ++ c :: y) = hinted (b' ++ c :: y) ∨ ShowsEnd c y (hinted (b ++ c :: y))) :
    hinted s = hinted s' ∨ ShowsEnd c (y ++ ['>']) (hinted s) := by
  have helement : ∀ {t a b}, '<' ∉ a → trim t = a ++ '<' :: b ++ c :: (y ++ ['>']) →
      hinted t = "Iterable[".toList ++ hinted (b ++ c :: y) ++ [']'] := by
    intro t a b ha ht
    exact hinted_generic ha (by simp [ht])
  rw [helement ha hs, helement ha' hs']
  exact ShowsEnd.wrapped_or h (keepsEnd_append (by simp) y) _ _

/-- The first opening bracket of both texts stands in the common end. -/
lemma hinted_eq_of_common_opening {s s' v v' y : List Char} (hv : '<' ∉ v) (hv' : '<' ∉ v') (hy : '<' ∈ y)
    (hs : trim s = v ++ c :: (y ++ ['>'])) (hs' : trim s' = v' ++ c :: (y ++ ['>'])) :
    hinted s = hinted s' := by
  obtain ⟨-, -, -, hne⟩ := mark_cases hmark
  obtain ⟨a, b, rfl, ha⟩ := List.eq_append_cons_of_mem hy
  have hcommon : ∀ {t r}, '<' ∉ r → trim t = r ++ c :: (a ++ '<' :: b ++ ['>']) →
      hinted t = "Iterable[".toList ++ hinted b ++ [']'] := by
    intro t r hr ht
    have hopened : trim t = (r ++ c :: a) ++ '<' :: (b ++ ['>']) := by simp [ht]
    exact hinted_generic (by simp [hr, hne, ha]) hopened
  exact (hcommon hv hs).trans (hcommon hv' hs').symm

/-- Two texts that differ before a comma or a closing bracket have the same hint, or the hint shows the
common end. -/
lemma hinted_seam {u u' w : List Char} (hcount : u.count '<' = u'.count '<') (hw : ∃ d ∈ w, IsSegmentChar d) :
    hinted (u ++ c :: w) = hinted (u' ++ c :: w) ∨ ShowsEnd c w (hinted (u ++ c :: w)) := by
  obtain ⟨-, hblank, -, hne⟩ := mark_cases hmark
  -- on the length: each rule takes equal ends, and at most one opening bracket, off both texts
  induction hlength : (u ++ c :: w).length using Nat.strongRecOn generalizing u u' w with
  | ind n ih =>
    have htrim (y : List Char) : trim (y ++ c :: w) = trimLeft y ++ c :: trimRight w :=
      trim_around (z := [c]) (by simp) (by simpa using hblank) y w
    have hs := htrim u
    have hs' := htrim u'
    have hshorter : (trimLeft u ++ c :: trimRight w).length ≤ n := hs ▸ hlength ▸ length_trim_le _
    have hkeeps := keepsEnd_trimRight w
    have hx := hkeeps.exists_plain hw
    rw [← count_trimLeft rfl u, ← count_trimLeft rfl u'] at hcount
    refine Or.imp_right (fun h => ShowsEnd.of_keepsEnd h hkeeps) ?_
    generalize trimLeft u = v at *
    generalize trimLeft u' = v' at *
    generalize trimRight w = x at *
    by_cases harray : ∃ y, x = y ++ ['[', ']']
    · obtain ⟨y, rfl⟩ := harray
      have hy := (keepsEnd_append (by simp) y).exists_plain hx
      refine hinted_seam_of_array hs hs' (ih _ ?_ hcount hy rfl)
      simp only [List.length_append, List.length_cons] at hshorter ⊢
      omega
    by_cases hgeneric : '<' ∈ v ++ c :: x ∧ ∃ y, x = y ++ ['>']
    · obtain ⟨hopen, y, rfl⟩ := hgeneric
      have hy := (keepsEnd_append (by simp) y).exists_plain hx
      by_cases hv : '<' ∈ v
      · obtain ⟨a, b, a', b', rfl, ha, rfl, ha', hcount⟩ := exists_openings hcount hv
        refine hinted_seam_of_generic ha ha' hs hs' (ih _ ?_ hcount hy rfl)
        simp only [List.length_append, List.length_cons] at hshorter ⊢
        omega
      · have hv' : '<' ∉ v' := List.count_eq_zero.1 (hcount ▸ List.count_eq_zero.2 hv)
        have hmem : '<' ∈ y := by simpa [hv, hne] using hopen
        exact .inl (hinted_eq_of_common_opening hmark hv hv' hmem hs hs')
    · exact hinted_seam_of_no_end hmark hs hs' hcount hx harray hgeneric

end Seam

end BindingDocs.Vocabulary
