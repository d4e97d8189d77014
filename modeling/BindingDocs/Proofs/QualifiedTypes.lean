import BindingDocs.Proofs.VocabularyRules
import BindingDocs.Vocabulary.Tables

/-! Types of script declarations with and without a geometry qualifier. The two spellings of a type are
declared alike, but for the array and the sequence that have a spelling of their own in the table. -/
namespace BindingDocs.Vocabulary
open BindingDocs.Text

lemma dropsOnlyText_declared : declared.DropsOnlyText := by
  intro names hnames
  cases hnames
  decide +kernel

/-- The declaration of the type that a text spells. -/
abbrev declaration (type : List Char) : String := declared.spell (String.ofList type)

lemma declaration_eq_of_trim {s t : List Char} (h : trim s = trim t) : declaration s = declaration t :=
  spell_eq_of_trim dropsOnlyText_declared h

lemma declaration_wrapped {type rest : List Char} {w : Wrapping}
    (h : declared.rule type = .wrapped w rest) : declaration type = w.wrap (declaration rest) := by
  rw [declaration, spell_eq dropsOnlyText_declared, h, RuleOutcome.finish]

lemma listed_arrays : ∀ name ∈ declared.listedNames, ['[', ']'].isSuffixOf name.toList = true →
    name = "Color[]" ∨ name = "Vector3d[]" := by decide +kernel

lemma listed_generics : ∀ name ∈ declared.listedNames, ['>'].isSuffixOf name.toList = true →
    name.toList = "System.Collections.Generic.IEnumerable".toList ++ '<' :: ("Point3d".toList ++ ['>']) := by
  decide +kernel

lemma item_of_listed {item : List Char}
    (h : String.ofList (item ++ ['[', ']']) ∈ declared.listedNames) :
    item = "Color".toList ∨ item = "Vector3d".toList := by
  have hsuffix : ['[', ']'].isSuffixOf (String.ofList (item ++ ['[', ']'])).toList = true := by
    rw [String.toList_ofList, List.isSuffixOf_iff_suffix]
    exact List.suffix_append _ _
  refine (listed_arrays _ h hsuffix).imp (fun hname => ?_) (fun hname => ?_)
  all_goals
    rw [← String.toList_inj, String.toList_ofList] at hname
    exact List.append_cancel_right hname

/-- An array is declared by its elements, but for the array of vectors. -/
lemma declaration_array {item : List Char} (h : trimLeft item ≠ "Vector3d".toList) :
    declaration (item ++ ['[', ']']) = declaration item ++ "[]" := by
  have htrim : trim (item ++ ['[', ']']) = trimLeft item ++ ['[', ']'] :=
    trim_append item ⟨'[', rfl, rfl⟩ ⟨']', rfl, rfl⟩
  rw [← declaration_eq_of_trim (trim_trimLeft item)]
  by_cases hlisted : String.ofList (trim (item ++ ['[', ']'])) ∈ declared.listedNames
  · rw [htrim] at hlisted
    have hcolor := (item_of_listed hlisted).resolve_right h
    have hsame : trim (item ++ ['[', ']']) = trim "Color[]".toList := by
      rw [htrim, hcolor]
      decide
    rw [declaration_eq_of_trim hsame, hcolor]
    decide +kernel
  · rw [declaration_wrapped (rule_of_array hlisted htrim)]
    simp [Wrapping.wrap, declared]

/-- A sequence that is not listed is declared by its elements. -/
lemma declaration_sequence {head element : List Char} (hhead : Sequences.enumerable.Heads head)
    (hlisted : String.ofList (head ++ '<' :: (element ++ ['>'])) ∉ declared.listedNames) :
    declaration (head ++ '<' :: (element ++ ['>'])) = declaration element ++ "[]" := by
  have hlast : head ++ '<' :: (element ++ ['>']) = (head ++ '<' :: element) ++ ['>'] := by simp
  have htrim : trim (head ++ '<' :: (element ++ ['>'])) = head ++ '<' :: (element ++ ['>']) := by
    apply trim_eq_self
    · rcases hhead with rfl | rfl <;> simp [isBlank]
    · rw [hlast, List.getLast?_concat]
      simp [isBlank]
  have helement : declared.element? (head ++ '<' :: (element ++ ['>'])) = some element :=
    element?_eq_some_iff.2 ⟨head, hhead, rfl⟩
  rw [← htrim] at hlisted helement
  rw [declaration_wrapped (rule_of_element hlisted helement)]
  simp [Wrapping.wrap, declared]

lemma sequence_of_listed {head element : List Char}
    (h : String.ofList (head ++ '<' :: (element ++ ['>'])) ∈ declared.listedNames) :
    head ++ '<' :: (element ++ ['>']) =
      "System.Collections.Generic.IEnumerable".toList ++ '<' :: ("Point3d".toList ++ ['>']) := by
  have hsuffix : ['>'].isSuffixOf (String.ofList (head ++ '<' :: (element ++ ['>']))).toList = true := by
    rw [String.toList_ofList, List.isSuffixOf_iff_suffix]
    exact ⟨head ++ '<' :: element, by simp⟩
  rw [← listed_generics _ h hsuffix, String.toList_ofList]

lemma declaration_short (element : List Char) :
    declaration ("IEnumerable".toList ++ '<' :: (element ++ ['>'])) = declaration element ++ "[]" := by
  apply declaration_sequence (.inl rfl)
  intro hlisted
  simpa using congrArg List.head? (sequence_of_listed hlisted)

lemma declaration_long {element : List Char} (h : element ≠ "Point3d".toList) :
    declaration ("System.Collections.Generic.IEnumerable".toList ++ '<' :: (element ++ ['>'])) =
      declaration element ++ "[]" := by
  apply declaration_sequence (.inr rfl)
  intro hlisted
  have hrest := List.append_cancel_left (sequence_of_listed hlisted)
  exact h (List.append_cancel_right (List.cons.inj hrest).2)

/-- Blanks and pairs of brackets. -/
inductive Ranks : List Char → Prop
  | none : Ranks []
  | blank {s : List Char} {c : Char} (rest : Ranks s) (h : isBlank c = true) : Ranks (s ++ [c])
  | array {s : List Char} (rest : Ranks s) : Ranks (s ++ ['[', ']'])

/-- An array of vectors, of any rank, in the spelling of the table. -/
def IsVectorArray (t : List Char) : Prop :=
  ∃ lead tail, (∀ c ∈ lead, isBlank c = true) ∧ Ranks tail ∧ t = lead ++ "Vector3d[]".toList ++ tail

namespace IsVectorArray

lemma concat_blank {t : List Char} (h : IsVectorArray t) {c : Char} (hc : isBlank c = true) :
    IsVectorArray (t ++ [c]) := by
  obtain ⟨lead, tail, hlead, htail, rfl⟩ := h
  exact ⟨lead, tail ++ [c], hlead, htail.blank hc, List.append_assoc _ _ _⟩

lemma array {t : List Char} (h : IsVectorArray t) : IsVectorArray (t ++ ['[', ']']) := by
  obtain ⟨lead, tail, hlead, htail, rfl⟩ := h
  exact ⟨lead, tail ++ ['[', ']'], hlead, htail.array, List.append_assoc _ _ _⟩

lemma of_vector {item : List Char} (h : trimLeft item = "Vector3d".toList) :
    IsVectorArray (item ++ ['[', ']']) := by
  refine ⟨item.takeWhile isBlank, [], fun c hc => List.mem_takeWhile_imp hc, .none, ?_⟩
  have hitem : item = item.takeWhile isBlank ++ "Vector3d".toList := by
    rw [← h, trimLeft, List.takeWhile_append_dropWhile]
  conv_lhs => rw [hitem]
  rw [List.append_nil, List.append_assoc]
  rfl

lemma mem {t : List Char} (h : IsVectorArray t) {c : Char} (hc : c ∈ "Vector3d[]".toList) : c ∈ t := by
  obtain ⟨lead, tail, -, -, rfl⟩ := h
  exact List.mem_append_left tail (List.mem_append_right lead hc)

lemma ends {t : List Char} (h : IsVectorArray t) :
    (∃ x, t = x ++ ['[', ']']) ∨ ∃ x c, t = x ++ [c] ∧ isBlank c = true := by
  obtain ⟨lead, tail, -, htail, rfl⟩ := h
  cases htail with
  | none => exact .inl ⟨lead ++ "Vector3d".toList, by simp⟩
  | blank _ hc => exact .inr ⟨_, _, (List.append_assoc _ _ _).symm, hc⟩
  | array _ => exact .inl ⟨_, (List.append_assoc _ _ _).symm⟩

end IsVectorArray

/-- What blanks and brackets behind an array add to its declaration. -/
lemma declaration_ranks {tail : List Char} (h : Ranks tail) :
    ∃ suffix : String, ∀ s, '[' ∈ s → declaration (s ++ tail) = declaration s ++ suffix := by
  induction h with
  | none => exact ⟨"", fun s _ => by simp⟩
  | @blank tail c _ hc ih =>
    obtain ⟨suffix, hsuffix⟩ := ih
    refine ⟨suffix, fun s hs => ?_⟩
    rw [← List.append_assoc, declaration_eq_of_trim (trim_concat_blank (s ++ tail) hc), hsuffix s hs]
  | @array tail _ ih =>
    obtain ⟨suffix, hsuffix⟩ := ih
    refine ⟨suffix ++ "[]", fun s hs => ?_⟩
    have hvector : trimLeft (s ++ tail) ≠ "Vector3d".toList := by
      intro hvector
      have hmem := mem_trimLeft (List.mem_append_left tail hs) (rfl : isBlank '[' = false)
      rw [hvector] at hmem
      simp at hmem
    rw [← List.append_assoc, declaration_array hvector, hsuffix s hs, String.append_assoc]

lemma trim_blanks_append {lead : List Char} (h : ∀ c ∈ lead, isBlank c = true) (s : List Char) :
    trim (lead ++ s) = trim s := by
  induction lead with
  | nil => rfl
  | cons c lead ih =>
    obtain ⟨hc, hlead⟩ := List.forall_mem_cons.1 h
    rw [List.cons_append, trim_cons_blank _ hc, ih hlead]

lemma not_prefix_listed : ∀ q ∈ geometryQualifiers, ∀ name ∈ declared.listedNames,
    q.toList.isPrefixOf name.toList = false := by decide +kernel

/-- What one qualifier has more than another is a qualifier. -/
lemma rest_of_qualifier : ∀ q ∈ geometryQualifiers, ∀ p ∈ geometryQualifiers,
    q.toList.isPrefixOf p.toList = true →
      p = q ∨ String.ofList (p.toList.drop q.toList.length) ∈ geometryQualifiers := by decide

lemma qualifier_ends : ∀ q ∈ geometryQualifiers,
    q.toList.head?.any (fun c => !isBlank c && decide (c ∉ ['V', 'P', 'I', 'S'])) = true ∧
      q.toList.getLast? = some '.' := by decide

section
variable {q : String} (hq : q ∈ geometryQualifiers)
include hq

lemma exists_qualifier_cons : ∃ c r, q.toList = c :: r ∧ isBlank c = false ∧ c ∉ ['V', 'P', 'I', 'S'] := by
  obtain ⟨hfirst, -⟩ := qualifier_ends q hq
  cases hchars : q.toList with
  | nil => simp [hchars] at hfirst
  | cons c r =>
    rw [hchars, List.head?_cons, Option.any_some, Bool.and_eq_true, Bool.not_eq_true',
      decide_eq_true_eq] at hfirst
    exact ⟨c, r, rfl, hfirst⟩

lemma trimLeft_qualified (t : List Char) : trimLeft (q.toList ++ t) = q.toList ++ t := by
  obtain ⟨c, r, hqualifier, hblank, -⟩ := exists_qualifier_cons hq
  rw [hqualifier]
  exact List.dropWhile_cons_of_neg (by simp [hblank])

lemma trim_qualified {t : List Char} (ht : ∀ c ∈ t.getLast?, isBlank c = false) :
    trim (q.toList ++ t) = q.toList ++ t := by
  obtain ⟨-, hlast⟩ := qualifier_ends q hq
  rw [trim, trimLeft_qualified hq, trimRight, dropWhile_isBlank_of_head, List.reverse_reverse]
  intro c hc
  rw [List.head?_reverse, List.getLast?_append, hlast] at hc
  cases hend : t.getLast? with
  | none =>
    rw [hend] at hc
    cases hc
    rfl
  | some d =>
    rw [hend] at hc
    cases hc
    exact ht c hend

lemma trimLeft_qualified_ne (t : List Char) : trimLeft (q.toList ++ t) ≠ "Vector3d".toList := by
  obtain ⟨c, r, hqualifier, -, hfirst⟩ := exists_qualifier_cons hq
  rw [trimLeft_qualified hq, hqualifier]
  intro heq
  have hc : c = 'V' := by simpa using congrArg List.head? heq
  simp [hc] at hfirst

lemma not_listed_qualified (t : List Char) : String.ofList (q.toList ++ t) ∉ declared.listedNames := by
  intro hlisted
  have hprefix := not_prefix_listed q hq _ hlisted
  rw [String.toList_ofList, ← Bool.not_eq_true, List.isPrefixOf_iff_prefix] at hprefix
  exact hprefix (List.prefix_append _ _)

lemma element?_qualified (t : List Char) : declared.element? (q.toList ++ t) = none := by
  obtain ⟨c, r, hqualifier, -, hfirst⟩ := exists_qualifier_cons hq
  refine Option.eq_none_iff_forall_ne_some.2 fun element helement => ?_
  obtain ⟨head, hhead, htext⟩ := element?_eq_some_iff.1 helement
  rw [hqualifier] at htext
  rcases hhead with rfl | rfl
  · have hc : c = 'I' := by simpa using congrArg List.head? htext
    simp [hc] at hfirst
  · have hc : c = 'S' := by simpa using congrArg List.head? htext
    simp [hc] at hfirst

/-- The last character of a qualifier is no bracket, so the brackets at the end belong to the type. -/
lemma dropEnd?_qualified {t : List Char} (h : ∀ item, t ≠ item ++ ['[', ']']) :
    dropEnd? ['[', ']'] (q.toList ++ t) = none := by
  obtain ⟨-, hlast⟩ := qualifier_ends q hq
  obtain ⟨front, hfront⟩ := List.getLast?_eq_some_iff.1 hlast
  refine Option.eq_none_iff_forall_ne_some.2 fun item hitem => ?_
  rw [dropEnd?_eq_some_iff, List.append_eq_append_iff] at hitem
  rcases hitem with ⟨a, -, ht⟩ | ⟨a, hqualifier, hbrackets⟩
  · exact h a ht
  · rw [hfront] at hqualifier
    rcases List.eq_nil_or_concat a with rfl | ⟨init, c, rfl⟩
    · exact h [] (by simpa using hbrackets.symm)
    · rw [List.concat_eq_append, ← List.append_assoc] at hqualifier
      have hdot := (List.append_inj' hqualifier rfl).2
      have hmem : c ∈ ['[', ']'] := by rw [hbrackets]; simp
      cases hdot
      simp at hmem

/-- A qualifier is dropped. A longer one may take the beginning of the type with it, and a shorter one
may leave a qualifier in front. -/
lemma unqualified?_qualified (t : List Char) :
    ∃ rest, declared.unqualified? (q.toList ++ t) = some rest ∧
      (rest = t ∨ ∃ p ∈ geometryQualifiers, t = p.toList ++ rest ∨
        (rest = p.toList ++ t ∧ p.toList.length < q.toList.length)) := by
  have hsome : (geometryQualifiers.findSome? fun p => dropStart? p.toList (q.toList ++ t)).isSome = true := by
    rw [List.findSome?_isSome_iff]
    exact ⟨q, hq, by rw [dropStart?_eq_some_iff.2 rfl]; rfl⟩
  obtain ⟨rest, hrest⟩ := Option.isSome_iff_exists.1 hsome
  refine ⟨rest, hrest, ?_⟩
  obtain ⟨p, hp, hstart⟩ := List.exists_of_findSome?_eq_some hrest
  rw [dropStart?_eq_some_iff, List.append_eq_append_iff] at hstart
  rcases hstart with ⟨a, hpq, ht⟩ | ⟨a, hqp, hr⟩
  · rcases rest_of_qualifier q hq p hp (List.isPrefixOf_iff_prefix.2 ⟨a, hpq.symm⟩) with rfl | hmore
    · left
      have ha : a = [] := by simpa using hpq
      simpa [ha] using ht.symm
    · refine .inr ⟨_, hmore, .inl ?_⟩
      rw [hpq, List.drop_left, String.toList_ofList, ht]
  · rcases rest_of_qualifier p hp q hq (List.isPrefixOf_iff_prefix.2 ⟨a, hqp.symm⟩) with rfl | hmore
    · left
      have ha : a = [] := by simpa using hqp
      simpa [ha] using hr
    · refine .inr ⟨_, hmore, .inr ?_⟩
      obtain ⟨c, r, hcons, -⟩ := exists_qualifier_cons hp
      rw [hqp, List.drop_left, String.toList_ofList, List.length_append, hcons, List.length_cons]
      exact ⟨hr, by omega⟩

end

/-- A qualified type is declared as the type without its qualifier. -/
lemma declaration_qualified {q : String} (hq : q ∈ geometryQualifiers) {t : List Char}
    (h : ¬ IsVectorArray t) : declaration (q.toList ++ t) = declaration t := by
  -- on the length of the whole text: brackets and blanks are taken off the end first
  induction hlength : (q.toList ++ t).length using Nat.strongRecOn generalizing q t with
  | ind n ih =>
    subst hlength
    by_cases hblank : ∃ x c, t = x ++ [c] ∧ isBlank c = true
    · obtain ⟨x, c, rfl, hc⟩ := hblank
      have hx : declaration (q.toList ++ x) = declaration x :=
        ih _ (by simp) hq (fun hx => h (hx.concat_blank hc)) rfl
      rw [← List.append_assoc, declaration_eq_of_trim (trim_concat_blank _ hc), hx,
        declaration_eq_of_trim (trim_concat_blank x hc)]
    by_cases harray : ∃ x, t = x ++ ['[', ']']
    · obtain ⟨x, rfl⟩ := harray
      have hx : declaration (q.toList ++ x) = declaration x :=
        ih _ (by simp) hq (fun hx => h hx.array) rfl
      have hvector : trimLeft x ≠ "Vector3d".toList := fun hvector => h (.of_vector hvector)
      rw [← List.append_assoc, declaration_array (trimLeft_qualified_ne hq x), hx,
        declaration_array hvector]
    have htrim : trim (q.toList ++ t) = q.toList ++ t :=
      trim_qualified hq fun c hc => by
        obtain ⟨x, rfl⟩ := List.getLast?_eq_some_iff.1 hc
        exact Bool.not_eq_true _ ▸ fun hc => hblank ⟨x, c, rfl, hc⟩
    obtain ⟨rest, hrest, hparts⟩ := unqualified?_qualified hq t
    have hlisted := not_listed_qualified hq t
    have hbrackets := dropEnd?_qualified hq (not_exists.1 harray)
    have helement := element?_qualified hq t
    rw [← htrim] at hlisted hbrackets helement hrest
    rw [declaration_wrapped (rule_of_unqualified hlisted hbrackets helement hrest), Wrapping.wrap_bare]
    rcases hparts with rfl | ⟨p, hp, rfl | ⟨rfl, hshorter⟩⟩
    · rfl
    · obtain ⟨c, r, hcons, -⟩ := exists_qualifier_cons hq
      have hshorter : (p.toList ++ rest).length < (q.toList ++ (p.toList ++ rest)).length := by
        simp only [hcons, List.length_append, List.length_cons]
        omega
      refine (ih _ hshorter hp (fun hvector => ?_) rfl).symm
      rcases hvector.ends with ⟨x, rfl⟩ | ⟨x, c, rfl, hc⟩
      · exact harray ⟨_, (List.append_assoc _ _ _).symm⟩
      · exact hblank ⟨_, c, (List.append_assoc _ _ _).symm, hc⟩
    · refine ih _ ?_ hp h rfl
      simpa using hshorter

/-- An array of vectors is declared in two ways. -/
lemma declaration_qualified_ne {q : String} (hq : q ∈ geometryQualifiers) {t : List Char}
    (h : IsVectorArray t) : declaration (q.toList ++ t) ≠ declaration t := by
  obtain ⟨lead, tail, hlead, htail, rfl⟩ := h
  obtain ⟨suffix, hsuffix⟩ := declaration_ranks htail
  have hplain : declaration (lead ++ "Vector3d[]".toList) = "any[]" := by
    rw [declaration_eq_of_trim (trim_blanks_append hlead _)]
    decide +kernel
  have hvector : ¬ IsVectorArray (lead ++ "Vector3d".toList) := by
    intro hvector
    rcases List.mem_append.1 (hvector.mem (by simp : '[' ∈ _)) with hmem | hmem
    · exact Bool.false_ne_true (hlead _ hmem)
    · simp at hmem
  have hqualified : declaration (q.toList ++ (lead ++ "Vector3d[]".toList)) = "number[][]" := by
    have hitem : q.toList ++ (lead ++ "Vector3d[]".toList) =
        (q.toList ++ (lead ++ "Vector3d".toList)) ++ ['[', ']'] := by simp
    rw [hitem, declaration_array (trimLeft_qualified_ne hq _), declaration_qualified hq hvector,
      declaration_eq_of_trim (trim_blanks_append hlead _)]
    decide +kernel
  rw [← List.append_assoc, hsuffix _ (by simp), hsuffix _ (by simp), hplain, hqualified]
  intro heq
  have hchars := congrArg String.toList heq
  rw [String.toList_append, String.toList_append] at hchars
  simpa using List.append_cancel_right hchars

lemma declaration_qualified_iff {q : String} (hq : q ∈ geometryQualifiers) {t : List Char} :
    declaration (q.toList ++ t) = declaration t ↔ ¬ IsVectorArray t :=
  ⟨fun heq h => declaration_qualified_ne hq h heq, declaration_qualified hq⟩

/-- What a type may be the element of. -/
inductive Nesting where
  | array
  | sequence
  | qualifiedSequence
  deriving DecidableEq

def Nesting.wrapping : Nesting → Wrapping
  | array => ⟨"", "[]"⟩
  | sequence => ⟨"IEnumerable<", ">"⟩
  | qualifiedSequence => ⟨"System.Collections.Generic.IEnumerable<", ">"⟩

/-- A type inside arrays and sequences, the outermost of them first. -/
def nestedType (ns : List Nesting) (type : String) : String :=
  ns.foldr (fun n t => n.wrapping.wrap t) type

/-- The table has a spelling for the type or for the array or sequence directly around it, and only
in the form without a qualifier. -/
def HasOwnSpelling (ns : List Nesting) (type : String) : Prop :=
  IsVectorArray type.toList ∨
    (ns.getLast? = some .array ∧ IsVectorArray (type.toList ++ ['[', ']'])) ∨
    (ns.getLast? = some .qualifiedSequence ∧ type = "Point3d")

/-- The chars of a declaration are compared without what is written behind both. -/
lemma append_brackets_inj {a b : String} : a ++ "[]" = b ++ "[]" ↔ a = b := by
  constructor
  · intro h
    have hchars := congrArg String.toList h
    rw [String.toList_append, String.toList_append] at hchars
    exact String.toList_inj.1 (List.append_cancel_right hchars)
  · rintro rfl
    rfl

lemma spell_eq_declaration (type : String) : declared.spell type = declaration type.toList := by
  rw [declaration, String.ofList_toList]

/-- A type around another is declared by its element, unless it is listed. -/
lemma spell_wrap {n : Nesting} {type : String}
    (harray : n = .array → trimLeft type.toList ≠ "Vector3d".toList)
    (hsequence : n = .qualifiedSequence → type ≠ "Point3d") :
    declared.spell (n.wrapping.wrap type) = declared.spell type ++ "[]" := by
  rw [spell_eq_declaration, spell_eq_declaration]
  cases n with
  | array =>
    have hchars : (Nesting.array.wrapping.wrap type).toList = type.toList ++ ['[', ']'] := by
      simp [Nesting.wrapping, Wrapping.wrap]
    rw [hchars, declaration_array (harray rfl)]
  | sequence =>
    have hchars : (Nesting.sequence.wrapping.wrap type).toList =
        "IEnumerable".toList ++ '<' :: (type.toList ++ ['>']) := by
      simp [Nesting.wrapping, Wrapping.wrap]
    rw [hchars, declaration_short]
  | qualifiedSequence =>
    have hchars : (Nesting.qualifiedSequence.wrapping.wrap type).toList =
        "System.Collections.Generic.IEnumerable".toList ++ '<' :: (type.toList ++ ['>']) := by
      simp [Nesting.wrapping, Wrapping.wrap]
    have hpoint : type.toList ≠ "Point3d".toList := fun h => hsequence rfl (String.toList_inj.1 h)
    rw [hchars, declaration_long hpoint]

lemma nestedType_cons (n : Nesting) (ns : List Nesting) (type : String) :
    nestedType (n :: ns) type = n.wrapping.wrap (nestedType ns type) := rfl

lemma mark_mem_wrap (n : Nesting) (type : String) :
    ∃ c ∈ ['[', '<'], c ∈ (n.wrapping.wrap type).toList := by
  cases n <;> simp [Nesting.wrapping, Wrapping.wrap]

/-- Around an array or a sequence nothing is listed. -/
lemma spell_wrap_wrap (n m : Nesting) (type : String) :
    declared.spell (n.wrapping.wrap (m.wrapping.wrap type)) =
      declared.spell (m.wrapping.wrap type) ++ "[]" := by
  obtain ⟨c, hc, hmem⟩ := mark_mem_wrap m type
  apply spell_wrap
  · intro _ hvector
    have hblank : isBlank c = false := by
      simp only [List.mem_cons, List.not_mem_nil, or_false] at hc
      rcases hc with rfl | rfl <;> rfl
    have hmem := mem_trimLeft hmem hblank
    rw [hvector] at hmem
    simp only [List.mem_cons, List.not_mem_nil, or_false] at hc
    rcases hc with rfl | rfl <;> simp at hmem
  · intro _ hpoint
    rw [hpoint] at hmem
    simp only [List.mem_cons, List.not_mem_nil, or_false] at hc
    rcases hc with rfl | rfl <;> simp at hmem

/-- Around a qualified type nothing is listed. -/
lemma spell_wrap_qualified {q : String} (hq : q ∈ geometryQualifiers) (n : Nesting) (type : String) :
    declared.spell (n.wrapping.wrap (q ++ type)) = declared.spell (q ++ type) ++ "[]" := by
  apply spell_wrap
  · intro _
    rw [String.toList_append]
    exact trimLeft_qualified_ne hq type.toList
  · intro _ hpoint
    obtain ⟨c, r, hqualifier, -, hfirst⟩ := exists_qualifier_cons hq
    have hchars := congrArg (·.toList.head?) hpoint
    have hc : c = 'P' := by simpa [hqualifier] using hchars
    simp [hc] at hfirst

lemma spell_qualified_iff {q : String} (hq : q ∈ geometryQualifiers) (type : String) :
    declared.spell (q ++ type) = declared.spell type ↔ ¬ IsVectorArray type.toList := by
  rw [spell_eq_declaration, spell_eq_declaration, String.toList_append, declaration_qualified_iff hq]

/-- One array or sequence around a type. -/
lemma spell_wrap_qualified_iff {q : String} (hq : q ∈ geometryQualifiers) (n : Nesting) (type : String) :
    declared.spell (n.wrapping.wrap (q ++ type)) = declared.spell (n.wrapping.wrap type) ↔
      ¬ HasOwnSpelling [n] type := by
  cases n with
  | array =>
    have hwrap (t : String) : Nesting.array.wrapping.wrap t = t ++ "[]" := by
      simp [Nesting.wrapping, Wrapping.wrap]
    have hchars : (type ++ "[]").toList = type.toList ++ ['[', ']'] := by simp
    rw [hwrap, hwrap, String.append_assoc, spell_qualified_iff hq, hchars]
    refine not_congr ⟨fun h => .inr (.inl ⟨rfl, h⟩), ?_⟩
    rintro (h | ⟨-, h⟩ | ⟨h, -⟩)
    · exact h.array
    · exact h
    · cases h
  | sequence =>
    rw [spell_wrap_qualified hq, spell_wrap (by simp) (by simp), append_brackets_inj,
      spell_qualified_iff hq]
    simp [HasOwnSpelling]
  | qualifiedSequence =>
    by_cases hpoint : type = "Point3d"
    · subst hpoint
      have hlisted : declared.spell (Nesting.qualifiedSequence.wrapping.wrap "Point3d") = "Point3dList" := by
        decide +kernel
      have hvector : ¬ IsVectorArray "Point3d".toList := fun h => by
        simpa using h.mem (by simp : '[' ∈ _)
      have hplain : declared.spell (q ++ "Point3d") = "number[]" := by
        rw [(spell_qualified_iff hq "Point3d").2 hvector]
        decide +kernel
      rw [spell_wrap_qualified hq, hplain, hlisted]
      simp [HasOwnSpelling]
    · rw [spell_wrap_qualified hq, spell_wrap (by simp) (fun _ => hpoint), append_brackets_inj,
        spell_qualified_iff hq]
      simp [HasOwnSpelling, hpoint]

/-- The table entries for compound types are the only ones that tell a type from its qualified form. -/
theorem qualifier_is_redundant_iff {q : String} (hq : q ∈ geometryQualifiers) (ns : List Nesting)
    (type : String) :
    declared.spell (nestedType ns (q ++ type)) = declared.spell (nestedType ns type) ↔
      ¬ HasOwnSpelling ns type := by
  induction ns with
  | nil =>
    rw [nestedType, nestedType, List.foldr_nil, List.foldr_nil, spell_qualified_iff hq]
    simp [HasOwnSpelling]
  | cons n ns ih =>
    cases ns with
    | nil => exact spell_wrap_qualified_iff hq n type
    | cons m ns =>
      rw [nestedType_cons, nestedType_cons, nestedType_cons, nestedType_cons, spell_wrap_wrap, spell_wrap_wrap,
        append_brackets_inj, ← nestedType_cons, ← nestedType_cons, ih]
      simp [HasOwnSpelling, List.getLast?_cons_cons]

theorem qualifier_is_redundant_iff_curves :
    "Rhino.Geometry." ∈ geometryQualifiers ∧ ¬ HasOwnSpelling [.qualifiedSequence, .array] "Curve" ∧
      declared.spell "System.Collections.Generic.IEnumerable<Rhino.Geometry.Curve[]>" =
        declared.spell "System.Collections.Generic.IEnumerable<Curve[]>" := by
  have hq : "Rhino.Geometry." ∈ geometryQualifiers := by decide
  have hcurve : ¬ HasOwnSpelling [.qualifiedSequence, .array] "Curve" := by
    rintro (h | ⟨-, h⟩ | ⟨h, -⟩)
    · simpa using h.mem (by simp : 'V' ∈ _)
    · simpa using h.mem (by simp : 'V' ∈ _)
    · cases h
  exact ⟨hq, hcurve, (qualifier_is_redundant_iff hq [.qualifiedSequence, .array] "Curve").2 hcurve⟩

/-- An array of vectors is listed without a qualifier, and with one it is declared by its elements. -/
theorem qualifier_changes_declaration :
    ¬ ∀ q ∈ geometryQualifiers, ∀ type, declared.spell (q ++ type) = declared.spell type := by
  intro h
  have hvectors := h "Rhino.Geometry." (by decide) "Vector3d[]"
  revert hvectors
  decide +kernel

end BindingDocs.Vocabulary
