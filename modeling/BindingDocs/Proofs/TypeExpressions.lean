import BindingDocs.Proofs.VocabularyRules
import BindingDocs.Vocabulary.Tables

/-! Type expressions: the rules of a vocabulary, which look at the ends and the first marks of a text,
follow the structure of the type that the text spells. -/
namespace BindingDocs
open BindingDocs.Text

/-- The characters around the segments of names. -/
def isMark (c : Char) : Bool := ['.', '<', '>', '[', ']'].contains c

/-- The characters of segments. -/
def IsSegmentChar (c : Char) : Prop := isBlank c = false ∧ isMark c = false

/-- A segment of a dotted name: a text without blanks and marks. -/
@[ext] structure Segment where
  text : String
  plain : ∀ c ∈ text.toList, IsSegmentChar c
  deriving DecidableEq

/-- The segments of a path, with a dot after each. -/
def pathChars : List Segment → List Char
  | [] => []
  | s :: path => s.text.toList ++ '.' :: pathChars path

structure DottedName where
  path : List Segment
  last : Segment

namespace DottedName

def chars (n : DottedName) : List Char := pathChars n.path ++ n.last.text.toList

/-- A name without a path in front of it. -/
def without? (n : DottedName) (q : List Segment) : Option DottedName :=
  if q.isPrefixOf n.path then some ⟨n.path.drop q.length, n.last⟩ else none

end DottedName

/-- A type: a name, an array or a generic type with one argument. -/
inductive TypeExpr where
  | name (n : DottedName)
  | array (item : TypeExpr)
  | generic (n : DottedName) (argument : TypeExpr)

namespace TypeExpr

def chars : TypeExpr → List Char
  | name n => n.chars
  | array item => item.chars ++ ['[', ']']
  | generic n argument => n.chars ++ '<' :: (argument.chars ++ ['>'])

def spelling (t : TypeExpr) : String := String.ofList t.chars

/-- The number of dots and of constructors. -/
def size : TypeExpr → Nat
  | name n => n.path.length
  | array item => item.size + 1
  | generic n argument => n.path.length + argument.size + 1

end TypeExpr

/-- How a name loses what stands in front of its last segment. -/
inductive Shortening where
  /-- The first of these paths that the name begins with is left out. -/
  | listed (paths : List (List Segment)) (nonempty : [] ∉ paths)
  /-- All segments but the last are left out. -/
  | toLast

namespace Shortening

def shorten? : Shortening → DottedName → Option DottedName
  | listed paths _, n => paths.findSome? n.without?
  | toLast, n => if n.path = [] then none else some ⟨[], n.last⟩

def qualifiers : Shortening → Qualifiers
  | listed paths _ => .listed (paths.map fun q => String.ofList (pathChars q))
  | toLast => .wholePath

lemma length_shorten? {r : Shortening} {n m : DottedName} (h : r.shorten? n = some m) :
    m.path.length < n.path.length := by
  cases r with
  | listed paths nonempty =>
    obtain ⟨q, hq, hm⟩ := List.exists_of_findSome?_eq_some h
    rw [DottedName.without?] at hm
    split at hm
    · rename_i hstart
      have hle := (List.isPrefixOf_iff_prefix.1 hstart).length_le
      have hpos : 0 < q.length := List.length_pos_of_ne_nil fun hnil => nonempty (hnil ▸ hq)
      cases hm
      rw [List.length_drop]
      omega
    · cases hm
  | toLast =>
    rw [shorten?] at h
    split at h
    · cases h
    · rename_i hpath
      cases h
      exact List.length_pos_of_ne_nil hpath

end Shortening

/-- The generic types that are sequences. -/
def Sequences.takes : Sequences → DottedName → Bool
  | enumerable, n =>
    ["IEnumerable", "System.Collections.Generic.IEnumerable"].contains (String.ofList n.chars)
  | anyGeneric, _ => true

namespace Vocabulary

/-- The spelling of a type by the structure of the type. -/
def translate (v : Vocabulary) (r : Shortening) (t : TypeExpr) : String :=
  match v.listed? t.spelling with
  | some s => s
  | none => match t with
    | .array item => v.array.wrap (v.translate r item)
    | .generic n argument =>
      if v.sequences.takes n then v.sequence.wrap (v.translate r argument)
      else match _h : r.shorten? n with
        | some m => v.translate r (.generic m argument)
        | none => (TypeExpr.generic n argument).spelling
    | .name n => match _h : r.shorten? n with
      | some m => v.translate r (.name m)
      | none => (TypeExpr.name n).spelling
termination_by t.size
decreasing_by
  · exact Nat.lt_succ_self _
  · simp only [TypeExpr.size]
    omega
  · have hshorter := Shortening.length_shorten? _h
    simp only [TypeExpr.size]
    omega
  · exact Shortening.length_shorten? _h

section Translation
variable {v : Vocabulary} {r : Shortening} {t : TypeExpr} {n : DottedName}

lemma translate_listed {s : String} (hs : v.listed? t.spelling = some s) :
    v.translate r t = s := by
  rw [translate.eq_def, hs]

lemma translate_array (hs : v.listed? (TypeExpr.array t).spelling = none) :
    v.translate r (.array t) = v.array.wrap (v.translate r t) := by
  rw [translate.eq_def, hs]

lemma translate_name (hs : v.listed? (TypeExpr.name n).spelling = none) :
    v.translate r (.name n) =
      (r.shorten? n).elim (TypeExpr.name n).spelling fun m => v.translate r (.name m) := by
  rw [translate.eq_def, hs]
  dsimp only
  split <;> rename_i hm <;> rw [hm] <;> rfl

lemma translate_sequence (hs : v.listed? (TypeExpr.generic n t).spelling = none)
    (hn : v.sequences.takes n = true) :
    v.translate r (.generic n t) = v.sequence.wrap (v.translate r t) := by
  rw [translate.eq_def, hs]
  exact if_pos hn

lemma translate_generic (hs : v.listed? (TypeExpr.generic n t).spelling = none)
    (hn : v.sequences.takes n = false) :
    v.translate r (.generic n t) =
      (r.shorten? n).elim (TypeExpr.generic n t).spelling fun m => v.translate r (.generic m t) := by
  rw [translate.eq_def, hs]
  dsimp only
  rw [if_neg (by simp [hn])]
  split <;> rename_i hm <;> rw [hm] <;> rfl

end Translation

/-- A vocabulary that leaves out of names what `r` leaves out. Where only the last segment is kept,
every generic type is a sequence. -/
structure Shortens (v : Vocabulary) (r : Shortening) : Prop where
  qualifiers : v.qualifiers = r.qualifiers
  sequences : r = .toLast → v.sequences = .anyGeneric

end Vocabulary

namespace Segment

/-- A segment reaches up to the first mark. -/
lemma append_inj {a b : Segment} {x y : List Char} (hx : ∀ c ∈ x.head?, isMark c = true)
    (hy : ∀ c ∈ y.head?, isMark c = true) (h : a.text.toList ++ x = b.text.toList ++ y) :
    a = b ∧ x = y := by
  have hwhole : ∀ (s : Segment) {z : List Char}, (∀ c ∈ z.head?, isMark c = true) →
      (s.text.toList ++ z).takeWhile (fun c => !isMark c) = s.text.toList := fun s z hz =>
    takeWhile_append (fun c hc => by simp [(s.plain c hc).2]) fun c hc => by simp [hz c hc]
  have htext : a.text.toList = b.text.toList := by rw [← hwhole a hx, h, hwhole b hy]
  exact ⟨Segment.ext (String.toList_inj.1 htext), List.append_cancel_left (htext ▸ h)⟩

end Segment

namespace DottedName

lemma chars_cons (s : Segment) (path : List Segment) (last : Segment) :
    chars ⟨s :: path, last⟩ = s.text.toList ++ '.' :: chars ⟨path, last⟩ := by
  rw [chars, pathChars, List.append_assoc]
  rfl

lemma mem_chars {n : DottedName} {c : Char} (h : c ∈ n.chars) : c = '.' ∨ IsSegmentChar c := by
  obtain ⟨path, last⟩ := n
  induction path with
  | nil => exact .inr (last.plain _ h)
  | cons s path ih =>
    rw [chars_cons, List.mem_append, List.mem_cons] at h
    rcases h with hs | rfl | hrest
    · exact .inr (s.plain _ hs)
    · exact .inl rfl
    · exact ih hrest

lemma not_mem_chars {n : DottedName} {c : Char} (hmark : isMark c = true) (hdot : c ≠ '.') :
    c ∉ n.chars := by
  intro h
  rcases mem_chars h with rfl | hplain
  · exact hdot rfl
  · exact Bool.false_ne_true (hplain.2.symm.trans hmark)

lemma dot_mem_chars_iff {n : DottedName} : '.' ∈ n.chars ↔ n.path ≠ [] := by
  obtain ⟨path, last⟩ := n
  cases path with
  | nil =>
    refine iff_of_false (fun h => ?_) (by simp)
    exact Bool.false_ne_true ((last.plain _ h).2.symm.trans rfl)
  | cons s path => simp [chars_cons]

lemma afterLast_chars (n : DottedName) : afterLast '.' n.chars = n.last.text.toList := by
  obtain ⟨path, last⟩ := n
  induction path with
  | nil => exact afterLast_of_not_mem fun h => Bool.false_ne_true ((last.plain _ h).2.symm.trans rfl)
  | cons s path ih => rw [chars_cons, afterLast_append_cons, ih]

/-- A path in front of a name, in front of anything but a further dot, is a beginning of the text. -/
lemma dropStart?_chars (n : DottedName) (q : List Segment) {rest : List Char}
    (hrest : ∀ c ∈ rest.head?, isMark c = true ∧ c ≠ '.') :
    dropStart? (pathChars q) (n.chars ++ rest) = (n.without? q).map fun m => m.chars ++ rest := by
  obtain ⟨path, last⟩ := n
  induction q generalizing path with
  | nil => exact dropStart?_eq_some_iff.2 rfl
  | cons p q ih =>
    cases path with
    | nil =>
      refine Option.eq_none_iff_forall_ne_some.2 fun r hr => ?_
      rw [dropStart?_eq_some_iff, pathChars, List.append_assoc] at hr
      obtain ⟨-, hdot⟩ := Segment.append_inj (fun c hc => (hrest c hc).1) (by simp [isMark]) hr
      exact (hrest '.' (by simp [hdot])).2 rfl
    | cons s path =>
      rw [pathChars, chars_cons, List.append_assoc]
      by_cases hs : p = s
      · subst hs
        have hwithout : without? ⟨p :: path, last⟩ (p :: q) = without? ⟨path, last⟩ q := by
          simp [without?]
        rw [dropStart?_append_append, hwithout, ← ih path]
        exact dropStart?_append_append ['.'] _ _
      · have hwithout : without? ⟨s :: path, last⟩ (p :: q) = none := by simp [without?, hs]
        rw [hwithout]
        refine Option.eq_none_iff_forall_ne_some.2 fun r hr => hs ?_
        rw [dropStart?_eq_some_iff, List.append_assoc] at hr
        exact (Segment.append_inj (by simp [isMark]) (by simp [isMark]) hr).1.symm

end DottedName

lemma TypeExpr.not_isBlank {t : TypeExpr} {c : Char} (h : c ∈ t.chars) : isBlank c = false := by
  have hname : ∀ {n : DottedName}, c ∈ n.chars → isBlank c = false := by
    intro n hc
    rcases DottedName.mem_chars hc with rfl | hplain
    · rfl
    · exact hplain.1
  induction t with
  | name n => exact hname h
  | array item ih =>
    rw [chars, List.mem_append] at h
    rcases h with h | h
    · exact ih h
    · simp only [List.mem_cons, List.not_mem_nil, or_false] at h
      rcases h with rfl | rfl <;> rfl
  | generic n argument ih =>
    rw [chars, List.mem_append, List.mem_cons, List.mem_append, List.mem_singleton] at h
    rcases h with h | rfl | h | rfl
    · exact hname h
    · rfl
    · exact ih h
    · rfl

namespace Vocabulary
variable {v : Vocabulary} {r : Shortening}

lemma Shortens.dropsOnlyText (h : v.Shortens r) : v.DropsOnlyText := by
  intro names hnames hempty
  cases r with
  | toLast => cases hnames.symm.trans h.qualifiers
  | listed paths nonempty =>
    cases hnames.symm.trans h.qualifiers
    obtain ⟨q, hq, hchars⟩ := List.mem_map.1 hempty
    cases q with
    | nil => exact nonempty hq
    | cons s q => simp [pathChars] at hchars

lemma findSome?_dropStart? (paths : List (List Segment)) (n : DottedName) (rest : List Char)
    (hrest : ∀ c ∈ rest.head?, isMark c = true ∧ c ≠ '.') :
    (paths.map fun q => String.ofList (pathChars q)).findSome?
        (fun q => dropStart? q.toList (n.chars ++ rest)) =
      (paths.findSome? n.without?).map fun m => m.chars ++ rest := by
  rw [List.findSome?_map, List.map_findSome?]
  congr 1
  funext q
  rw [Function.comp_apply, String.toList_ofList, n.dropStart?_chars q hrest, Function.comp_apply]

lemma unqualified?_name (h : v.Shortens r) (n : DottedName) :
    v.unqualified? n.chars = (r.shorten? n).map DottedName.chars := by
  rw [unqualified?, h.qualifiers]
  cases r with
  | listed paths nonempty =>
    have hpaths := findSome?_dropStart? paths n [] (by simp)
    simp only [List.append_nil] at hpaths
    exact hpaths
  | toLast =>
    simp only [Shortening.qualifiers, Shortening.shorten?, List.contains_iff_mem]
    by_cases hpath : n.path = []
    · rw [if_pos hpath, if_neg fun hdot => DottedName.dot_mem_chars_iff.1 hdot hpath]
      rfl
    · rw [if_neg hpath, if_pos (DottedName.dot_mem_chars_iff.2 hpath), n.afterLast_chars]
      rfl

lemma unqualified?_generic (h : v.Shortens r) {n : DottedName} (hn : v.sequences.takes n = false)
    (argument : TypeExpr) :
    v.unqualified? (TypeExpr.generic n argument).chars =
      (r.shorten? n).map fun m => (TypeExpr.generic m argument).chars := by
  rw [unqualified?, h.qualifiers]
  cases r with
  | listed paths nonempty => exact findSome?_dropStart? paths n _ (by simp [isMark])
  | toLast =>
    rw [h.sequences rfl] at hn
    cases hn

lemma element?_name (n : DottedName) : v.element? n.chars = none := by
  refine Option.eq_none_iff_forall_ne_some.2 fun element helement => ?_
  obtain ⟨head, -, hchars⟩ := element?_eq_some_iff.1 helement
  refine DottedName.not_mem_chars (n := n) (c := '<') rfl (by decide) ?_
  simp [hchars]

lemma heads_chars_iff {n : DottedName} : v.sequences.Heads n.chars ↔ v.sequences.takes n = true := by
  cases v.sequences with
  | enumerable => simp [Sequences.Heads, Sequences.takes, ← String.toList_inj]
  | anyGeneric => exact iff_of_true (DottedName.not_mem_chars rfl (by decide)) rfl

lemma not_mem_of_heads {head : List Char} (h : v.sequences.Heads head) : '<' ∉ head := by
  revert h
  cases v.sequences with
  | enumerable => rintro (rfl | rfl) <;> decide
  | anyGeneric => exact id

lemma element?_generic (n : DottedName) (argument : TypeExpr) :
    v.element? (TypeExpr.generic n argument).chars =
      if v.sequences.takes n then some argument.chars else none := by
  have hopen : '<' ∉ n.chars := DottedName.not_mem_chars rfl (by decide)
  refine Option.ext fun element => ?_
  rw [element?_eq_some_iff, TypeExpr.chars]
  constructor
  · rintro ⟨head, hhead, hchars⟩
    have hcut := cutAt_append (argument.chars ++ ['>']) hopen
    rw [hchars, cutAt_append _ (not_mem_of_heads hhead)] at hcut
    obtain ⟨rfl, helement⟩ := Prod.mk.inj (Option.some.inj hcut)
    rw [if_pos (heads_chars_iff.1 hhead), List.append_cancel_right helement]
  · intro helement
    split at helement
    · rename_i htakes
      cases helement
      exact ⟨n.chars, heads_chars_iff.2 htakes, rfl⟩
    · cases helement

lemma dropEnd?_name (n : DottedName) : dropEnd? ['[', ']'] n.chars = none := by
  refine Option.eq_none_iff_forall_ne_some.2 fun item hitem => ?_
  refine DottedName.not_mem_chars (n := n) (c := ']') rfl (by decide) ?_
  simp [dropEnd?_eq_some_iff.1 hitem]

lemma trim_chars (t : TypeExpr) : trim t.chars = t.chars :=
  trim_of_no_blanks fun _ => TypeExpr.not_isBlank

section Rules
variable {t : TypeExpr} {n : DottedName}

lemma rule_listed {s : String} (hs : v.listed? t.spelling = some s) : v.rule t.chars = .spelled s := by
  rw [TypeExpr.spelling] at hs
  rw [rule, trim_chars, hs]

lemma rule_array (hs : v.listed? (TypeExpr.array t).spelling = none) :
    v.rule (TypeExpr.array t).chars = .wrapped v.array t.chars := by
  have hitem : dropEnd? ['[', ']'] (TypeExpr.array t).chars = some t.chars :=
    dropEnd?_eq_some_iff.2 rfl
  rw [TypeExpr.spelling] at hs
  rw [rule, trim_chars, hs, hitem]

lemma rule_name (h : v.Shortens r) (hs : v.listed? (TypeExpr.name n).spelling = none) :
    v.rule (TypeExpr.name n).chars =
      (r.shorten? n).elim (.spelled (TypeExpr.name n).spelling) fun m =>
        .wrapped .bare (TypeExpr.name m).chars := by
  rw [TypeExpr.spelling] at hs
  rw [rule, trim_chars, hs, TypeExpr.chars, dropEnd?_name, element?_name, unqualified?_name h]
  cases r.shorten? n <;> rfl

lemma rule_sequence (hs : v.listed? (TypeExpr.generic n t).spelling = none)
    (hn : v.sequences.takes n = true) :
    v.rule (TypeExpr.generic n t).chars = .wrapped v.sequence t.chars := by
  rw [TypeExpr.spelling] at hs
  have helement : v.element? (trim (TypeExpr.generic n t).chars) = some t.chars := by
    rw [trim_chars, element?_generic, if_pos hn]
  rw [← trim_chars] at hs
  exact rule_of_element (listed?_eq_none_iff.1 hs) helement

lemma rule_generic (h : v.Shortens r) (hs : v.listed? (TypeExpr.generic n t).spelling = none)
    (hn : v.sequences.takes n = false) :
    v.rule (TypeExpr.generic n t).chars =
      (r.shorten? n).elim (.spelled (TypeExpr.generic n t).spelling) fun m =>
        .wrapped .bare (TypeExpr.generic m t).chars := by
  rw [TypeExpr.spelling] at hs
  have harray : dropEnd? ['[', ']'] (TypeExpr.generic n t).chars = none := dropEnd?_generic n.chars t.chars
  rw [rule, trim_chars, hs, harray, element?_generic, if_neg (by simp [hn]), unqualified?_generic h hn]
  cases r.shorten? n <;> rfl

end Rules

/-- The rules on the text of a type give its translation by structure. -/
theorem spell_spelling (h : v.Shortens r) (t : TypeExpr) : v.spell t.spelling = v.translate r t := by
  -- on the size: a rule may leave the same constructor with a shorter name
  induction hsize : t.size using Nat.strongRecOn generalizing t with
  | ind size ih =>
    subst hsize
    rw [TypeExpr.spelling, spell_eq h.dropsOnlyText]
    cases hs : v.listed? t.spelling with
    | some s => rw [rule_listed hs, translate_listed hs, RuleOutcome.finish]
    | none =>
      cases t with
      | name n =>
        rw [rule_name h hs, translate_name hs]
        cases hm : r.shorten? n with
        | none => rfl
        | some m =>
          exact (Wrapping.wrap_bare _).trans (ih _ (Shortening.length_shorten? hm) (.name m) rfl)
      | array item =>
        rw [rule_array hs, translate_array hs]
        exact congrArg v.array.wrap (ih item.size (Nat.lt_succ_self _) item rfl)
      | generic n argument =>
        cases hn : v.sequences.takes n with
        | true =>
          have hsize : argument.size < (TypeExpr.generic n argument).size := by
            rw [TypeExpr.size]
            omega
          rw [rule_sequence hs hn, translate_sequence hs hn]
          exact congrArg v.sequence.wrap (ih argument.size hsize argument rfl)
        | false =>
          rw [rule_generic h hs hn, translate_generic hs hn]
          cases hm : r.shorten? n with
          | none => rfl
          | some m =>
            have hsize : (TypeExpr.generic m argument).size < (TypeExpr.generic n argument).size := by
              have hshorter := Shortening.length_shorten? hm
              rw [TypeExpr.size, TypeExpr.size]
              omega
            exact (Wrapping.wrap_bare _).trans (ih _ hsize (.generic m argument) rfl)

/-- What a vocabulary is used for. -/
inductive Use where
  | scriptDoc
  | declared
  | pageDoc
  | hint

namespace Use

def vocabulary : Use → Vocabulary
  | scriptDoc => Vocabulary.scriptDoc
  | declared => Vocabulary.declared
  | pageDoc => Vocabulary.pageDoc
  | hint => Vocabulary.hint

/-- The paths of geometry types, the longer ones before their beginnings. -/
def geometryPaths : List (List Segment) :=
  let rhino : Segment := ⟨"Rhino", by simp [IsSegmentChar, isBlank, isMark]⟩
  let geometry : Segment := ⟨"Geometry", by simp [IsSegmentChar, isBlank, isMark]⟩
  let objects : Segment := ⟨"DocObjects", by simp [IsSegmentChar, isBlank, isMark]⟩
  [[rhino, geometry], [rhino, objects], [rhino], [geometry], [objects]]

def shortening : Use → Shortening
  | hint => .toLast
  | _ => .listed geometryPaths (by simp [geometryPaths])

lemma shortens (u : Use) : u.vocabulary.Shortens u.shortening where
  qualifiers := by cases u <;> rfl
  sequences h := by cases u <;> first | rfl | cases h

end Use

/-- On every type of names, arrays and generic types the rules give the translation by structure, and
they come to an end on every text. -/
theorem spelling_follows_structure (u : Use) :
    (∀ t : TypeExpr, u.vocabulary.spell t.spelling = u.vocabulary.translate u.shortening t) ∧
      ∀ text s, u.vocabulary.Spells text s ↔ s = u.vocabulary.spell (String.ofList text) :=
  ⟨spell_spelling u.shortens, fun _ _ => spells_iff u.shortens.dropsOnlyText⟩

end Vocabulary
end BindingDocs
