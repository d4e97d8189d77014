import BindingDocs.Proofs.ScannerFreshness
import Mathlib.Data.List.Forall2

/-! What scanning means: the lines of all texts fall into blocks, one for each declaration, and the
registries hold one entry for each block. -/
namespace BindingDocs.Registration
open Scanner

/-- Lines that begin a class or an enumeration. -/
def declares (line : String) : Bool :=
  match classify line with
  | .classOpen _ => true
  | .enumOpen => true
  | _ => false

/-- Lines that end the declaration before them. -/
def isBoundary (line : String) : Bool := declares line || classify line == .terminator

/-- Declarations of names that are not for internal use. -/
def declaresVisibly (line : String) : Bool :=
  declares line && match firstQuoted line with
    | .ok name => !isHidden name
    | .error _ => false

/-- A declaration line with the lines that belong to it. -/
structure DeclarationBlock where
  line : String
  body : List String

/-- The lines before the next declaration or terminator. -/
def bodyLines (lines : List String) : List String := lines.takeWhile fun line => !isBoundary line

/-- The visible declarations in a stream of lines, in order. -/
def blocks : List String → List DeclarationBlock
  | [] => []
  | line :: rest =>
    if declaresVisibly line then ⟨line, bodyLines rest⟩ :: blocks rest else blocks rest

def linesOfKind (kind : LineKind) (lines : List String) : List String :=
  lines.filter fun line => classify line = kind

def isMethodLine (line : String) : Bool :=
  match classify line with
  | .method _ => true
  | _ => false

/-- The method that a line registers. -/
structure IsMethod (line : String) (m : BoundMethod) : Prop where
  kind : classify line = .method m.isStatic
  name : firstQuoted line = .ok m.name
  symbol : nativeSymbol line = .ok m.symbol
  args : argNames line = .ok m.args

/-- The class that a block declares, with the members that its lines register, in line order. -/
structure IsClass (b : DeclarationBlock) (d : Dialect) (c : BoundClass) : Prop where
  kind : classify b.line = .classOpen d
  name : firstQuoted b.line = .ok c.name
  base : baseClass d b.line = .ok c.base
  constructors : List.Forall₂ (fun line types => constructorTypes line = .ok types)
    (linesOfKind .constructor b.body) c.constructors
  properties : List.Forall₂ (fun line name => firstQuoted line = .ok name)
    (linesOfKind .property b.body) c.properties
  methods : List.Forall₂ IsMethod (b.body.filter isMethodLine) c.methods

/-- The enumeration that a block declares, with its values in line order. -/
structure IsEnum (b : DeclarationBlock) (x : BoundEnum) : Prop where
  kind : classify b.line = .enumOpen
  name : firstQuoted b.line = .ok x.name
  values : List.Forall₂ (fun line name => firstQuoted line = .ok name)
    (linesOfKind .value b.body) x.values

def Declares (b : DeclarationBlock) : Entity → Prop
  | .bound d c => IsClass b d c
  | .enumeration x => IsEnum b x

/-- A declaration before and after some lines that belong to it. -/
inductive Grows : List String → Entity → Entity → Prop
  | nil (e : Entity) : Grows [] e e
  | cons {line body e e' e''} (first : Adds line (classify line) e e') (rest : Grows body e' e'') :
      Grows (line :: body) e e''

lemma isMethodLine_iff {line : String} :
    isMethodLine line = true ↔ ∃ isStatic, classify line = .method isStatic := by
  unfold isMethodLine
  cases classify line <;> simp

lemma foreign_to_class {d : Dialect} {c : BoundClass} {kind : LineKind}
    (h : takes (.bound d c) kind = false) :
    kind ≠ .constructor ∧ kind ≠ .property ∧ ∀ isStatic, kind ≠ .method isStatic := by
  cases kind <;> simp [takes] at h ⊢

lemma foreign_to_enum {x : BoundEnum} {kind : LineKind}
    (h : takes (.enumeration x) kind = false) : kind ≠ .value := by
  rintro rfl
  simp [takes] at h

lemma grows_bound {body : List String} {d : Dialect} {c : BoundClass} {e : Entity}
    (h : Grows body (.bound d c) e) :
    ∃ constructors properties methods,
      e = .bound d ⟨c.name, c.base, c.constructors ++ constructors, c.properties ++ properties,
        c.methods ++ methods⟩ ∧
      List.Forall₂ (fun line types => constructorTypes line = .ok types)
        (linesOfKind .constructor body) constructors ∧
      List.Forall₂ (fun line name => firstQuoted line = .ok name)
        (linesOfKind .property body) properties ∧
      List.Forall₂ IsMethod (body.filter isMethodLine) methods := by
  induction body generalizing c with
  | nil =>
    cases h
    exact ⟨[], [], [], by simp [linesOfKind]⟩
  | cons line body ih =>
    obtain _ | ⟨first, rest⟩ := h
    generalize hk : classify line = kind at first
    cases first with
    | @constructor _ _ types types_ok =>
      obtain ⟨ks, ps, ms, rfl, hks, hps, hms⟩ := ih rest
      refine ⟨types :: ks, ps, ms, by simp, ?_, ?_, ?_⟩
      · simpa [linesOfKind, hk] using ⟨types_ok, hks⟩
      · simpa [linesOfKind, hk] using hps
      · simpa [isMethodLine, hk] using hms
    | @property _ _ name name_ok =>
      obtain ⟨ks, ps, ms, rfl, hks, hps, hms⟩ := ih rest
      refine ⟨ks, name :: ps, ms, by simp, ?_, ?_, ?_⟩
      · simpa [linesOfKind, hk] using hks
      · simpa [linesOfKind, hk] using ⟨name_ok, hps⟩
      · simpa [isMethodLine, hk] using hms
    | @method _ _ isStatic name symbol args name_ok symbol_ok args_ok =>
      obtain ⟨ks, ps, ms, rfl, hks, hps, hms⟩ := ih rest
      refine ⟨ks, ps, ⟨name, isStatic, symbol, args⟩ :: ms, by simp, ?_, ?_, ?_⟩
      · simpa [linesOfKind, hk] using hks
      · simpa [linesOfKind, hk] using hps
      · simpa [isMethodLine, hk] using ⟨⟨hk, name_ok, symbol_ok, args_ok⟩, hms⟩
    | foreign foreign =>
      obtain ⟨ks, ps, ms, rfl, hks, hps, hms⟩ := ih rest
      obtain ⟨hc, hp, hm⟩ := foreign_to_class foreign
      have hno : ¬ isMethodLine line = true := by
        rw [isMethodLine_iff, hk]
        exact fun ⟨isStatic, h⟩ => hm isStatic h
      refine ⟨ks, ps, ms, rfl, ?_, ?_, ?_⟩
      · simpa [linesOfKind, hk, hc] using hks
      · simpa [linesOfKind, hk, hp] using hps
      · simpa [hno] using hms

lemma grows_enumeration {body : List String} {x : BoundEnum} {e : Entity}
    (h : Grows body (.enumeration x) e) :
    ∃ values, e = .enumeration ⟨x.name, x.values ++ values⟩ ∧
      List.Forall₂ (fun line name => firstQuoted line = .ok name) (linesOfKind .value body) values := by
  induction body generalizing x with
  | nil =>
    cases h
    exact ⟨[], by simp [linesOfKind]⟩
  | cons line body ih =>
    obtain _ | ⟨first, rest⟩ := h
    generalize hk : classify line = kind at first
    cases first with
    | @value _ name name_ok =>
      obtain ⟨vs, rfl, hvs⟩ := ih rest
      exact ⟨name :: vs, by simp, by simpa [linesOfKind, hk] using ⟨name_ok, hvs⟩⟩
    | foreign foreign =>
      obtain ⟨vs, rfl, hvs⟩ := ih rest
      exact ⟨vs, rfl, by simpa [linesOfKind, hk, foreign_to_enum foreign] using hvs⟩

lemma declaration?_eq_none_iff {line : String} :
    declaration? (classify line) line = none ↔ declares line = false := by
  unfold declares
  cases classify line <;> simp [declaration?]

/-- A declaration line opens an entity without members. -/
lemma declaration?_ok {line : String} {e : Entity}
    (h : declaration? (classify line) line = some (.ok e)) :
    declares line = true ∧ firstQuoted line = .ok e.name ∧
      ∀ body e', Grows body e e' → Declares ⟨line, body⟩ e' := by
  unfold declares
  generalize hk : classify line = kind at h
  cases kind with
  | classOpen d =>
    obtain ⟨name, hn, h⟩ := found_bind_ok (Option.some.inj h)
    obtain ⟨base, hb, h⟩ := found_bind_ok h
    cases h
    refine ⟨rfl, hn, ?_⟩
    intro body e' hg
    obtain ⟨ks, ps, ms, rfl, hks, hps, hms⟩ := grows_bound hg
    exact ⟨hk, hn, hb, hks, hps, hms⟩
  | enumOpen =>
    obtain ⟨name, hn, h⟩ := found_bind_ok (Option.some.inj h)
    cases h
    refine ⟨rfl, hn, ?_⟩
    intro body e' hg
    obtain ⟨vs, rfl, hvs⟩ := grows_enumeration hg
    exact ⟨hk, hn, hvs⟩
  | _ => simp [declaration?] at h

/-- A declaration under the key of its name. -/
def entryOf (e : Entity) : String × Entity := (keyOf e.name, e)

lemma close_entries_perm {history : List Entity} {s : Scanner} (h : Consistent history s) :
    s.close.set.entries.Perm (s.set.entries ++ s.cursor.toList.map entryOf) := by
  rcases s with ⟨set, _ | e⟩
  · simp
  · have hp := set.entries_insert_perm (h.fresh rfl)
    simpa [entryOf] using hp.trans (List.perm_append_singleton _ _).symm

/-- The open declaration is entered before what is added after it. -/
lemma close_entries_append_perm {history : List Entity} {s : Scanner} (h : Consistent history s)
    (added : List Entity) : (s.close.set.entries ++ added.map entryOf).Perm
      (s.set.entries ++ (s.cursor.toList ++ added).map entryOf) := by
  simpa using (close_entries_perm h).append_right (added.map entryOf)

lemma rel_grows_nil (cursor : Option Entity) : Option.Rel (Grows []) cursor cursor := by
  rcases cursor with _ | e
  · exact Option.Rel.none
  · exact Option.Rel.some (Grows.nil e)

lemma bodyLines_boundary {line : String} (rest : List String) (h : isBoundary line = true) :
    bodyLines (line :: rest) = [] := by simp [bodyLines, h]

lemma rel_grows_boundary (cursor : Option Entity) {line : String} (rest : List String)
    (h : isBoundary line = true) : Option.Rel (Grows (bodyLines (line :: rest))) cursor cursor := by
  rw [bodyLines_boundary rest h]
  exact rel_grows_nil cursor

lemma bodyLines_inner {line : String} (rest : List String)
    (inner : declaration? (classify line) line = none) (goes : classify line ≠ .terminator) :
    bodyLines (line :: rest) = line :: bodyLines rest := by
  simp [bodyLines, isBoundary, declaration?_eq_none_iff.1 inner, goes]

lemma blocks_inner {line : String} (rest : List String)
    (inner : declaration? (classify line) line = none) : blocks (line :: rest) = blocks rest := by
  simp [blocks, declaresVisibly, declaration?_eq_none_iff.1 inner]

/-- From any state, lines without an error complete the open declaration and add one entry for each
block. -/
lemma scanLines_blocks {history : List Entity} {s : Scanner} {n : Nat} {lines : List String}
    (hc : Consistent history s) (h : (s.scanLines n lines).1 = .ok ()) :
    ∃ (last : Option Entity) (es : List Entity), Option.Rel (Grows (bodyLines lines)) s.cursor last ∧
      List.Forall₂ Declares (blocks lines) es ∧
      (s.scanLines n lines).2.finish.entries.Perm
        (s.set.entries ++ (last.toList ++ es).map entryOf) := by
  induction lines generalizing history s n with
  | nil =>
    refine ⟨s.cursor, [], rel_grows_nil _, List.Forall₂.nil, ?_⟩
    simpa [scanLines, finish] using close_entries_perm hc
  | cons line rest ih =>
    have hm := s.step_move line
    have hnext := hc.step line
    unfold scanLines at h ⊢
    rcases hs : s.step line with ⟨_ | _, t⟩
    · simp [hs] at h
    simp only [hs] at h hm hnext ⊢
    obtain ⟨last, es, hlast, hes, hp⟩ := ih hnext h
    have closing := close_entries_append_perm hc
    cases hm with
    | hidden opens hh =>
      obtain ⟨hd, hq, -⟩ := declaration?_ok opens
      rw [close_cursor] at hlast
      cases hlast
      refine ⟨s.cursor, es, ?_, ?_, hp.trans (closing es)⟩
      · exact rel_grows_boundary _ rest (by simp [isBoundary, hd])
      · simpa [blocks, declaresVisibly, hd, hq, hh] using hes
    | opened opens hv free =>
      obtain ⟨hd, hq, hgrow⟩ := declaration?_ok opens
      obtain ⟨hg⟩ | _ := hlast
      refine ⟨s.cursor, _ :: es, ?_, ?_, hp.trans (closing _)⟩
      · exact rel_grows_boundary _ rest (by simp [isBoundary, hd])
      · simpa [blocks, declaresVisibly, hd, hq, hv] using ⟨hgrow _ _ hg, hes⟩
    | terminated ends =>
      rw [close_cursor] at hlast
      cases hlast
      refine ⟨s.cursor, es, ?_, ?_, hp.trans (closing es)⟩
      · exact rel_grows_boundary _ rest (by simp [isBoundary, ends])
      · rwa [blocks_inner rest (by simp [ends, declaration?])]
    | idle inner goes idle =>
      rw [idle] at hlast
      cases hlast
      refine ⟨none, es, ?_, ?_, hp⟩
      · rw [idle]
        exact Option.Rel.none
      · rwa [blocks_inner rest inner]
    | extended inner goes active adds =>
      obtain ⟨hg⟩ | _ := hlast
      refine ⟨some _, es, ?_, ?_, hp⟩
      · rw [active, bodyLines_inner rest inner goes]
        exact Option.Rel.some (Grows.cons (addMember_adds adds) hg)
      · rwa [blocks_inner rest inner]

/-- Some texts are scanned one after the other without an error. -/
inductive ScansTo : Scanner → List String → Scanner → Prop
  | nil (s : Scanner) : ScansTo s [] s
  | cons {s u text texts} (first : (s.scan text).1 = .ok ()) (rest : ScansTo (s.scan text).2 texts u) :
      ScansTo s (text :: texts) u

lemma ScansTo.scanLines {s u : Scanner} {texts : List String} (h : ScansTo s texts u) (n : Nat) :
    s.scanLines n (texts.flatMap trimmedLines) = (.ok (), u) := by
  induction h generalizing n with
  | nil s => rfl
  | @cons s u text texts first rest ih =>
    have hend := scanLines_append_of_ok [] first
    rw [List.append_nil, ← Scanner.scan, Scanner.scanLines] at hend
    rw [List.flatMap_cons, scanLines_append_of_ok _ (scanLines_ok_any first n)]
    rw [hend] at ih
    exact ih _

namespace Scanner

/-- Some lines are scanned one after the other without an error. -/
inductive Steps : Scanner → List String → Scanner → Prop
  | nil (s : Scanner) : Steps s [] s
  | cons {s t u line lines} (first : s.step line = (.ok (), t)) (rest : Steps t lines u) :
      Steps s (line :: lines) u

lemma step_other {line : String} (s : Scanner) (h : classify line = .other) :
    s.step line = (.ok (), s) := by
  rcases s with ⟨set, _ | e⟩
  · simp [step, h, declaration?]
  · cases e <;> simp [step, h, declaration?, addMember]

/-- A line that adds to the open declaration. -/
lemma step_member {set : BindingSet} {e e' : Entity} {line : String}
    (inner : declaration? (classify line) line = none) (goes : classify line ≠ .terminator)
    (adds : addMember e (classify line) line = .ok e') :
    step ⟨set, some e⟩ line = (.ok (), ⟨set, some e'⟩) := by
  simp [step, inner, goes, adds]

namespace Steps
variable {s t u : Scanner} {l l' : List String}

lemma append (h : Steps s l t) (h' : Steps t l' u) : Steps s (l ++ l') u := by
  induction h with
  | nil => exact h'
  | cons first _ ih => exact cons first (ih h')

lemma split (h : Steps s (l ++ l') u) : ∃ t, Steps s l t ∧ Steps t l' u := by
  induction l generalizing s with
  | nil => exact ⟨s, nil s, h⟩
  | cons line l ih =>
    obtain _ | ⟨first, rest⟩ := h
    obtain ⟨t, hl, hl'⟩ := ih rest
    exact ⟨t, cons first hl, hl'⟩

lemma scanLines (h : Steps s l t) (n : Nat) : s.scanLines n l = (.ok (), t) := by
  induction h generalizing n with
  | nil s => rfl
  | cons first _ ih =>
    rw [Scanner.scanLines, first]
    exact ih _

lemma of_scanLines {n : Nat} (h : s.scanLines n l = (.ok (), t)) : Steps s l t := by
  induction l generalizing s n with
  | nil =>
    cases h
    exact nil _
  | cons line l ih =>
    unfold Scanner.scanLines at h
    rcases hs : s.step line with ⟨_ | _, u⟩
    · simp [hs] at h
    · simp only [hs] at h
      exact cons hs (ih h)

lemma scansTo {texts : List String} (h : Steps s (texts.flatMap trimmedLines) u) :
    ScansTo s texts u := by
  induction texts generalizing s with
  | nil =>
    cases h
    exact ScansTo.nil _
  | cons text texts ih =>
    obtain ⟨t, hfirst, hrest⟩ := split h
    have hscan : s.scan text = (.ok (), t) := hfirst.scanLines 1
    refine ScansTo.cons (by rw [hscan]) ?_
    rw [hscan]
    exact ih hrest

/-- Lines of no kind may stand anywhere. -/
lemma of_filter (h : Steps s (l.filter fun line => classify line ≠ .other) t) : Steps s l t := by
  induction l generalizing s with
  | nil => exact h
  | cons line l ih =>
    by_cases hk : classify line = .other
    · exact cons (step_other s hk) (ih (by simpa [hk] using h))
    · obtain _ | ⟨first, rest⟩ : Steps s (line :: l.filter fun line => classify line ≠ .other) t := by
        simpa [hk] using h
      exact cons first (ih rest)

lemma filter (h : Steps s l t) : Steps s (l.filter fun line => classify line ≠ .other) t := by
  induction h with
  | nil s => exact nil s
  | @cons s u v line lines first _ ih =>
    by_cases hk : classify line = .other
    · rw [step_other s hk] at first
      cases first
      simpa [hk] using ih
    · simpa [hk] using cons first ih

lemma eq_advance (h : Steps s l t) : t = s.advance l := by
  induction h with
  | nil s => rfl
  | cons first _ ih => rw [ih, advance_cons, first]

end Steps
end Scanner

/-- Scanning texts without an error registers exactly the visible declarations of their lines, each
once, under its key, with the members that the lines up to the next boundary register. -/
theorem scan_registers_blocks {texts : List String} {s : Scanner} (h : ScansTo new texts s) :
    ∃ es, List.Forall₂ Declares (blocks (texts.flatMap trimmedLines)) es ∧
      s.finish.entries.Perm (es.map entryOf) := by
  have hscan := h.scanLines 1
  obtain ⟨last, es, hlast, hes, hp⟩ := scanLines_blocks (n := 1) consistent_new (by rw [hscan])
  cases hlast
  rw [hscan] at hp
  exact ⟨es, hes, by simpa [new] using hp⟩

/-- A class that goes on in a second text, a hidden class, and an enumeration that is never closed. -/
def sampleTexts : List String :=
  ["class_<BND_Arc, base<BND_Curve>>(\"Arc\")\n  .constructor<double>()\n  .value(\"no\")",
    ".function(\"Trim\", &BND_Arc::Trim)\n;\n.property(\"late\")\npy::class_<X>(m, \"__X\")",
    ".def(\"hidden\")\nenum_<Kind>(\"Kind\")\n.value(\"Open\", Kind::Open)"]

theorem scan_registers_blocks_sample : ScansTo new sampleTexts (new.after sampleTexts) ∧
    ∃ es, List.Forall₂ Declares (blocks (sampleTexts.flatMap trimmedLines)) es ∧
      (new.after sampleTexts).finish.entries.Perm (es.map entryOf) := by
  have h : ScansTo new sampleTexts (new.after sampleTexts) :=
    .cons (by decide +kernel) (.cons (by decide +kernel) (.cons (by decide +kernel) (.nil _)))
  exact ⟨h, scan_registers_blocks h⟩

end BindingDocs.Registration
