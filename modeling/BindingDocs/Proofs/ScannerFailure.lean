import BindingDocs.Proofs.ScannerMeaning
import BindingDocs.Proofs.TextSearch

/-! Failing lines. What a line has to hold depends on its kind and on the declaration it is met in; a
line that lacks some of it, or that declares a name again, ends the scan and leaves no trace of
itself. -/
namespace BindingDocs.Registration
open BindingDocs.Text

/-- The parts of a line that end at a delimiter. -/
inductive LineField where
  | name
  | base
  | types
  | symbol
  | args
  deriving Repr, DecidableEq

/-- The parts that a line of some kind must have, with the declaration that is open there. -/
def LineKind.needs : LineKind → Option Entity → List LineField
  | .classOpen .javascript, _ => [.name, .base]
  | .classOpen .python, _ => [.name]
  | .enumOpen, _ => [.name]
  | .constructor, some (.bound _ _) => [.types]
  | .property, some (.bound _ _) => [.name]
  | .method _, some (.bound _ _) => [.name, .symbol, .args]
  | .value, some (.enumeration _) => [.name]
  | _, _ => []

/-- The mark in front of the parameter types of a constructor. -/
def typesMark (line : List Char) : List Char :=
  if holds "py::init<" line && !starts ".constructor" line then "py::init<".toList else ['<']

namespace LineField

/-- The delimiter that a part of a line lacks, if any.

* A name stands between two quotes, and so does each argument name after its mark.
* A base that is named, and the parameter types, end at an angle bracket.
* A symbol, if there is one, ends at a comma or at a parenthesis. -/
def lacks? (line : List Char) : LineField → Option Delimiter
  | name => if line.count '"' < 2 then some .quote else none
  | base => (cut "base<BND_".toList line).bind fun r =>
      if '>' ∈ r.2 then none else some .angleRight
  | types => match cut (typesMark line) line with
    | none => some .angleLeft
    | some r => if '>' ∈ r.2 then none else some .angleRight
  | symbol => (cutAt '&' line).bind fun r =>
      if ',' ∈ r.2 ∨ ')' ∈ r.2 then none else some .symbolEnd
  | args => bif line.tails.any fun t => starts "py::arg" t && decide (t.count '"' < 2)
      then some .quote else none

end LineField

/-- The first delimiter that a line lacks in a state. -/
def Scanner.lacking? (s : Scanner) (line : String) : Option Delimiter :=
  ((classify line).needs s.cursor).findSome? (LineField.lacks? line.toList)

/-- The delimiter that reading some part of a line fails for. -/
def missing? {α : Type} : Found α → Option Delimiter
  | .error d => some d
  | .ok _ => none

@[simp] lemma missing?_ok {α : Type} (a : α) : missing? (.ok a : Found α) = none := rfl

@[simp] lemma missing?_pure {α : Type} (a : α) : missing? (pure a : Found α) = none := rfl

@[simp] lemma missing?_error {α : Type} (d : Delimiter) :
    missing? (.error d : Found α) = some d := rfl

/-- Of two readings the first that fails decides, if what the second lacks does not depend on what
the first has read. -/
lemma missing?_bind {α β : Type} {x : Found α} {f : α → Found β} {m : Option Delimiter}
    (h : ∀ a, missing? (f a) = m) : missing? (x >>= f) = (missing? x).or m := by
  cases x with
  | error d => rfl
  | ok a => exact h a

lemma missing?_cutOr (d : Char) (m : Delimiter) (s : List Char) :
    missing? (cutOr d m s) = if d ∈ s then none else some m := by
  unfold cutOr
  split
  · rename_i r h
    have hd : d ∈ s := by rw [(cutAt_eq_some h).1]; simp
    simp [hd]
  · rename_i h
    simp [cutAt_eq_none_iff.1 h]

lemma missing?_quotedIn (line : List Char) : missing? (quotedIn line) = LineField.name.lacks? line := by
  rw [quotedIn, cutOr, LineField.lacks?]
  cases h : cutAt '"' line with
  | none =>
    have hcount : line.count '"' = 0 := List.count_eq_zero.2 (cutAt_eq_none_iff.1 h)
    simp [hcount, bind, Except.bind]
  | some r =>
    obtain ⟨hline, hnone⟩ := cutAt_eq_some h
    have hcount : line.count '"' = r.2.count '"' + 1 := by
      rw [hline, List.count_append, List.count_eq_zero.2 hnone, List.count_cons_self, Nat.zero_add]
    have hmore : line.count '"' < 2 ↔ '"' ∉ r.2 := by
      rw [hcount, ← List.count_eq_zero]
      omega
    show missing? (cutOr '"' .quote r.2 >>= _) = _
    rw [missing?_bind (m := none) (fun _ => rfl), Option.or_none, missing?_cutOr]
    by_cases hq : '"' ∈ r.2
    · simp [hmore, hq]
    · simp [hmore, hq]

lemma missing?_firstQuoted (line : String) :
    missing? (firstQuoted line) = LineField.name.lacks? line.toList := missing?_quotedIn line.toList

lemma missing?_baseClass (d : Dialect) (line : String) :
    missing? (baseClass d line) = match d with
      | .javascript => LineField.base.lacks? line.toList
      | .python => none := by
  cases d with
  | python => rfl
  | javascript =>
    simp only [baseClass, LineField.lacks?]
    cases cut "base<BND_".toList line.toList with
    | none => rfl
    | some r =>
      refine (missing?_bind (m := none) fun _ => rfl).trans ?_
      rw [Option.or_none, missing?_cutOr]
      rfl

/-- The types of a constructor begin after their mark. -/
lemma typeListStart_eq (line : List Char) :
    typeListStart line = match cut (typesMark line) line with
      | some r => .ok r.2
      | none => .error .angleLeft := by
  have hangle : (cutOr '<' .angleLeft line).map (·.2) = match cut ['<'] line with
      | some r => .ok r.2
      | none => .error .angleLeft := by
    rw [cut_singleton, cutOr]
    cases cutAt '<' line <;> rfl
  rw [typeListStart, typesMark, holds, contains]
  cases hinit : cut "py::init<".toList line with
  | none => simpa using hangle
  | some r =>
    cases hstart : starts ".constructor" line with
    | true => simpa [hstart] using hangle
    | false => simp only [Option.isSome_some, Bool.not_false, Bool.and_self, if_true,
        Bool.false_eq_true, if_false, hinit]

lemma missing?_constructorTypes (line : String) :
    missing? (constructorTypes line) = LineField.types.lacks? line.toList := by
  rw [constructorTypes, typeListStart_eq, LineField.lacks?]
  cases cut (typesMark line.toList) line.toList with
  | none => rfl
  | some r =>
    show missing? (cutOr '>' .angleRight r.2 >>= _) = _
    rw [missing?_bind (m := none), Option.or_none]
    · exact missing?_cutOr _ _ _
    · rintro ⟨list, rest⟩
      dsimp only
      split <;> rfl

lemma missing?_nativeSymbol (line : String) :
    missing? (nativeSymbol line) = LineField.symbol.lacks? line.toList := by
  rw [nativeSymbol, LineField.lacks?]
  cases cutAt '&' line.toList with
  | none => rfl
  | some r =>
    cases hc : cutAt ',' r.2 with
    | none =>
      simp only [hc]
      refine (missing?_bind (m := none) fun _ => rfl).trans ?_
      rw [Option.or_none, missing?_cutOr]
      simp [cutAt_eq_none_iff.1 hc]
    | some q =>
      have hmem : ',' ∈ r.2 := by rw [(cutAt_eq_some hc).1]; simp
      simp [hc, hmem, bind, Except.bind]

/-- A text lacks a quote for an argument at its front or in the rest. -/
lemma lacks?_args_cons (c : Char) (s : List Char) : LineField.args.lacks? (c :: s) =
    bif starts "py::arg" (c :: s) && decide ((c :: s).count '"' < 2) then some .quote
    else LineField.args.lacks? s := by
  simp only [LineField.lacks?, List.tails, List.any_cons]
  cases starts "py::arg" (c :: s) && decide ((c :: s).count '"' < 2) <;> rfl

lemma missing?_argNamesIn (line : List Char) :
    missing? (argNamesIn line) = LineField.args.lacks? line := by
  induction line with
  | nil => rfl
  | cons c s ih =>
    rw [argNamesIn]
    by_cases hmark : starts "py::arg" (c :: s)
    · rw [if_pos hmark]
      have hmore : ∀ name : String, missing? (do pure (name :: (← argNamesIn s))) =
          LineField.args.lacks? s := by
        intro name
        rw [missing?_bind (m := none) (fun _ => rfl), Option.or_none, ih]
      rw [missing?_bind hmore, missing?_quotedIn]
      rw [lacks?_args_cons, hmark, Bool.true_and, LineField.lacks?]
      by_cases hq : (c :: s).count '"' < 2
      · rw [if_pos hq, decide_eq_true hq]
        rfl
      · rw [if_neg hq, decide_eq_false hq]
        rfl
    · rw [if_neg hmark, ih, lacks?_args_cons, eq_false_of_ne_true hmark, Bool.false_and]
      rfl

namespace Scanner

lemma findSome?_cons_or (p : LineField) (ps : List LineField) (f : LineField → Option Delimiter) :
    (p :: ps).findSome? f = (f p).or (ps.findSome? f) := by
  rw [List.findSome?_cons]
  cases f p <;> rfl

lemma missing?_addMember (e : Entity) {kind : LineKind} (line : String)
    (inner : declaration? kind line = none) :
    missing? (addMember e kind line) = (kind.needs (some e)).findSome? (LineField.lacks? line.toList) := by
  cases kind with
  | classOpen | enumOpen => simp [declaration?] at inner
  | operator | terminator | other => cases e <;> rfl
  | constructor => cases e with
    | enumeration => rfl
    | bound d c =>
      rw [addMember, missing?_bind (m := none) (fun _ => rfl), missing?_constructorTypes]
      simp [LineKind.needs]
  | property => cases e with
    | enumeration => rfl
    | bound d c =>
      rw [addMember, missing?_bind (m := none) (fun _ => rfl), missing?_firstQuoted]
      simp [LineKind.needs]
  | method isStatic => cases e with
    | enumeration => rfl
    | bound d c =>
      rw [addMember, missing?_bind fun name => missing?_bind fun symbol =>
        missing?_bind (m := none) fun args => rfl]
      rw [missing?_firstQuoted, missing?_nativeSymbol, argNames, missing?_argNamesIn]
      simp [LineKind.needs, findSome?_cons_or]
  | value => cases e with
    | bound => rfl
    | enumeration x =>
      rw [addMember, missing?_bind (m := none) (fun _ => rfl), missing?_firstQuoted]
      simp [LineKind.needs]

lemma missing?_declaration {kind : LineKind} {line : String} {found : Found Entity}
    (opens : declaration? kind line = some found) (cursor : Option Entity) :
    missing? found = (kind.needs cursor).findSome? (LineField.lacks? line.toList) := by
  cases kind with
  | classOpen dialect =>
    cases opens
    rw [missing?_bind fun name => missing?_bind (m := none) fun base => rfl, missing?_firstQuoted,
      missing?_baseClass]
    cases dialect <;> simp [LineKind.needs, findSome?_cons_or]
  | enumOpen =>
    cases opens
    rw [missing?_bind (m := none) (fun _ => rfl), missing?_firstQuoted]
    simp [LineKind.needs]
  | _ => simp [declaration?] at opens

lemma needs_idle {kind : LineKind} {line : String} (inner : declaration? kind line = none) :
    kind.needs none = [] := by
  cases kind <;> simp [declaration?, LineKind.needs] at inner ⊢

/-- A line fails for a delimiter exactly if it lacks the delimiter. -/
lemma step_missing_iff {s : Scanner} {line : String} {d : Delimiter} :
    (s.step line).1 = .error (.missing d) ↔ s.lacking? line = some d := by
  have hm := s.step_move line
  generalize (s.step line).1 = r at hm ⊢
  generalize (s.step line).2 = t at hm
  rw [lacking?]
  cases hm with
  | hidden opens | repeated opens | opened opens | undeclared opens =>
    rw [← missing?_declaration opens]
    simp
  | terminated ends => simp [ends, LineKind.needs]
  | idle inner goes idle =>
    rw [idle, needs_idle inner]
    simp
  | extended inner goes active adds =>
    rw [active, ← missing?_addMember _ line inner, adds]
    simp
  | unread inner goes active lacks =>
    rw [active, ← missing?_addMember _ line inner, lacks]
    simp

lemma step_missing {s t : Scanner} {line : String} {d : Delimiter}
    (h : s.step line = (.error (.missing d), t)) : t = s := by
  have hm := s.step_move line
  rw [h] at hm
  cases hm <;> rfl

/-- A line fails for its name exactly if it declares a visible name whose place is taken, and then it
closes the declaration before it. -/
lemma step_duplicate_iff {s t : Scanner} {line registry name : String} :
    s.step line = (.error (.duplicate registry name), t) ↔
      ∃ e, declaration? (classify line) line = some (.ok e) ∧ e.registryName = registry ∧
        e.name = name ∧ isHidden e.name = false ∧ s.close.set.contains e = true ∧ t = s.close := by
  constructor
  · intro h
    have hm := s.step_move line
    rw [h] at hm
    cases hm with
    | repeated opens visible taken => exact ⟨_, opens, rfl, rfl, visible, taken, rfl⟩
  · rintro ⟨e, opens, rfl, rfl, visible, taken, rfl⟩
    simp [step, opens, begin, visible, taken]

lemma advance_of_scanLines_ok {s t : Scanner} {k : Nat} {lines : List String}
    (h : s.scanLines k lines = (.ok (), t)) : s.advance lines = t := by
  have hok : (s.scanLines k lines).1 = .ok () := by rw [h]
  have hend := scanLines_append_of_ok [] hok
  rw [List.append_nil, h, scanLines] at hend
  exact (Prod.ext_iff.1 hend).2.symm

/-- A scan fails at its first failing line. -/
lemma scanLines_error_iff {s u : Scanner} {k n : Nat} {lines : List String} {e : LineError} :
    s.scanLines k lines = (.error (n, e), u) ↔
      ∃ before line rest t, lines = before ++ line :: rest ∧ n = k + before.length ∧
        s.scanLines k before = (.ok (), t) ∧ t.step line = (.error e, u) := by
  constructor
  · intro h
    induction lines generalizing s k with
    | nil => simp [scanLines] at h
    | cons line rest ih =>
      rw [scanLines] at h
      rcases hs : s.step line with ⟨d | _, t⟩
      · simp only [hs, Prod.mk.injEq, Except.error.injEq] at h
        obtain ⟨⟨rfl, rfl⟩, rfl⟩ := h
        exact ⟨[], line, rest, s, rfl, rfl, rfl, hs⟩
      · simp only [hs] at h
        obtain ⟨before, failing, after, v, rfl, rfl, hok, hstep⟩ := ih h
        refine ⟨line :: before, failing, after, v, rfl, ?_, ?_, hstep⟩
        · simp only [List.length_cons]
          omega
        · rw [scanLines, hs]
          exact hok
  · rintro ⟨before, line, rest, t, rfl, rfl, hok, hstep⟩
    rw [scanLines_append_of_ok _ (by rw [hok]), advance_of_scanLines_ok hok, scanLines, hstep]

/-- Lines that do not fail lack nothing, each in the state it is met in. -/
lemma lacking?_of_scanLines_ok {s t : Scanner} {k : Nat} {l₁ l₂ : List String} {line : String}
    (h : s.scanLines k (l₁ ++ line :: l₂) = (.ok (), t)) : (s.advance l₁).lacking? line = none := by
  induction l₁ generalizing s k with
  | nil =>
    rw [List.nil_append, scanLines] at h
    rw [advance_nil, Option.eq_none_iff_forall_ne_some]
    intro d hd
    rcases hs : s.step line with ⟨e | _, u⟩
    · simp [hs] at h
    · have hstep := step_missing_iff.2 hd
      simp [hs] at hstep
  | cons first l₁ ih =>
    rw [List.cons_append, scanLines] at h
    rcases hs : s.step first with ⟨e | _, u⟩
    · simp [hs] at h
    · simp only [hs] at h
      rw [advance_cons, hs]
      exact ih h

/-- The open declaration of a state stands, complete as it is, in its registry, and nothing else has
changed. -/
structure Settled (s t : Scanner) : Prop where
  idle : t.cursor = none
  entries : t.set.entries.Perm (s.set.entries ++ s.cursor.toList.map entryOf)

lemma Consistent.settled {history : List Entity} {s : Scanner} (h : Consistent history s) :
    Settled s s.close := ⟨s.close_cursor, close_entries_perm h⟩

lemma Consistent.contains_close_iff {history : List Entity} {s : Scanner} (h : Consistent history s)
    (e : Entity) : s.close.set.contains e = true ↔ e.slot ∈ s.slots := by
  have hclose : s.close.set.slots.Perm (history.map Entity.slot) := by
    simpa [Scanner.slots] using h.close.slots
  rw [BindingSet.contains_iff, hclose.mem_iff, h.slots.mem_iff]

/-- A text fails for a missing delimiter exactly at a line that is the first to lack one. -/
lemma scan_missing_iff {s u : Scanner} {text : String} {n : Nat} {d : Delimiter} :
    s.scan text = (.error (n, .missing d), u) ↔
      ∃ before line rest, trimmedLines text = before ++ line :: rest ∧ n = before.length + 1 ∧
        s.scanLines 1 before = (.ok (), u) ∧ u.lacking? line = some d ∧
        ∀ l₁ l l₂, before = l₁ ++ l :: l₂ → (s.advance l₁).lacking? l = none := by
  rw [scan, scanLines_error_iff]
  constructor
  · rintro ⟨before, line, rest, t, hlines, rfl, hok, hstep⟩
    obtain rfl := step_missing hstep
    have hlacks : u.lacking? line = some d := step_missing_iff.1 (by rw [hstep])
    refine ⟨before, line, rest, hlines, Nat.add_comm _ _, hok, hlacks, ?_⟩
    rintro l₁ l l₂ rfl
    exact lacking?_of_scanLines_ok hok
  · rintro ⟨before, line, rest, hlines, rfl, hok, hlacks, -⟩
    have hfst := step_missing_iff.2 hlacks
    have hstep : u.step line = (.error (.missing d), (u.step line).2) := Prod.ext hfst rfl
    rw [step_missing hstep] at hstep
    exact ⟨before, line, rest, u, hlines, Nat.add_comm _ _, hok, hstep⟩

/-- A text fails for a name exactly at a line that declares a name whose place is taken. -/
lemma Consistent.scan_duplicate_iff {history : List Entity} {s u : Scanner} (h : Consistent history s)
    {text registry name : String} {n : Nat} :
    s.scan text = (.error (n, .duplicate registry name), u) ↔
      ∃ before line rest t e, trimmedLines text = before ++ line :: rest ∧ n = before.length + 1 ∧
        s.scanLines 1 before = (.ok (), t) ∧ declaration? (classify line) line = some (.ok e) ∧
        e.registryName = registry ∧ e.name = name ∧ isHidden e.name = false ∧ e.slot ∈ t.slots ∧
        u = t.close ∧ Settled t u := by
  rw [scan, scanLines_error_iff]
  constructor
  · rintro ⟨before, line, rest, t, hlines, rfl, hok, hstep⟩
    obtain ⟨e, opens, hregistry, hname, visible, taken, rfl⟩ := step_duplicate_iff.1 hstep
    have ht : Consistent _ t := advance_of_scanLines_ok hok ▸ h.advance before
    exact ⟨before, line, rest, t, e, hlines, Nat.add_comm _ _, hok, opens, hregistry, hname,
      visible, (ht.contains_close_iff e).1 taken, rfl, ht.settled⟩
  · rintro ⟨before, line, rest, t, e, hlines, rfl, hok, opens, hregistry, hname, visible, taken,
      rfl, -⟩
    have ht : Consistent _ t := advance_of_scanLines_ok hok ▸ h.advance before
    have hstep := step_duplicate_iff.2 ⟨e, opens, hregistry, hname, visible,
      (ht.contains_close_iff e).2 taken, rfl⟩
    exact ⟨before, line, rest, t, hlines, Nat.add_comm _ _, hok, hstep⟩

/-- A failure depends on the lines up to the failing one only. -/
lemma scan_error_of_take_eq {s u : Scanner} {text other : String} {n : Nat} {e : LineError}
    (h : s.scan text = (.error (n, e), u))
    (htake : (trimmedLines other).take n = (trimmedLines text).take n) :
    s.scan other = (.error (n, e), u) := by
  rw [scan, scanLines_error_iff] at h ⊢
  obtain ⟨before, line, rest, t, hlines, rfl, hok, hstep⟩ := h
  have hfirst : (trimmedLines other).take (1 + before.length) = before ++ [line] := by
    rw [htake, hlines, Nat.add_comm, List.take_length_add_append, List.take_succ_cons,
      List.take_zero]
  refine ⟨before, line, (trimmedLines other).drop (1 + before.length), t, ?_, rfl, hok, hstep⟩
  calc trimmedLines other
      = (trimmedLines other).take (1 + before.length) ++
        (trimmedLines other).drop (1 + before.length) := (List.take_append_drop ..).symm
    _ = before ++ line :: (trimmedLines other).drop (1 + before.length) := by
      rw [hfirst, List.append_assoc, List.singleton_append]

/-- At every point of every run, a text fails for a missing delimiter exactly if the lines before some
line go through, lacking nothing, and that line lacks the delimiter; it then leaves the state that
those lines have led to. It fails for a name exactly if a line declares a name whose place is taken;
then the declaration that was open has moved to its registry. Nothing after the failing line counts. -/
theorem failing_line_leaves_no_trace (texts : List String) (text : String) :
    let s := new.after texts
    (∀ n d u, s.scan text = (.error (n, .missing d), u) ↔
      ∃ before line rest, trimmedLines text = before ++ line :: rest ∧ n = before.length + 1 ∧
        s.scanLines 1 before = (.ok (), u) ∧ u.lacking? line = some d ∧
        ∀ l₁ l l₂, before = l₁ ++ l :: l₂ → (s.advance l₁).lacking? l = none) ∧
    (∀ n registry name u, s.scan text = (.error (n, .duplicate registry name), u) ↔
      ∃ before line rest t e, trimmedLines text = before ++ line :: rest ∧ n = before.length + 1 ∧
        s.scanLines 1 before = (.ok (), t) ∧ declaration? (classify line) line = some (.ok e) ∧
        e.registryName = registry ∧ e.name = name ∧ isHidden e.name = false ∧ e.slot ∈ t.slots ∧
        u = t.close ∧ Settled t u) ∧
    ∀ n e u other, s.scan text = (.error (n, e), u) →
      (trimmedLines other).take n = (trimmedLines text).take n →
      s.scan other = (.error (n, e), u) := by
  intro s
  have hc : Consistent (new.accepted (new.met texts)) s := by
    have hs : s = new.advance (new.met texts) := after_eq_advance new texts
    exact hs ▸ consistent_advance (new.met texts)
  exact ⟨fun _ _ _ => scan_missing_iff, fun _ _ _ _ => hc.scan_duplicate_iff,
    fun _ _ _ _ => scan_error_of_take_eq⟩

end Scanner
end BindingDocs.Registration
