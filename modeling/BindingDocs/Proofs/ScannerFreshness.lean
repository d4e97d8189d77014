import BindingDocs.Proofs.ScannerRun

/-! Every accepted declaration has a place of its own, which no later line takes from it. -/
namespace BindingDocs.Registration
namespace Scanner

/-- The places of everything registered and of the declaration that is still open. -/
def slots (s : Scanner) : List (String × String) := s.set.slots ++ (s.cursor.map Entity.slot).toList

/-- The state of a scanner that has accepted some declarations. -/
structure Consistent (history : List Entity) (s : Scanner) : Prop where
  slots : s.slots.Perm (history.map Entity.slot)
  once : (history.map Entity.slot).Nodup
  keyed : s.set.Keyed
  visible : ∀ x ∈ s.set.entries, isHidden x.2.name = false
  active : ∀ e, s.cursor = some e → isHidden e.name = false

lemma consistent_new : Consistent [] new where
  slots := List.Perm.refl _
  once := List.nodup_nil
  keyed := by simp [new, BindingSet.Keyed]
  visible := by simp [new]
  active := by simp [new]

/-- A member changes neither the name nor the registry of a declaration. -/
lemma Adds.same {line : String} {kind : LineKind} {e e' : Entity} (h : Adds line kind e e') :
    e'.name = e.name ∧ e'.slot = e.slot := by
  cases h <;> exact ⟨rfl, rfl⟩

namespace Consistent
variable {history : List Entity} {s : Scanner}

/-- The open declaration is not registered yet. -/
lemma fresh (h : Consistent history s) {e : Entity} (hc : s.cursor = some e) :
    s.set.contains e = false := by
  have hn : s.slots.Nodup := h.slots.nodup_iff.2 h.once
  rw [Scanner.slots, hc] at hn
  have hd : e.slot ∉ s.set.slots := by
    intro hm
    exact (List.nodup_append.1 hn).2.2 e.slot hm e.slot (by simp) rfl
  rw [Bool.eq_false_iff]
  exact fun hm => hd (s.set.contains_iff.1 hm)

lemma close (h : Consistent history s) : Consistent history s.close := by
  rcases s with ⟨set, _ | e⟩
  · exact h
  have entries := set.entries_insert_perm (h.fresh rfl)
  refine ⟨?_, h.once, ?_, ?_, by simp⟩
  · refine List.Perm.trans ?_ h.slots
    have hs := set.slots_insert_perm (h.fresh rfl)
    simpa [Scanner.slots] using hs.trans (List.perm_append_singleton _ _).symm
  · exact h.keyed.insert e
  · intro x hx
    rcases List.mem_cons.1 (entries.subset hx) with rfl | hx
    · exact h.active e rfl
    · exact h.visible x hx

/-- A declaration whose place is free may be opened once the one before it is closed. -/
lemma opened (h : Consistent history s) {e : Entity} (visible : isHidden e.name = false)
    (free : s.close.set.contains e = false) :
    Consistent (history ++ [e]) ⟨s.close.set, some e⟩ := by
  have hc := h.close
  have hp : s.close.set.slots.Perm (history.map Entity.slot) := by
    simpa [Scanner.slots] using hc.slots
  refine ⟨?_, ?_, hc.keyed, hc.visible, ?_⟩
  · simpa [Scanner.slots] using hp.append_right [e.slot]
  · have hfree : e.slot ∉ history.map Entity.slot := by
      rw [← hp.mem_iff, ← s.close.set.contains_iff]
      simp [free]
    rw [List.map_append, List.nodup_append]
    exact ⟨hc.once, by simp, fun a ha b hb hab => hfree (by simp_all)⟩
  · rintro _ ⟨⟩
    exact visible

lemma extended (h : Consistent history s) {e e' : Entity} (hc : s.cursor = some e)
    (hn : e'.name = e.name) (hs : e'.slot = e.slot) : Consistent history ⟨s.set, some e'⟩ := by
  refine ⟨?_, h.once, h.keyed, h.visible, ?_⟩
  · simpa [Scanner.slots, hc, hs] using h.slots
  · rintro _ ⟨⟩
    rw [hn]
    exact h.active e hc

/-- One line keeps the history true. -/
lemma step (h : Consistent history s) (line : String) :
    Consistent (history ++ (s.accepted? line).toList) (s.step line).2 := by
  have hm := s.step_move line
  generalize (s.step line).1 = r at hm
  generalize (s.step line).2 = t at hm ⊢
  cases hm with
  | hidden opens hh => simpa [accepted?, opens, hh] using h.close
  | repeated opens hv taken => simpa [accepted?, opens, hv, begin, taken] using h.close
  | opened opens hv free => simpa [accepted?, opens, hv, begin, free] using h.opened hv free
  | undeclared opens => simpa [accepted?, opens] using h
  | terminated ends => simpa [accepted?, ends, declaration?] using h.close
  | idle inner goes idle => simpa [accepted?, inner] using h
  | extended inner goes active adds =>
    have same := (addMember_adds adds).same
    simpa [accepted?, inner] using h.extended active same.1 same.2
  | unread inner goes active lacks => simpa [accepted?, inner] using h

/-- Any number of lines keeps the history true. -/
lemma advance (h : Consistent history s) (lines : List String) :
    Consistent (history ++ s.accepted lines) (s.advance lines) := by
  induction lines generalizing history s with
  | nil => simpa [accepted] using h
  | cons line rest ih => simpa [accepted] using ih (h.step line)

end Consistent

lemma consistent_advance (lines : List String) :
    Consistent (new.accepted lines) (new.advance lines) := by
  simpa using consistent_new.advance lines

namespace Consistent
variable {history : List Entity} {s : Scanner}

lemma entries_close (h : Consistent history s) {x : String × Entity} (hx : x ∈ s.set.entries) :
    x ∈ s.close.set.entries := by
  rcases s with ⟨set, _ | e⟩
  · exact hx
  · exact (set.entries_insert_perm (h.fresh rfl)).mem_iff.2 (List.mem_cons_of_mem _ hx)

/-- What is registered stays as it is. -/
lemma entries_step (h : Consistent history s) (line : String) {x : String × Entity}
    (hx : x ∈ s.set.entries) : x ∈ (s.step line).2.set.entries := by
  have hm := s.step_move line
  generalize (s.step line).1 = r at hm
  generalize (s.step line).2 = t at hm ⊢
  cases hm with
  | hidden | repeated | opened | terminated => exact h.entries_close hx
  | undeclared | idle | extended | unread => exact hx

lemma entries_advance (h : Consistent history s) (lines : List String) {x : String × Entity}
    (hx : x ∈ s.set.entries) : x ∈ (s.advance lines).set.entries := by
  induction lines generalizing history s with
  | nil => exact hx
  | cons line rest ih => exact ih (h.step line) (h.entries_step line hx)

lemma class_found (h : Consistent history s) {d : Dialect} {c : BoundClass}
    (hc : c ∈ s.set.classes d) : s.set.class? d c.name = some c := by
  obtain ⟨⟨k, c⟩, hk, rfl⟩ := List.mem_map.1 hc
  have hkey : k = keyOf c.name := h.keyed (k, .bound d c) (s.set.mem_entries_bound.2 hk)
  rw [hkey] at hk
  exact (s.set.registry d).mem_entries_iff.1 hk

lemma enum_found (h : Consistent history s) {x : BoundEnum} (hx : x ∈ s.set.enumList) :
    s.set.enum? x.name = some x := by
  obtain ⟨⟨k, x⟩, hk, rfl⟩ := List.mem_map.1 hx
  have hkey : k = keyOf x.name := h.keyed (k, .enumeration x) (s.set.mem_entries_enumeration.2 hk)
  rw [hkey] at hk
  exact s.set.enums.mem_entries_iff.1 hk

/-- A declaration is refused exactly if it is not hidden and its place is taken. -/
lemma refused_iff (h : Consistent history s) {line : String} {e : Entity}
    (opens : declaration? (classify line) line = some (.ok e)) :
    (s.step line).1 = .error (.duplicate e.registryName e.name) ↔
      isHidden e.name = false ∧ e.slot ∈ history.map Entity.slot := by
  have hp : s.close.set.slots.Perm (history.map Entity.slot) := by
    simpa [Scanner.slots] using h.close.slots
  have hstep : s.step line = s.begin e := by simp only [Scanner.step, opens]
  rw [hstep, ← hp.mem_iff, ← s.close.set.contains_iff, begin]
  cases isHidden e.name <;> cases s.close.set.contains e <;> simp

end Consistent

/-- The lines met in scanning some texts, and then the first `n` of those met in one more. -/
def metUntil (texts : List String) (text : String) (n : Nat) : List String :=
  new.met texts ++ ((new.after texts).metLines (trimmedLines text)).take n

/-- The state after some texts, and then the first `n` lines met in one more. -/
def reached (texts : List String) (text : String) (n : Nat) : Scanner :=
  (new.after texts).advance (((new.after texts).metLines (trimmedLines text)).take n)

lemma reached_eq (texts : List String) (text : String) (n : Nat) :
    reached texts text n = new.advance (metUntil texts text n) := by
  rw [metUntil, advance_append, ← after_eq_advance]
  rfl

/-- At every point of every run, whether texts failed in it or not, the places taken are those of the
declarations accepted so far, each accepted once. So closing never replaces an entry, entries last,
and a declaration is a duplicate exactly if its place was given away before. -/
theorem declarations_keep_their_places (texts : List String) (text : String) (n : Nat) :
    let s := reached texts text n
    let history := (new.accepted (metUntil texts text n)).map Entity.slot
    s.slots.Perm history ∧ history.Nodup ∧
    (∀ e, s.cursor = some e → s.set.contains e = false) ∧
    (∀ later, ∀ x ∈ s.set.entries, x ∈ (s.advance later).set.entries) ∧
    (∀ x ∈ s.set.entries, isHidden x.2.name = false) ∧
    (∀ d, ∀ c ∈ s.set.classes d, s.set.class? d c.name = some c) ∧
    (∀ x ∈ s.set.enumList, s.set.enum? x.name = some x) ∧
    ∀ line e, (trimmedLines text)[n]? = some line →
      ((new.after texts).scanLines 1 ((trimmedLines text).take n)).1 = .ok () →
      declaration? (classify line) line = some (.ok e) →
      (((new.after texts).scan text).1 = .error (n + 1, .duplicate e.registryName e.name) ↔
        isHidden e.name = false ∧ e.slot ∈ history) := by
  have h := consistent_advance (metUntil texts text n)
  rw [← reached_eq] at h
  refine ⟨h.slots, h.once, fun e => h.fresh, fun later x => h.entries_advance later, h.visible,
    fun d c => h.class_found, fun x => h.enum_found, ?_⟩
  intro line e hline hok opens
  have hall : ((new.after texts).metLines (trimmedLines text)).take n = (trimmedLines text).take n := by
    have hn := (List.getElem?_eq_some_iff.1 hline).1
    have hmet := metLines_append_of_ok ((trimmedLines text).drop n) hok
    rw [List.take_append_drop] at hmet
    rw [hmet, List.take_append_of_le_length (by simp; omega), List.take_take, Nat.min_self]
  rw [scan_error_iff hline hok, ← hall]
  exact h.refused_iff opens

end Scanner
end BindingDocs.Registration
