import BindingDocs.Proofs.BindingSet
import BindingDocs.Registration.Scanner

/-! Runs of the scanner: what one line can do, and the lines that a sequence of texts makes the
scanner meet. A text is left at its first failing line, and the next one goes on from there. -/
namespace BindingDocs.Registration
namespace Scanner

@[simp] lemma close_cursor (s : Scanner) : s.close.cursor = none := by
  rcases s with ⟨set, _ | e⟩ <;> rfl

@[simp] lemma close_idle (set : BindingSet) : close ⟨set, none⟩ = ⟨set, none⟩ := rfl

@[simp] lemma close_open (set : BindingSet) (e : Entity) :
    close ⟨set, some e⟩ = ⟨set.insert e, none⟩ := rfl

lemma found_bind_ok {α β : Type} {x : Found α} {f : α → Found β} {b : β}
    (h : (x >>= f) = .ok b) : ∃ a, x = .ok a ∧ f a = .ok b := by
  cases x with
  | error d => cases h
  | ok a => exact ⟨a, rfl, h⟩

/-- Whether a line of some kind is a member line of a declaration. -/
def takes : Entity → LineKind → Bool
  | .bound _ _, .constructor => true
  | .bound _ _, .property => true
  | .bound _ _, .method _ => true
  | .enumeration _, .value => true
  | _, _ => false

/-- What a line adds to a declaration. -/
inductive Adds (line : String) : LineKind → Entity → Entity → Prop
  | constructor {d c types} (types_ok : constructorTypes line = .ok types) :
      Adds line .constructor (.bound d c)
        (.bound d { c with constructors := c.constructors ++ [types] })
  | property {d c name} (name_ok : firstQuoted line = .ok name) :
      Adds line .property (.bound d c) (.bound d { c with properties := c.properties ++ [name] })
  | method {d c isStatic name symbol args} (name_ok : firstQuoted line = .ok name)
      (symbol_ok : nativeSymbol line = .ok symbol) (args_ok : argNames line = .ok args) :
      Adds line (.method isStatic) (.bound d c)
        (.bound d { c with methods := c.methods ++ [⟨name, isStatic, symbol, args⟩] })
  | value {x name} (name_ok : firstQuoted line = .ok name) :
      Adds line .value (.enumeration x) (.enumeration { x with values := x.values ++ [name] })
  | foreign {kind e} (foreign : takes e kind = false) : Adds line kind e e

lemma addMember_adds {e e' : Entity} {kind : LineKind} {line : String}
    (h : addMember e kind line = .ok e') : Adds line kind e e' := by
  unfold addMember at h
  split at h
  · obtain ⟨types, ht, hp⟩ := found_bind_ok h
    cases hp
    exact Adds.constructor ht
  · obtain ⟨name, hn, hp⟩ := found_bind_ok h
    cases hp
    exact Adds.property hn
  · obtain ⟨name, hn, h⟩ := found_bind_ok h
    obtain ⟨symbol, hs, h⟩ := found_bind_ok h
    obtain ⟨args, ha, hp⟩ := found_bind_ok h
    cases hp
    exact Adds.method hn hs ha
  · obtain ⟨name, hn, hp⟩ := found_bind_ok h
    cases hp
    exact Adds.value hn
  · cases h
    refine Adds.foreign ?_
    cases e <;> cases kind <;> simp_all [takes]

/-- The effects that scanning a line can have. -/
inductive Move (s : Scanner) (line : String) : Except LineError Unit → Scanner → Prop
  | hidden {e} (opens : declaration? (classify line) line = some (.ok e))
      (hidden : isHidden e.name = true) : Move s line (.ok ()) s.close
  | repeated {e} (opens : declaration? (classify line) line = some (.ok e))
      (visible : isHidden e.name = false) (taken : s.close.set.contains e = true) :
      Move s line (.error (.duplicate e.registryName e.name)) s.close
  | opened {e} (opens : declaration? (classify line) line = some (.ok e))
      (visible : isHidden e.name = false) (free : s.close.set.contains e = false) :
      Move s line (.ok ()) ⟨s.close.set, some e⟩
  | undeclared {d} (opens : declaration? (classify line) line = some (.error d)) :
      Move s line (.error (.missing d)) s
  | terminated (ends : classify line = .terminator) : Move s line (.ok ()) s.close
  | idle (inner : declaration? (classify line) line = none) (goes : classify line ≠ .terminator)
      (idle : s.cursor = none) : Move s line (.ok ()) s
  | extended {e e'} (inner : declaration? (classify line) line = none)
      (goes : classify line ≠ .terminator) (active : s.cursor = some e)
      (adds : addMember e (classify line) line = .ok e') : Move s line (.ok ()) ⟨s.set, some e'⟩
  | unread {e d} (inner : declaration? (classify line) line = none)
      (goes : classify line ≠ .terminator) (active : s.cursor = some e)
      (lacks : addMember e (classify line) line = .error d) : Move s line (.error (.missing d)) s

lemma begin_move (s : Scanner) (line : String) {e : Entity}
    (opens : declaration? (classify line) line = some (.ok e)) :
    Move s line (s.begin e).1 (s.begin e).2 := by
  unfold begin
  cases hh : isHidden e.name with
  | true => simpa [hh] using Move.hidden opens hh
  | false =>
    cases hc : s.close.set.contains e with
    | true => simpa [hh, hc] using Move.repeated opens hh hc
    | false => simpa [hh, hc] using Move.opened opens hh hc

theorem step_move (s : Scanner) (line : String) : Move s line (s.step line).1 (s.step line).2 := by
  simp only [step]
  cases hd : declaration? (classify line) line with
  | some found =>
    cases found with
    | ok e => simpa only [hd] using begin_move s line hd
    | error d => simpa only [hd] using Move.undeclared hd
  | none =>
    by_cases ht : classify line = .terminator
    · simpa only [hd, ht, if_true] using Move.terminated ht
    · cases hc : s.cursor with
      | none => simpa only [hd, ht, if_false] using Move.idle hd ht hc
      | some e =>
        cases ha : addMember e (classify line) line with
        | ok e' => simpa only [hd, ht, if_false, ha] using Move.extended hd ht hc ha
        | error d => simpa only [hd, ht, if_false, ha] using Move.unread hd ht hc ha

/-- The state after some lines, whether they fail or not. -/
def advance (s : Scanner) (lines : List String) : Scanner :=
  lines.foldl (fun s line => (s.step line).2) s

@[simp] lemma advance_nil (s : Scanner) : s.advance [] = s := rfl

@[simp] lemma advance_cons (s : Scanner) (line : String) (lines : List String) :
    s.advance (line :: lines) = (s.step line).2.advance lines := rfl

lemma advance_append (s : Scanner) (l₁ l₂ : List String) :
    s.advance (l₁ ++ l₂) = (s.advance l₁).advance l₂ := List.foldl_append ..

/-- The lines of one text that are met: those up to the first that fails, with it. -/
def metLines (s : Scanner) : List String → List String
  | [] => []
  | line :: rest => match s.step line with
    | (.ok (), s) => line :: s.metLines rest
    | (.error _, _) => [line]

/-- The state after scanning some texts one after the other, whether they fail or not. -/
def after (s : Scanner) (texts : List String) : Scanner :=
  texts.foldl (fun s text => (s.scan text).2) s

/-- The lines met in scanning some texts one after the other. -/
def met (s : Scanner) : List String → List String
  | [] => []
  | text :: rest => s.metLines (trimmedLines text) ++ (s.scan text).2.met rest

lemma scanLines_advance (s : Scanner) (n : Nat) (lines : List String) :
    (s.scanLines n lines).2 = s.advance (s.metLines lines) := by
  induction lines generalizing s n with
  | nil => rfl
  | cons line rest ih =>
    unfold scanLines metLines
    rcases hs : s.step line with ⟨_ | u, t⟩
    · simp [hs]
    · simp [hs, ih]

/-- Scanning texts is stepping through the lines that are met. -/
theorem after_eq_advance (s : Scanner) (texts : List String) :
    s.after texts = s.advance (s.met texts) := by
  induction texts generalizing s with
  | nil => rfl
  | cons text rest ih =>
    rw [met, advance_append, ← scanLines_advance s 1]
    exact ih _

/-- Lines without an error are all met, and then those that follow. -/
lemma metLines_append_of_ok {s : Scanner} {n : Nat} {l₁ : List String} (l₂ : List String)
    (h : (s.scanLines n l₁).1 = .ok ()) :
    s.metLines (l₁ ++ l₂) = l₁ ++ (s.advance l₁).metLines l₂ := by
  induction l₁ generalizing s n with
  | nil => rfl
  | cons line rest ih =>
    unfold scanLines at h
    rw [List.cons_append, metLines]
    rcases hs : s.step line with ⟨_ | u, t⟩
    · simp [hs] at h
    · simp only [hs] at h
      simp [hs, ih h]

lemma scanLines_append_of_ok {s : Scanner} {n : Nat} {l₁ : List String} (l₂ : List String)
    (h : (s.scanLines n l₁).1 = .ok ()) :
    s.scanLines n (l₁ ++ l₂) = (s.advance l₁).scanLines (n + l₁.length) l₂ := by
  induction l₁ generalizing s n with
  | nil => rfl
  | cons line rest ih =>
    unfold scanLines at h
    rw [List.cons_append, scanLines]
    rcases hs : s.step line with ⟨_ | u, t⟩
    · simp [hs] at h
    · simp only [hs] at h
      simp only [advance_cons, hs, ih h, List.length_cons]
      congr 1
      omega

/-- Where the numbering starts has no influence on whether lines fail. -/
lemma scanLines_ok_any {s : Scanner} {n : Nat} {lines : List String}
    (h : (s.scanLines n lines).1 = .ok ()) (m : Nat) : (s.scanLines m lines).1 = .ok () := by
  induction lines generalizing s n m with
  | nil => rfl
  | cons line rest ih =>
    unfold scanLines at h ⊢
    rcases hs : s.step line with ⟨_ | u, t⟩
    · simp [hs] at h
    · simp only [hs] at h ⊢
      exact ih h _

/-- An error is reported at the first line or later. -/
lemma scanLines_error_ge {s : Scanner} {n m : Nat} {lines : List String} {e : LineError}
    (h : (s.scanLines n lines).1 = .error (m, e)) : n ≤ m := by
  induction lines generalizing s n with
  | nil => simp [scanLines] at h
  | cons line rest ih =>
    unfold scanLines at h
    rcases hs : s.step line with ⟨_ | u, t⟩
    · simp only [hs, Except.error.injEq, Prod.mk.injEq] at h
      omega
    · simp only [hs] at h
      have := ih h
      omega

/-- A line that is reached fails a text exactly if the line itself fails. -/
lemma scan_error_iff {s : Scanner} {text line : String} {n : Nat} {e : LineError}
    (hline : (trimmedLines text)[n]? = some line)
    (hok : (s.scanLines 1 ((trimmedLines text).take n)).1 = .ok ()) :
    (s.scan text).1 = .error (n + 1, e) ↔
      ((s.advance ((trimmedLines text).take n)).step line).1 = .error e := by
  obtain ⟨hn, hget⟩ := List.getElem?_eq_some_iff.1 hline
  have hsplit : trimmedLines text = (trimmedLines text).take n ++ line :: (trimmedLines text).drop (n + 1) := by
    rw [← hget, List.getElem_cons_drop, List.take_append_drop]
  have hlen : ((trimmedLines text).take n).length = n := by simp; omega
  have hscan := scanLines_append_of_ok (line :: (trimmedLines text).drop (n + 1)) hok
  rw [← hsplit, hlen, Nat.add_comm 1 n] at hscan
  rw [scan, hscan, scanLines]
  rcases hs : (s.advance ((trimmedLines text).take n)).step line with ⟨d | u, t⟩
  · simp
  · simp only [reduceCtorEq, iff_false]
    intro h
    have := scanLines_error_ge h
    omega

/-- The declaration that a line opens: not a hidden one, and none that is refused. -/
def accepted? (s : Scanner) (line : String) : Option Entity :=
  match declaration? (classify line) line with
  | some (.ok e) => match isHidden e.name, (s.begin e).1 with
    | false, .ok () => some e
    | _, _ => none
  | _ => none

/-- The declarations opened by some lines, in order. -/
def accepted (s : Scanner) : List String → List Entity
  | [] => []
  | line :: rest => (s.accepted? line).toList ++ (s.step line).2.accepted rest

end Scanner
end BindingDocs.Registration
