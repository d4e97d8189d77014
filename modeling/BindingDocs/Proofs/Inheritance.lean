import BindingDocs.Inheritance
import Mathlib.Data.List.Perm.Basic
import Mathlib.Tactic.Lemma

/-! The order of classes by inheritance: a rearrangement, by rank and then by key. -/
namespace BindingDocs.Inheritance
open BindingDocs.Registration

lemma insertClass_perm (c : BoundClass) (cs : List BoundClass) :
    (insertClass c cs).Perm (c :: cs) := by
  induction cs with
  | nil => exact List.Perm.refl _
  | cons d ds ih =>
    rw [insertClass]
    split
    · exact List.Perm.refl _
    · exact (ih.cons d).trans (List.Perm.swap c d ds)

lemma basesFirst_perm (cs : List BoundClass) : (basesFirst cs).Perm cs := by
  induction cs with
  | nil => exact List.Perm.refl _
  | cons c cs ih => exact (insertClass_perm c _).trans (ih.cons c)

lemma precedes_total (a b : BoundClass) (h : precedes a b = false) : precedes b a = true := by
  simp only [precedes, Bool.or_eq_false_iff, Bool.and_eq_false_iff, decide_eq_false_iff_not,
    beq_eq_false_iff_ne, Bool.or_eq_true, Bool.and_eq_true, decide_eq_true_eq, beq_iff_eq] at h ⊢
  rcases Nat.lt_trichotomy (rank b) (rank a) with hlt | heq | hgt
  · exact .inl hlt
  · refine .inr ⟨heq, ?_⟩
    rcases h.2 with hne | hle
    · exact absurd heq.symm hne
    · exact (String.le_total _ _).resolve_left hle
  · exact absurd hgt h.1

lemma precedes_trans {a b c : BoundClass} (hab : precedes a b = true) (hbc : precedes b c = true) :
    precedes a c = true := by
  simp only [precedes, Bool.or_eq_true, Bool.and_eq_true, decide_eq_true_eq, beq_iff_eq] at hab hbc ⊢
  rcases hab with hab | ⟨hab, kab⟩
  · rcases hbc with hbc | ⟨hbc, -⟩
    · exact .inl (by omega)
    · exact .inl (by omega)
  · rcases hbc with hbc | ⟨hbc, kbc⟩
    · exact .inl (by omega)
    · exact .inr ⟨by omega, String.le_trans kab kbc⟩

lemma insertClass_pairwise (c : BoundClass) {cs : List BoundClass}
    (h : cs.Pairwise fun a b => precedes a b = true) :
    (insertClass c cs).Pairwise fun a b => precedes a b = true := by
  induction cs with
  | nil => simp [insertClass]
  | cons d ds ih =>
    obtain ⟨hd, hds⟩ := List.pairwise_cons.1 h
    rw [insertClass]
    split
    · rename_i hcd
      refine List.pairwise_cons.2 ⟨?_, h⟩
      intro e he
      rcases List.mem_cons.1 he with rfl | he
      · exact hcd
      · exact precedes_trans hcd (hd e he)
    · rename_i hcd
      have hdc := precedes_total c d (Bool.not_eq_true _ ▸ hcd)
      refine List.pairwise_cons.2 ⟨?_, ih hds⟩
      intro e he
      rcases List.mem_cons.1 ((insertClass_perm c ds).mem_iff.1 he) with rfl | he
      · exact hdc
      · exact hd e he

lemma basesFirst_pairwise (cs : List BoundClass) :
    (basesFirst cs).Pairwise fun a b => precedes a b = true := by
  induction cs with
  | nil => exact List.Pairwise.nil
  | cons c cs ih => exact insertClass_pairwise c ih

end BindingDocs.Inheritance
