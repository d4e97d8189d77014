import BindingDocs.Output.Emitter
import BindingDocs.Proofs.BindingSet
import BindingDocs.Proofs.Inheritance
import Mathlib.Logic.Relation

/-! Where a class stands in the order of inheritance, compared with its base. The rank of a class is
judged from the name of its base alone, so classes of one rank stand in the order of their keys, also
where one of them is the base of another. -/
namespace BindingDocs.Registration

namespace BindingSet

/-- The set that some declarations build, inserted one after the other. -/
def ofEntities (es : List Entity) : BindingSet := es.foldl insert empty

lemma keyed_ofEntities (es : List Entity) : (ofEntities es).Keyed := by
  suffices hfold : ∀ s : BindingSet, s.Keyed → (es.foldl insert s).Keyed from
    hfold empty (by simp [Keyed])
  induction es with
  | nil => exact fun s h => h
  | cons e es ih => exact fun s h => ih _ (h.insert e)

end BindingSet
end BindingDocs.Registration

namespace BindingDocs.Inheritance
open BindingDocs.Output BindingDocs.Reference BindingDocs.Registration

/-- One class stands before another by rank and key. -/
def Below (b c : BoundClass) : Prop :=
  rank b < rank c ∨ rank b = rank c ∧ keyOf b.name < keyOf c.name

instance (b c : BoundClass) : Decidable (Below b c) := inferInstanceAs (Decidable (_ ∨ _))

lemma below_of_precedes {b c : BoundClass} (h : precedes b c = true)
    (hne : keyOf b.name ≠ keyOf c.name) : Below b c := by
  simp only [precedes, Bool.or_eq_true, Bool.and_eq_true, decide_eq_true_eq, beq_iff_eq] at h
  rcases h with hrank | ⟨hrank, hkey⟩
  · exact .inl hrank
  · exact .inr ⟨hrank, Decidable.byContradiction fun hlt =>
      hne (String.le_antisymm hkey (String.not_lt.1 hlt))⟩

lemma Below.not_precedes {b c : BoundClass} (h : Below b c) : ¬ precedes c b = true := by
  simp only [precedes, Bool.or_eq_true, Bool.and_eq_true, decide_eq_true_eq, beq_iff_eq]
  rintro (hrank | ⟨hrank, hkey⟩)
  · rcases h with hlt | ⟨heq, -⟩
    · omega
    · omega
  · rcases h with hlt | ⟨-, hlt⟩
    · omega
    · exact String.not_lt.2 hkey hlt

lemma Below.ne {b c : BoundClass} (h : Below b c) : b ≠ c := by
  rintro rfl
  rcases h with hlt | ⟨-, hlt⟩
  · exact Nat.lt_irrefl _ hlt
  · exact String.lt_irrefl _ hlt

/-- Of two elements of a list, one stands before the other. -/
lemma pair_sublist_or {α : Type} {l : List α} {a b : α} (ha : a ∈ l) (hb : b ∈ l) (hne : a ≠ b) :
    [a, b].Sublist l ∨ [b, a].Sublist l := by
  induction l with
  | nil => simp at ha
  | cons x l ih =>
    rcases List.mem_cons.1 ha with rfl | hal
    · have hbl : b ∈ l := (List.mem_cons.1 hb).resolve_left (Ne.symm hne)
      exact .inl ((List.singleton_sublist.2 hbl).cons_cons a)
    · rcases List.mem_cons.1 hb with rfl | hbl
      · exact .inr ((List.singleton_sublist.2 hal).cons_cons b)
      · exact (ih hal hbl).imp (·.cons x) (·.cons x)

/-- In a list of classes with different keys, one stands before another exactly if it does by rank and
key. -/
lemma pair_sublist_basesFirst_iff {cs : List BoundClass} (keys : (cs.map fun c => keyOf c.name).Nodup)
    {b c : BoundClass} (hb : b ∈ cs) (hc : c ∈ cs) :
    [b, c].Sublist (basesFirst cs) ↔ Below b c := by
  have hperm := basesFirst_perm cs
  have hsorted : ∀ {a d}, [a, d].Sublist (basesFirst cs) → precedes a d = true :=
    List.pairwise_iff_forall_sublist.1 (basesFirst_pairwise cs)
  constructor
  · intro h
    have hkeys : ((basesFirst cs).map fun c => keyOf c.name).Nodup := (hperm.map _).nodup_iff.2 keys
    have hne : keyOf b.name ≠ keyOf c.name :=
      List.pairwise_iff_forall_sublist.1 (List.pairwise_map.1 hkeys) h
    exact below_of_precedes (hsorted h) hne
  · intro h
    refine (pair_sublist_or (hperm.mem_iff.2 hb) (hperm.mem_iff.2 hc) h.ne).resolve_right ?_
    exact fun hcb => h.not_precedes (hsorted hcb)

/-- A class of a set, and the class of that set that it names as its base. -/
structure IsBase (set : BindingSet) (b c : BoundClass) : Prop where
  base : b ∈ set.classes .python
  derived : c ∈ set.classes .python
  named : namedBase? c.base = some b.name

instance (set : BindingSet) (b c : BoundClass) : Decidable (IsBase set b c) :=
  decidable_of_iff (_ ∧ _ ∧ _) ⟨fun h => ⟨h.1, h.2.1, h.2.2⟩, fun h => ⟨h.base, h.derived, h.named⟩⟩

/-- No class is its own base, directly or through others. -/
def Acyclic (set : BindingSet) : Prop := ∀ c, ¬ Relation.TransGen (IsBase set) c c

/-- Where a class stands, compared with its base, in the list by inheritance and so in the skeleton
module: behind its base exactly if its rank is larger, or their ranks are equal and its key is
larger. -/
theorem base_comes_first_iff (es : List Entity) (m : Model) (o : Options) :
    let set := BindingSet.ofEntities es
    let ordered := basesFirst (set.classes .python)
    (∃ path, Emitter.python.artifacts ⟨m, set⟩ o =
      [⟨path, unlines (ordered.flatMap (Skeleton.classLines ⟨m, set⟩))⟩]) ∧
    (∀ b c, IsBase set b c →
      (Skeleton.classLines ⟨m, set⟩ c).head? = some ("class " ++ c.name ++ "(" ++ b.name ++ "):") ∧
      ([b, c].Sublist ordered ↔
        rank b < rank c ∨ rank b = rank c ∧ keyOf b.name < keyOf c.name)) := by
  intro set ordered
  refine ⟨⟨_, rfl⟩, fun b c h => ⟨?_, ?_⟩⟩
  · simp [Skeleton.classLines, Skeleton.classHeader, h.named]
  · exact pair_sublist_basesFirst_iff ((BindingSet.keyed_ofEntities es).keys_nodup .python)
      h.base h.derived

def plainClass (name : String) (base : Option String) : BoundClass := ⟨name, base, [], [], []⟩

/-- Bases whose names are known have a rank of their own. -/
theorem base_comes_first_iff_curves :
    let curve := plainClass "Curve" (some "GeometryBase")
    let arc := plainClass "ArcCurve" (some "Curve")
    let set := BindingSet.ofEntities [.bound .python arc, .bound .python curve]
    IsBase set curve arc ∧ rank curve < rank arc ∧
      [curve, arc].Sublist (basesFirst (set.classes .python)) := by
  intro curve arc set
  have hbase : IsBase set curve arc := by decide +kernel
  have hrank : rank curve < rank arc := by decide
  have hall := base_comes_first_iff [.bound .python arc, .bound .python curve] .empty {}
  exact ⟨hbase, hrank, (hall.2 curve arc hbase).2.2 (.inl hrank)⟩

/-- In a chain of other names a class can stand before its base. -/
theorem derived_class_before_its_base :
    let base := plainClass "Section" none
    let conic := plainClass "Conic" (some "Section")
    let arc := plainClass "Arc" (some "Conic")
    let set := BindingSet.ofEntities [.bound .python arc, .bound .python conic, .bound .python base]
    Acyclic set ∧ IsBase set conic arc ∧
      basesFirst (set.classes .python) = [base, arc, conic] ∧
      ¬ [conic, arc].Sublist (basesFirst (set.classes .python)) := by
  intro base conic arc set
  have hlist : set.classes .python = [arc, conic, base] := by decide +kernel
  have hordered : basesFirst (set.classes .python) = [base, arc, conic] := by decide +kernel
  have hlength : ∀ b c, IsBase set b c → c.name.length < b.name.length := by
    intro b c h
    have hall : ∀ c ∈ [arc, conic, base], ∀ b ∈ [arc, conic, base],
        namedBase? c.base = some b.name → c.name.length < b.name.length := by decide +kernel
    exact hall c (hlist ▸ h.derived) b (hlist ▸ h.base) h.named
  refine ⟨?_, by decide +kernel, hordered, ?_⟩
  · intro c hcycle
    have hless : ∀ {x y}, Relation.TransGen (IsBase set) x y → y.name.length < x.name.length := by
      intro x y hxy
      induction hxy with
      | single h => exact hlength _ _ h
      | tail _ h ih => exact Nat.lt_trans (hlength _ _ h) ih
    exact Nat.lt_irrefl _ (hless hcycle)
  · rw [hordered]
    decide +kernel

end BindingDocs.Inheritance
