import BindingDocs.Registry
import Mathlib.Data.List.Nodup
import Mathlib.Data.List.Perm.Basic
import Mathlib.Tactic.Lemma

/-! Lookup in registries: a key stands for at most one value, and changing the value under one
key leaves all others alone. -/
namespace BindingDocs

lemma find?_alterSorted {α : Type} (key : String) (f : Option α → α) {es : List (String × α)}
    (h : es.Pairwise fun a b => a.1 < b.1) (k : String) :
    ((alterSorted key f es).find? (·.1 == k)).map (·.2) =
      if k = key then some (f ((es.find? (·.1 == key)).map (·.2)))
      else (es.find? (·.1 == k)).map (·.2) := by
  induction es with
  | nil =>
    by_cases hk : k = key
    · simp [alterSorted, hk]
    · simp [alterSorted, hk, Ne.symm hk]
  | cons a es ih =>
    obtain ⟨ha, hes⟩ := List.pairwise_cons.1 h
    have absent : key < a.1 → (a :: es).find? (·.1 == key) = none := by
      intro hlt
      rw [List.find?_eq_none]
      intro b hb
      rcases List.mem_cons.1 hb with rfl | hb
      · simpa using (String.ne_of_lt hlt).symm
      · simpa using (String.ne_of_lt (String.lt_trans hlt (ha b hb))).symm
    simp only [alterSorted]
    split
    · rename_i hlt
      rw [absent hlt]
      by_cases hk : k = key
      · simp [hk]
      · simp [hk, Ne.symm hk]
    · split
      · rename_i heq
        by_cases hk : k = key
        · simp [hk, heq]
        · have hak : ¬ a.1 = k := fun h => hk (by rw [heq, h])
          simp [hk, Ne.symm hk, hak]
      · rename_i hne
        have hne : ¬ a.1 = key := fun h => hne h.symm
        by_cases hak : a.1 = k
        · have hk : ¬ k = key := fun h => hne (by rw [hak, h])
          simp [hak, hk]
        · simpa [hak, hne] using ih hes

namespace Registry
variable {α : Type} (r : Registry α)

lemma get?_alter (key : String) (f : Option α → α) (k : String) :
    (r.alter key f).get? k = if k = key then some (f (r.get? key)) else r.get? k :=
  find?_alterSorted key f r.sorted k

lemma get?_insert (key : String) (a : α) (k : String) :
    (r.insert key a).get? k = if k = key then some a else r.get? k :=
  r.get?_alter key (fun _ => a) k

lemma entries_nodup : r.entries.Nodup :=
  r.sorted.imp fun hlt heq => String.ne_of_lt hlt (congrArg Prod.fst heq)

lemma keys_nodup : (r.entries.map Prod.fst).Nodup := by
  rw [List.Nodup, List.pairwise_map]
  exact r.sorted.imp String.ne_of_lt

lemma mem_entries_iff {k : String} {a : α} : (k, a) ∈ r.entries ↔ r.get? k = some a := by
  constructor
  · intro h
    obtain ⟨e, he⟩ : ∃ e, r.entries.find? (·.1 == k) = some e :=
      Option.isSome_iff_exists.1 (List.find?_isSome.2 ⟨(k, a), h, by simp⟩)
    have hk : e.1 = k := by simpa using List.find?_some he
    have hmem := List.mem_of_find?_eq_some he
    have heq : e = (k, a) := List.inj_on_of_nodup_map r.keys_nodup hmem h hk
    simp [get?, he, heq]
  · intro h
    obtain ⟨e, he, rfl⟩ := Option.map_eq_some_iff.1 h
    have hk : e.1 = k := by simpa using List.find?_some he
    rw [← hk]
    exact List.mem_of_find?_eq_some he

/-- An entry after an insertion is the new one, or was there before. -/
lemma of_mem_entries_insert {r : Registry α} {key k : String} {a b : α}
    (h : (k, b) ∈ (r.insert key a).entries) : (k, b) = (key, a) ∨ (k, b) ∈ r.entries := by
  rw [mem_entries_iff, get?_insert] at h
  split at h
  · rename_i hk
    cases h
    exact .inl (by rw [hk])
  · exact .inr (r.mem_entries_iff.2 h)

lemma contains_iff {k : String} : r.contains k = true ↔ k ∈ r.entries.map Prod.fst := by
  rw [contains, Option.isSome_iff_exists, List.mem_map]
  constructor
  · rintro ⟨a, ha⟩
    exact ⟨(k, a), r.mem_entries_iff.2 ha, rfl⟩
  · rintro ⟨⟨_, a⟩, ha, rfl⟩
    exact ⟨a, r.mem_entries_iff.1 ha⟩

/-- A new key adds one entry and leaves the others. -/
lemma entries_insert_perm {key : String} (a : α) (h : r.contains key = false) :
    (r.insert key a).entries.Perm ((key, a) :: r.entries) := by
  have absent : key ∉ r.entries.map Prod.fst := by
    rw [← r.contains_iff]
    simp [h]
  have hnew : ((key, a) :: r.entries).Nodup :=
    List.nodup_cons.2 ⟨fun hm => absent (List.mem_map_of_mem hm), r.entries_nodup⟩
  refine (List.perm_ext_iff_of_nodup (r.insert key a).entries_nodup hnew).2 ?_
  rintro ⟨k, b⟩
  rw [mem_entries_iff, get?_insert, List.mem_cons, Prod.mk.injEq]
  split
  · rename_i hk
    subst hk
    have hb : (k, b) ∉ r.entries := fun hm => absent (List.mem_map_of_mem hm)
    simp [hb, eq_comm]
  · rename_i hk
    simp [hk, mem_entries_iff]

/-- A registry is known by its entries. -/
lemma eq_of_entries {r r' : Registry α} (h : r.entries = r'.entries) : r = r' := by
  cases r
  cases r'
  cases h
  rfl

lemma eq_of_mem_iff {r r' : Registry α} (h : ∀ k a, (k, a) ∈ r.entries ↔ (k, a) ∈ r'.entries) :
    r = r' := by
  have hperm : r.entries.Perm r'.entries :=
    (List.perm_ext_iff_of_nodup r.entries_nodup r'.entries_nodup).2 fun x => h x.1 x.2
  have hasymm : ∀ x y : String × α, x ∈ r.entries → y ∈ r'.entries → x.1 < y.1 → y.1 < x.1 → x = y :=
    fun x y _ _ hxy hyx => absurd (String.lt_trans hxy hyx) (String.lt_irrefl x.1)
  exact eq_of_entries (hperm.eq_of_pairwise hasymm r.sorted r'.sorted)

/-- Change all values. -/
def mapValues {β : Type} (r : Registry α) (f : α → β) : Registry β :=
  ⟨r.entries.map fun e => (e.1, f e.2), List.pairwise_map.2 r.sorted⟩

lemma mapValues_eq_self_iff (f : α → α) : r.mapValues f = r ↔ ∀ a ∈ r.values, f a = a := by
  rw [values, List.forall_mem_map]
  constructor
  · intro h e he
    have hmem : (e.1, f e.2) ∈ (r.mapValues f).entries := List.mem_map.2 ⟨e, he, rfl⟩
    rw [h] at hmem
    exact congrArg Prod.snd (List.inj_on_of_nodup_map r.keys_nodup hmem he rfl)
  · intro h
    refine eq_of_entries ?_
    calc r.entries.map (fun e => (e.1, f e.2))
        = r.entries.map id := List.map_congr_left fun e he => by rw [h e he, id]
      _ = r.entries := List.map_id _

end Registry
end BindingDocs
