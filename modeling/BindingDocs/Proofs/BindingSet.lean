import BindingDocs.Proofs.Registry
import BindingDocs.Registration.BindingSet

/-! The three registries of a binding set as one list of entries. -/
namespace BindingDocs.Registration

/-- The place of a declaration: its registry, and its key there. -/
def Entity.slot (e : Entity) : String × String := (e.registryName, keyOf e.name)

namespace BindingSet
variable (s : BindingSet)

/-- The entries of all three registries, each with its key. -/
def entries : List (String × Entity) :=
  s.javascript.entries.map (fun e => (e.1, .bound .javascript e.2)) ++
    s.python.entries.map (fun e => (e.1, .bound .python e.2)) ++
    s.enums.entries.map (fun e => (e.1, .enumeration e.2))

/-- The places that are taken. -/
def slots : List (String × String) := s.entries.map fun e => (e.2.registryName, e.1)

/-- Every entry stands under the key of its name. -/
def Keyed (s : BindingSet) : Prop := ∀ x ∈ s.entries, x.1 = keyOf x.2.name

@[simp] lemma entries_empty : empty.entries = [] := rfl

lemma mem_entries_bound {k : String} {d : Dialect} {c : BoundClass} :
    (k, .bound d c) ∈ s.entries ↔ (k, c) ∈ (s.registry d).entries := by
  cases d <;> simp [entries, registry]

lemma mem_entries_enumeration {k : String} {e : BoundEnum} :
    (k, .enumeration e) ∈ s.entries ↔ (k, e) ∈ s.enums.entries := by
  simp [entries]

lemma slots_eq :
    s.slots = (s.javascript.entries.map Prod.fst).map (("javascript", ·)) ++
      (s.python.entries.map Prod.fst).map (("python", ·)) ++
      (s.enums.entries.map Prod.fst).map (("enum", ·)) := by
  simp [slots, entries, Entity.registryName, Dialect.name, Function.comp_def]

lemma contains_iff {e : Entity} : s.contains e = true ↔ e.slot ∈ s.slots := by
  rw [slots_eq]
  rcases e with ⟨_ | _, c⟩ | x
  · simp [contains, registry, Registry.contains_iff, Entity.slot, Entity.registryName, Dialect.name,
      Entity.name]
  · simp [contains, registry, Registry.contains_iff, Entity.slot, Entity.registryName, Dialect.name,
      Entity.name]
  · simp [contains, Registry.contains_iff, Entity.slot, Entity.registryName, Entity.name]

/-- A declaration whose place is free is added, and nothing else changes. -/
lemma entries_insert_perm {e : Entity} (h : s.contains e = false) :
    (s.insert e).entries.Perm ((keyOf e.name, e) :: s.entries) := by
  rcases e with ⟨_ | _, c⟩ | x
  · have hp := s.javascript.entries_insert_perm c h
    simpa [entries, insert, Entity.name] using (hp.map _).append_right _
  · have hp := s.python.entries_insert_perm c h
    simp only [entries, insert, Entity.name, List.append_assoc]
    refine (((hp.map _).append_right _).append_left _).trans ?_
    simp only [List.map_cons, List.cons_append]
    exact List.perm_middle
  · have hp := s.enums.entries_insert_perm x h
    simp only [entries, insert, Entity.name]
    refine ((hp.map _).append_left _).trans ?_
    simp only [List.map_cons]
    exact List.perm_middle

lemma slots_insert_perm {e : Entity} (h : s.contains e = false) :
    (s.insert e).slots.Perm (e.slot :: s.slots) :=
  (s.entries_insert_perm h).map _

lemma slots_nodup (set : BindingSet) : set.slots.Nodup := by
  have hkeys {α : Type} (r : Registry α) (tag : String) :
      ((r.entries.map Prod.fst).map ((tag, ·))).Nodup :=
    r.keys_nodup.map fun _ _ h => congrArg Prod.snd h
  have hapart {l l' : List String} {tag tag' : String} (hne : tag ≠ tag') :
      ∀ a ∈ l.map ((tag, ·)), ∀ b ∈ l'.map ((tag', ·)), a ≠ b := by
    simp [hne]
  rw [slots_eq, List.append_assoc, List.nodup_append, List.nodup_append]
  refine ⟨hkeys _ _, ⟨hkeys _ _, hkeys _ _, hapart (by simp)⟩, fun a ha b hb => ?_⟩
  rcases List.mem_append.1 hb with hb | hb
  · exact hapart (by simp) a ha b hb
  · exact hapart (by simp) a ha b hb

lemma mem_entries_insert {s : BindingSet} {e : Entity} {x : String × Entity}
    (h : x ∈ (s.insert e).entries) : x = (keyOf e.name, e) ∨ x ∈ s.entries := by
  rcases x with ⟨k, ⟨_ | _, c⟩ | y⟩
  · rw [mem_entries_bound] at h ⊢
    rcases e with ⟨_ | _, d⟩ | z
    · simpa [Entity.name, registry] using Registry.of_mem_entries_insert h
    · exact .inr h
    · exact .inr h
  · rw [mem_entries_bound] at h ⊢
    rcases e with ⟨_ | _, d⟩ | z
    · exact .inr h
    · simpa [Entity.name, registry] using Registry.of_mem_entries_insert h
    · exact .inr h
  · rw [mem_entries_enumeration] at h ⊢
    rcases e with ⟨_ | _, d⟩ | z
    · exact .inr h
    · exact .inr h
    · simpa [Entity.name, registry] using Registry.of_mem_entries_insert h

lemma Keyed.insert {s : BindingSet} (h : s.Keyed) (e : Entity) : (s.insert e).Keyed := by
  intro x hx
  rcases mem_entries_insert hx with rfl | hx
  · rfl
  · exact h x hx

/-- The classes of a dialect have different keys. -/
lemma Keyed.keys_nodup {s : BindingSet} (h : s.Keyed) (d : Dialect) :
    ((s.classes d).map fun c => keyOf c.name).Nodup := by
  have hkeys : (s.classes d).map (fun c => keyOf c.name) = (s.registry d).entries.map Prod.fst := by
    rw [classes, Registry.values, List.map_map]
    exact List.map_congr_left fun x hx => (h (x.1, .bound d x.2) (s.mem_entries_bound.2 hx)).symm
  rw [hkeys]
  exact (s.registry d).keys_nodup

/-- A set is known by its entries. -/
lemma eq_of_entries_perm {s t : BindingSet} (h : s.entries.Perm t.entries) : s = t := by
  have hclasses : ∀ d, s.registry d = t.registry d := fun d =>
    Registry.eq_of_mem_iff fun k c => by
      rw [← s.mem_entries_bound, h.mem_iff, t.mem_entries_bound]
  have henums : s.enums = t.enums := Registry.eq_of_mem_iff fun k x => by
    rw [← s.mem_entries_enumeration, h.mem_iff, t.mem_entries_enumeration]
  rcases s with ⟨js, py, enums⟩
  rcases t with ⟨js', py', enums'⟩
  exact congr (congr (congrArg mk (hclasses .javascript)) (hclasses .python)) henums

end BindingSet
end BindingDocs.Registration
