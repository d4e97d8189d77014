import BindingDocs.Text.LowerCase

/-! Registries: values under keys, in strictly increasing order of the keys. -/
namespace BindingDocs

/-- Change the value under a key, which may be missing, in a sorted list. -/
def alterSorted {α : Type} (key : String) (f : Option α → α) : List (String × α) → List (String × α)
  | [] => [(key, f none)]
  | e :: es =>
    if key < e.1 then (key, f none) :: e :: es
    else if key = e.1 then (key, f (some e.2)) :: es
    else e :: alterSorted key f es

section
variable {α : Type} (key : String) (f : Option α → α)

theorem mem_alterSorted {es : List (String × α)} {e : String × α}
    (h : e ∈ alterSorted key f es) : e.1 = key ∨ e ∈ es := by
  induction es with
  | nil => simp_all [alterSorted]
  | cons a es ih =>
    simp only [alterSorted] at h
    split at h
    · grind
    · split at h
      · grind
      · rcases List.mem_cons.1 h with rfl | h
        · simp
        · have := ih h
          grind

theorem alterSorted_pairwise {es : List (String × α)}
    (h : es.Pairwise fun a b => a.1 < b.1) :
    (alterSorted key f es).Pairwise fun a b => a.1 < b.1 := by
  induction es with
  | nil => simp [alterSorted]
  | cons a es ih =>
    obtain ⟨ha, hes⟩ := List.pairwise_cons.1 h
    simp only [alterSorted]
    split
    · rename_i hlt
      refine List.pairwise_cons.2 ⟨?_, h⟩
      intro b hb
      rcases List.mem_cons.1 hb with rfl | hb
      · exact hlt
      · exact String.lt_trans hlt (ha b hb)
    · split
      · rename_i heq
        exact List.pairwise_cons.2 ⟨fun b hb => by simpa [heq] using ha b hb, hes⟩
      · rename_i hlt hne
        refine List.pairwise_cons.2 ⟨?_, ih hes⟩
        intro b hb
        rcases mem_alterSorted key f hb with hk | hb
        · grind
        · exact ha b hb

end

structure Registry (α : Type) where
  entries : List (String × α)
  sorted : entries.Pairwise fun a b => a.1 < b.1

namespace Registry
variable {α : Type}

def empty : Registry α := ⟨[], List.Pairwise.nil⟩

instance : Inhabited (Registry α) := ⟨empty⟩

def get? (r : Registry α) (key : String) : Option α := (r.entries.find? (·.1 == key)).map (·.2)

def contains (r : Registry α) (key : String) : Bool := (r.get? key).isSome

/-- Change the value under a key, which may be missing. -/
def alter (r : Registry α) (key : String) (f : Option α → α) : Registry α :=
  ⟨alterSorted key f r.entries, alterSorted_pairwise key f r.sorted⟩

/-- Put a value under a key, in place of any other. -/
def insert (r : Registry α) (key : String) (a : α) : Registry α := r.alter key fun _ => a

/-- The values in the order of their keys. -/
def values (r : Registry α) : List α := r.entries.map (·.2)

def size (r : Registry α) : Nat := r.entries.length

end Registry
end BindingDocs
