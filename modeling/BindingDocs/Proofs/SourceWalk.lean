import BindingDocs.Generation
import BindingDocs.Proofs.FileTree
import Mathlib.Data.List.Nodup
import Mathlib.Data.List.Perm.Basic
import Mathlib.Tactic.SplitIfs

/-! The walk through a tree of files: it lists exactly the admitted files, each of them once, in the
order of the bytes of their paths, name by name. -/
namespace BindingDocs.Files
open BindingDocs.Text

/-- The bytes of a text. -/
def bytes (s : String) : List UInt8 := s.toByteArray.data.toList

lemma bytes_eq (s : String) : bytes s = s.toList.flatMap String.utf8EncodeChar := by
  rw [bytes, ← String.utf8Encode_toList, List.utf8Encode, List.toList_data_toByteArray]

lemma ofNat_cons_lt_iff {n m : Nat} (hn : n < 256) (hm : m < 256) (x y : List UInt8) :
    UInt8.ofNat n :: x < UInt8.ofNat m :: y ↔ n < m ∨ n = m ∧ x < y := by
  rw [List.cons_lt_cons_iff, UInt8.lt_iff_toNat_lt, ← UInt8.toNat_inj,
    UInt8.toNat_ofNat_of_lt' hn, UInt8.toNat_ofNat_of_lt' hm]

/-- Numbers are compared by their last digit only where the others agree. -/
lemma lt_by_digits {v w : Nat} (h : v < w) :
    v / 64 < w / 64 ∨ v / 64 = w / 64 ∧ v % 64 < w % 64 := by omega

/-- The bytes of a smaller character come first, whatever follows. -/
lemma utf8EncodeChar_append_lt {c d : Char} (h : c < d) (x y : List UInt8) :
    String.utf8EncodeChar c ++ x < String.utf8EncodeChar d ++ y := by
  have hlt : c.val.toNat < d.val.toNat := h
  have htop : d.val.toNat < 0x110000 := by
    have hvalid := d.valid
    rw [UInt32.isValidChar, Nat.isValidChar] at hvalid
    omega
  simp only [String.utf8EncodeChar]
  generalize c.val.toNat = v at hlt ⊢
  generalize d.val.toNat = w at hlt htop ⊢
  have hv : v / 4096 = v / 64 / 64 ∧ v / 262144 = v / 64 / 64 / 64 := by omega
  have hw : w / 4096 = w / 64 / 64 ∧ w / 262144 = w / 64 / 64 / 64 := by omega
  have hlead : v / 262144 % 8 = v / 262144 ∧ w / 262144 % 8 = w / 262144 := by omega
  have hlast := lt_by_digits hlt
  have hthird := lt_by_digits (v := v / 64) (w := w / 64)
  have hsecond := lt_by_digits (v := v / 64 / 64) (w := w / 64 / 64)
  split_ifs <;> simp (disch := omega) only [List.cons_append, ofNat_cons_lt_iff]
  all_goals omega

lemma flatMap_utf8EncodeChar_lt {s t : List Char} (h : s < t) :
    s.flatMap String.utf8EncodeChar < t.flatMap String.utf8EncodeChar := by
  induction h with
  | nil =>
    rename_i c t
    have hpos : 0 < (String.utf8EncodeChar c).length := by
      rw [String.length_utf8EncodeChar]
      exact c.utf8Size_pos
    obtain ⟨b, bs, hbytes⟩ := List.exists_cons_of_length_pos hpos
    rw [List.flatMap_nil, List.flatMap_cons, hbytes]
    exact List.nil_lt_cons _ _
  | cons _ ih =>
    rw [List.flatMap_cons, List.flatMap_cons]
    exact List.append_left_lt ih
  | rel hlt =>
    rw [List.flatMap_cons, List.flatMap_cons]
    exact utf8EncodeChar_append_lt hlt _ _

lemma bytes_lt {s t : String} (h : s < t) : bytes s < bytes t := by
  rw [bytes_eq, bytes_eq]
  exact flatMap_utf8EncodeChar_lt h

section Sorting
variable {α : Type}

lemma insertByName_perm (e : String × α) (es : List (String × α)) :
    (insertByName e es).Perm (e :: es) := by
  induction es with
  | nil => exact List.Perm.refl _
  | cons x xs ih =>
    rw [insertByName]
    split
    · exact List.Perm.refl _
    · exact (ih.cons x).trans (List.Perm.swap e x xs)

lemma insertByName_pairwise (e : String × α) {es : List (String × α)}
    (h : es.Pairwise fun a b => a.1 ≤ b.1) :
    (insertByName e es).Pairwise fun a b => a.1 ≤ b.1 := by
  induction es with
  | nil => simp [insertByName]
  | cons x xs ih =>
    obtain ⟨hx, hxs⟩ := List.pairwise_cons.1 h
    rw [insertByName]
    split
    · rename_i hlt
      have hle := String.not_lt.1 (String.lt_asymm hlt)
      refine List.pairwise_cons.2 ⟨fun y hy => ?_, h⟩
      rcases List.mem_cons.1 hy with rfl | hy
      · exact hle
      · exact String.le_trans hle (hx y hy)
    · rename_i hlt
      refine List.pairwise_cons.2 ⟨fun y hy => ?_, ih hxs⟩
      rcases List.mem_cons.1 ((insertByName_perm e xs).mem_iff.1 hy) with rfl | hy
      · exact String.not_lt.1 hlt
      · exact hx y hy

/-- Sorting from the front: what has been sorted stays sorted, and nothing is lost. -/
lemma foldl_insertByName (es sorted : List (String × α)) (h : sorted.Pairwise fun a b => a.1 ≤ b.1) :
    (es.foldl (fun sorted e => insertByName e sorted) sorted).Perm (sorted ++ es) ∧
      (es.foldl (fun sorted e => insertByName e sorted) sorted).Pairwise fun a b => a.1 ≤ b.1 := by
  induction es generalizing sorted with
  | nil => exact ⟨by simp, h⟩
  | cons e es ih =>
    obtain ⟨hperm, hpairwise⟩ := ih (insertByName e sorted) (insertByName_pairwise e h)
    refine ⟨hperm.trans ?_, hpairwise⟩
    exact ((insertByName_perm e sorted).append_right es).trans List.perm_middle.symm

lemma mem_sortByName {e : String × α} {es : List (String × α)} : e ∈ sortByName es ↔ e ∈ es :=
  (foldl_insertByName es [] List.Pairwise.nil).1.mem_iff

/-- Entries with different names are sorted strictly. -/
lemma sortByName_pairwise {es : List (String × α)} (h : (es.map (·.1)).Nodup) :
    (sortByName es).Pairwise fun a b => a.1 < b.1 := by
  obtain ⟨hperm, hle⟩ := foldl_insertByName es [] List.Pairwise.nil
  have hdistinct : ((sortByName es).map (·.1)).Nodup := (hperm.map _).nodup_iff.2 h
  rw [List.nodup_iff_pairwise_ne, List.pairwise_map] at hdistinct
  refine (hle.and hdistinct).imp fun hpair => ?_
  exact String.not_le.1 fun hge => hpair.2 (String.le_antisymm hpair.1 hge)

end Sorting

/-- A name of a file or directory: it is not empty and has no slash in it. -/
def IsName (name : String) : Prop := name ≠ "" ∧ '/' ∉ name.toList

instance (name : String) : Decidable (IsName name) := inferInstanceAs (Decidable (_ ∧ _))

/-- The path of a place below a root. -/
def pathAt (root : String) (place : List String) : String := place.foldl joinPath root

/-- The name of what stands at a place below a root, which has a name of its own. -/
def nameAt (root : String) (place : List String) : String := place.getLast?.getD (fileName root)

lemma exists_joinPath_eq (root name : String) :
    ∃ front, joinPath root name = front ++ name ∧ (front = "" ∨ front.toList.getLast? = some '/') := by
  rw [joinPath]
  split
  · rename_i h
    exact ⟨root, rfl, by simpa using h⟩
  · exact ⟨root ++ "/", rfl, .inr (by simp)⟩

lemma fileName_joinPath (root : String) {name : String} (h : IsName name) :
    fileName (joinPath root name) = name := by
  obtain ⟨front, hpath, hfront⟩ := exists_joinPath_eq root name
  rw [fileName, hpath, String.toList_append]
  rcases hfront with rfl | hslash
  · simp [afterLast_of_not_mem h.2]
  · obtain ⟨init, hinit⟩ := List.getLast?_eq_some_iff.1 hslash
    rw [hinit, List.append_assoc, List.singleton_append, afterLast_append_cons,
      afterLast_of_not_mem h.2, String.ofList_toList]

lemma fileName_pathAt (root : String) {place : List String} (h : ∀ name ∈ place, IsName name) :
    fileName (pathAt root place) = nameAt root place := by
  rcases List.eq_nil_or_concat place with rfl | ⟨init, last, rfl⟩
  · rfl
  · rw [List.concat_eq_append] at h ⊢
    rw [pathAt, List.foldl_concat, nameAt, List.getLast?_concat]
    exact fileName_joinPath _ (h last (by simp))

/-- Below a path that ends in a name, the steps of a path are those of the two parts. -/
lemma steps_joinPath_name (root : String) {name : String} (h : IsName name) (next : String) :
    steps (joinPath (joinPath root name) next) = steps (joinPath root name) ++ steps next := by
  obtain ⟨front, hpath, -⟩ := exists_joinPath_eq root name
  have hne : name.toList ≠ [] := by simpa using h.1
  have hempty : joinPath root name ≠ "" := by
    rw [hpath, ← String.toList_inj.ne]
    simp [hne]
  have hlast : (joinPath root name).toList.getLast? ≠ some '/' := by
    rw [hpath, String.toList_append, List.getLast?_append_of_ne_nil _ hne]
    exact fun hslash => h.2 (List.mem_of_getLast? hslash)
  rw [joinPath.eq_def (joinPath root name), if_neg (by simp [hempty, hlast])]
  generalize joinPath root name = path
  have hchars : (path ++ "/" ++ next).toList = path.toList ++ '/' :: next.toList := by simp
  rw [steps, hchars, splitAt_append_delimiter, List.map_append]
  rfl

lemma steps_name {name : String} (h : IsName name) : steps name = [name] := by
  rw [steps, splitAt_of_not_mem h.2, List.map_singleton, String.ofList_toList]

/-- The steps to the places below a root end in the names of the place. -/
lemma exists_steps_pathAt (root : String) :
    ∃ front, ∀ name place, (∀ x ∈ name :: place, IsName x) →
      steps (pathAt root (name :: place)) = front ++ name :: place := by
  obtain ⟨front, hfront⟩ := Node.exists_steps_joinPath root
  refine ⟨front, fun name place h => ?_⟩
  suffices hbelow : ∀ (root name : String) (place : List String), (∀ x ∈ name :: place, IsName x) →
      steps (pathAt root (name :: place)) = steps (joinPath root name) ++ place by
    rw [hbelow root name place h, hfront, steps_name (h name (by simp)), List.append_assoc,
      List.singleton_append]
  clear h hfront
  intro root name place h
  induction place generalizing root name with
  | nil => exact (List.append_nil _).symm
  | cons next place ih =>
    have hname := h name (by simp)
    have hnext := h next (by simp)
    have hrest := ih (joinPath root name) next fun x hx => h x (List.mem_cons_of_mem _ hx)
    calc steps (pathAt root (name :: next :: place))
        = steps (joinPath (joinPath root name) next) ++ place := hrest
      _ = steps (joinPath root name) ++ next :: place := by
        rw [steps_joinPath_name root hname, steps_name hnext, List.append_assoc, List.singleton_append]

namespace Node

/-- A tree as a file system holds it: the entries of a directory have names, and no two have the same
one. -/
inductive WellFormed : Node → Prop
  | file (text : Option String) : WellFormed (.file text)
  | dir {entries : List (String × Node)} (distinct : (entries.map (·.1)).Nodup)
      (named : ∀ e ∈ entries, IsName e.1) (below : ∀ e ∈ entries, WellFormed e.2) :
      WellFormed (.dir entries)

lemma child?_eq_some_iff {entries : List (String × Node)} (h : (entries.map (·.1)).Nodup)
    {name : String} {n : Node} : (Node.dir entries).child? name = some n ↔ (name, n) ∈ entries := by
  rw [child?, Option.map_eq_some_iff]
  constructor
  · rintro ⟨e, he, rfl⟩
    have hname : e.1 = name := by simpa using List.find?_some he
    exact hname ▸ List.mem_of_find?_eq_some he
  · intro hmem
    obtain ⟨e, he⟩ := Option.isSome_iff_exists.1 (List.find?_isSome.2 ⟨_, hmem, by simp⟩ :
      (entries.find? (·.1 == name)).isSome = true)
    have hname : e.1 = name := by simpa using List.find?_some he
    have heq := List.inj_on_of_nodup_map h (List.mem_of_find?_eq_some he) hmem hname
    exact ⟨e, he, by rw [heq]⟩

lemma get?_dir_cons_iff {entries : List (String × Node)} (h : (entries.map (·.1)).Nodup)
    {name : String} {place : List String} {n : Node} :
    (Node.dir entries).get? (name :: place) = some n ↔
      ∃ child, (name, child) ∈ entries ∧ child.get? place = some n := by
  simp only [get?, Option.bind_eq_some_iff, child?_eq_some_iff h]

lemma get?_file_eq_some_iff {text : Option String} {place : List String} {n : Node} :
    (Node.file text).get? place = some n ↔ place = [] ∧ n = .file text := by
  cases place with
  | nil => simp [get?, eq_comm]
  | cons name place => simp [get?, child?]

lemma WellFormed.isName {n m : Node} (h : n.WellFormed) {place : List String}
    (hm : n.get? place = some m) : ∀ name ∈ place, IsName name := by
  induction h generalizing place with
  | file text => simp [(get?_file_eq_some_iff.1 hm).1]
  | dir distinct named _ ih =>
    cases place with
    | nil => simp
    | cons name place =>
      obtain ⟨child, hchild, hbelow⟩ := (get?_dir_cons_iff distinct).1 hm
      exact List.forall_mem_cons.2 ⟨named _ hchild, ih _ hchild hbelow⟩

/-- The files of one entry of a directory. -/
def filesBelow (skipped : List String) (path : String) (e : String × Node) : List SourceFile :=
  if e.2.isDir && skipped.contains e.1 then [] else e.2.files skipped (joinPath path e.1)

lemma entryFiles_eq (skipped : List String) (path : String) (entries : List (String × Node)) :
    entryFiles skipped path entries = entries.map fun e => (e.1, filesBelow skipped path e) := by
  induction entries with
  | nil => rfl
  | cons e entries ih =>
    rw [entryFiles, ih]
    rfl

lemma mem_filesBelow {skipped : List String} {path : String} {e : String × Node} {f : SourceFile} :
    f ∈ filesBelow skipped path e ↔
      (e.2.isDir = true → e.1 ∉ skipped) ∧ f ∈ e.2.files skipped (joinPath path e.1) := by
  rw [filesBelow]
  split <;> rename_i h <;> simp at h ⊢ <;> tauto

/-- The walk lists what stands at the places whose directories are not skipped. -/
lemma mem_files {n : Node} (h : n.WellFormed) {skipped : List String} {path : String}
    {f : SourceFile} :
    f ∈ n.files skipped path ↔ ∃ place text, n.get? place = some (.file text) ∧
      (∀ name ∈ place.dropLast, name ∉ skipped) ∧ f = ⟨pathAt path place, text⟩ := by
  induction h generalizing path with
  | file text =>
    simp only [files, List.mem_singleton, get?_file_eq_some_iff, Node.file.injEq]
    constructor
    · rintro rfl
      exact ⟨[], text, ⟨rfl, rfl⟩, by simp, rfl⟩
    · rintro ⟨_, _, ⟨rfl, rfl⟩, -, rfl⟩
      rfl
  | @dir entries distinct named _ ih =>
    have hentries : f ∈ (Node.dir entries).files skipped path ↔
        ∃ e ∈ entries, f ∈ filesBelow skipped path e := by
      simp [files, entryFiles_eq, mem_sortByName]
    rw [hentries]
    constructor
    · rintro ⟨⟨name, child⟩, he, hf⟩
      obtain ⟨hopen, hf⟩ := mem_filesBelow.1 hf
      obtain ⟨place, text, hget, hplace, rfl⟩ := (ih _ he).1 hf
      refine ⟨name :: place, text, (get?_dir_cons_iff distinct).2 ⟨child, he, hget⟩, ?_, rfl⟩
      cases place with
      | nil => simp
      | cons next place =>
        cases child with
        | file text => cases hget
        | dir _ => exact List.forall_mem_cons.2 ⟨hopen rfl, hplace⟩
    · rintro ⟨place, text, hget, hplace, rfl⟩
      cases place with
      | nil => cases hget
      | cons name place =>
        obtain ⟨child, he, hget⟩ := (get?_dir_cons_iff distinct).1 hget
        refine ⟨(name, child), he, mem_filesBelow.2 ⟨fun hdir => ?_, (ih _ he).2 ⟨place, text, hget, ?_, rfl⟩⟩⟩
        · cases place with
          | nil =>
            cases hget
            cases hdir
          | cons next place => exact hplace name (by simp)
        · intro x hx
          refine hplace x ?_
          cases place with
          | nil => simp at hx
          | cons next place => exact List.mem_cons_of_mem _ hx

/-- The order of files by their paths, name by name and each name by its bytes. -/
def Precedes (f g : SourceFile) : Prop := (steps f.path).map bytes < (steps g.path).map bytes

/-- The walk goes through the files in the order of their paths. -/
lemma files_pairwise {n : Node} (h : n.WellFormed) (skipped : List String) (path : String) :
    (n.files skipped path).Pairwise Precedes := by
  induction h generalizing path with
  | file text => exact List.pairwise_singleton _ _
  | @dir entries distinct named below ih =>
    obtain ⟨front, hfront⟩ := exists_steps_pathAt path
    have hsteps : ∀ e ∈ entries, ∀ f ∈ filesBelow skipped path e,
        ∃ place, steps f.path = front ++ e.1 :: place := by
      intro e he f hf
      obtain ⟨place, text, hget, -, rfl⟩ := (mem_files (below e he)).1 (mem_filesBelow.1 hf).2
      have hnames := List.forall_mem_cons.2 ⟨named e he, (below e he).isName hget⟩
      exact ⟨place, hfront e.1 place hnames⟩
    rw [files, entryFiles_eq, List.pairwise_flatMap]
    constructor
    · intro x hx
      obtain ⟨e, he, rfl⟩ := List.mem_map.1 (mem_sortByName.1 hx)
      change (filesBelow skipped path e).Pairwise Precedes
      rw [filesBelow]
      split
      · exact List.Pairwise.nil
      · exact ih e he (joinPath path e.1)
    · have hsorted : (sortByName (entries.map fun e => (e.1, filesBelow skipped path e))).Pairwise
          fun a b => a.1 < b.1 := sortByName_pairwise (by rwa [List.map_map])
      refine hsorted.imp_of_mem fun {x y} hx hy hlt f hf g hg => ?_
      obtain ⟨d, hd, rfl⟩ := List.mem_map.1 (mem_sortByName.1 hx)
      obtain ⟨e, he, rfl⟩ := List.mem_map.1 (mem_sortByName.1 hy)
      obtain ⟨p, hp⟩ := hsteps d hd f hf
      obtain ⟨q, hq⟩ := hsteps e he g hg
      rw [Precedes, hp, hq, List.map_append, List.map_append, List.map_cons, List.map_cons]
      exact List.append_left_lt (List.cons_lt_cons_iff.2 (.inl (bytes_lt hlt)))

end Node

/-- What follows the last dot of a name, if something stands before the dot. -/
def HasExtension (name extension : String) : Prop :=
  ∃ stem, stem ≠ "" ∧ name = stem ++ "." ++ extension ∧ '.' ∉ extension.toList

lemma extension?_eq_some_iff {name e : String} : extension? name = some e ↔ HasExtension name e := by
  rw [extension?]
  constructor
  · intro h
    by_cases hdot : '.' ∈ name.toList
    · obtain ⟨a, hname⟩ := exists_append_afterLast hdot
      have hb := not_mem_afterLast '.' name.toList
      generalize afterLast '.' name.toList = b at h hname hb
      simp only [hname] at h
      split at h
      · rename_i hlength
        cases h
        have hstem : a ≠ [] := by
          rintro rfl
          simp at hlength
        refine ⟨String.ofList a, ?_, ?_, by simpa using hb⟩
        · simpa [← String.toList_inj] using hstem
        · rw [← String.toList_inj, hname]
          simp
      · cases h
    · rw [afterLast_of_not_mem hdot, if_neg (by omega)] at h
      cases h
  · rintro ⟨stem, hstem, rfl, hdot⟩
    have hchars : (stem ++ "." ++ e).toList = stem.toList ++ '.' :: e.toList := by simp
    have hpos : 0 < stem.toList.length := List.length_pos_of_ne_nil (by simpa using hstem)
    simp only [hchars, afterLast_append_cons, afterLast_of_not_mem hdot]
    rw [if_pos, String.ofList_toList]
    rw [List.length_append, List.length_cons]
    omega

lemma SourceFile.hasExtension_iff {f : SourceFile} {extensions : List String} :
    f.hasExtension extensions = true ↔ ∃ e, HasExtension f.name e ∧
      ∃ x ∈ extensions, x.toList.map Char.toLower = e.toList.map Char.toLower := by
  simp only [← extension?_eq_some_iff]
  rw [hasExtension]
  cases extension? f.name with
  | none => simp
  | some e => simp [sameIgnoringAsciiCase, foldAscii, String.ofList_inj]

lemma lowerChar_ne_nil (c : Char) : lowerChar c ≠ [] := by
  rw [lowerChar]
  split
  · simp
  · split
    · simp
    · split <;> simp

lemma lowerCase_eq_empty_iff {s : String} : lowerCase s = "" ↔ s = "" := by
  rw [← String.toList_inj, ← String.toList_inj, lowerCase, String.toList_ofList]
  cases s.toList with
  | nil => simp [lowerFrom]
  | cons c cs =>
    have hne : lowerFrom [] (c :: cs) ≠ [] := by
      rw [lowerFrom]
      intro h
      have himage := (List.append_eq_nil_iff.1 h).1
      split at himage
      · split at himage <;> cases himage
      · exact lowerChar_ne_nil c himage
    simp [hne]

lemma SourceFile.isMarked_eq_false_iff {f : SourceFile} {mark : String} :
    f.isMarked mark = false ↔
      (lowerCase mark ≠ "" → ¬ (lowerCase mark).toList <+: (lowerCase f.name).toList) := by
  rw [isMarked, lowerCase_eq_empty_iff.ne, ← List.isPrefixOf_iff_prefix, Bool.not_eq_true,
    Bool.and_eq_false_iff, decide_eq_false_iff_not]
  exact imp_iff_not_or.symm

end BindingDocs.Files

namespace BindingDocs.Generation
open BindingDocs.Files BindingDocs.Registration BindingDocs.Text

/-- The sources that the bindings are read from. -/
def bindingFiles (s : BindingSettings) (root : String) (n : Node) : List SourceFile :=
  n.sources s.skippedDirs s.extensions root

lemma readBindings_eq (s : BindingSettings) (root : String) : readBindings s root = (do
    let n ← orFail (fun p => .bindings (.walk root p)) ((← get).tree.find root)
    let scanner ← (bindingFiles s root n).foldlM addBindings .new
    pure scanner.finish) := rfl

/-- A file below a root that is read as a reference source: no directory between the root and the
file is skipped, the extension is one of those asked for, in any case, and the name does not begin
with the mark of generated files. -/
structure IsReferenceSource (s : ReferenceSettings) (root : String) (n : Node) (place : List String)
    (text : Option String) : Prop where
  stands : n.get? place = some (.file text)
  directories : ∀ name ∈ place.dropLast, name ∉ s.skippedDirs
  extension : ∃ e, HasExtension (nameAt root place) e ∧
    ∃ x ∈ s.extensions, x.toList.map Char.toLower = e.toList.map Char.toLower
  unmarked : lowerCase s.generatedMark ≠ "" →
    ¬ (lowerCase s.generatedMark).toList <+: (lowerCase (nameAt root place)).toList

lemma mem_referenceFiles {s : ReferenceSettings} {root : String} {n : Node} (h : n.WellFormed)
    {f : SourceFile} :
    f ∈ (referenceFiles s root n).1 ↔
      ∃ place text, IsReferenceSource s root n place text ∧ f = ⟨pathAt root place, text⟩ := by
  rw [referenceFiles, List.partition_eq_filter_filter, Node.sources, List.mem_filter, List.mem_filter,
    Node.mem_files h, Bool.not_eq_true', SourceFile.hasExtension_iff, SourceFile.isMarked_eq_false_iff]
  constructor
  · rintro ⟨⟨⟨place, text, hget, hplace, rfl⟩, hextension⟩, hmark⟩
    rw [SourceFile.name, fileName_pathAt root (h.isName hget)] at hextension hmark
    exact ⟨place, text, ⟨hget, hplace, hextension, hmark⟩, rfl⟩
  · rintro ⟨place, text, hsource, rfl⟩
    rw [SourceFile.name, fileName_pathAt root (h.isName hsource.stands)]
    exact ⟨⟨⟨place, text, hsource.stands, hsource.directories, rfl⟩, hsource.extension⟩,
      hsource.unmarked⟩

lemma referenceFiles_pairwise (s : ReferenceSettings) (root : String) {n : Node} (h : n.WellFormed) :
    (referenceFiles s root n).1.Pairwise Node.Precedes := by
  rw [referenceFiles, List.partition_eq_filter_filter, Node.sources]
  exact ((Node.files_pairwise h _ _).filter _).filter _

/-- No name begins with the empty mark, so none is left out for it. -/
lemma bindingFiles_eq (s : BindingSettings) (symbols : List String) (root : String) (n : Node) :
    bindingFiles s root n = (referenceFiles ⟨s.extensions, "", s.skippedDirs, symbols⟩ root n).1 := by
  rw [referenceFiles, List.partition_eq_filter_filter]
  exact (List.filter_eq_self.2 fun f _ => by simp [SourceFile.isMarked]).symm

/-- The walk through a tree lists exactly the admitted files, strictly in the order of their paths.
Binding sources are listed as reference sources are for the empty mark. -/
theorem walk_lists_admitted_files (root : String) {n : Node} (h : n.WellFormed) :
    (∀ s : ReferenceSettings,
      (∀ f, f ∈ (referenceFiles s root n).1 ↔
        ∃ place text, IsReferenceSource s root n place text ∧ f = ⟨pathAt root place, text⟩) ∧
      (referenceFiles s root n).1.Pairwise fun f g =>
        (steps f.path).map bytes < (steps g.path).map bytes) ∧
    ∀ (b : BindingSettings) (symbols : List String),
      bindingFiles b root n =
        (referenceFiles ⟨b.extensions, "", b.skippedDirs, symbols⟩ root n).1 :=
  ⟨fun s => ⟨fun _ => mem_referenceFiles h, referenceFiles_pairwise s root h⟩,
    fun b symbols => bindingFiles_eq b symbols root n⟩

/-- A tree with a directory to be skipped, a generated file and a file without an extension. -/
def sampleTree : Node :=
  .dir [("a-b.CS", .file (some "")), ("obj", .dir [("c.cs", .file (some ""))]),
    ("AutoD.cs", .file (some "")), ("a", .dir [("x.cs", .file none)]), (".cs", .file (some ""))]

lemma sampleTree_wellFormed : sampleTree.WellFormed := by
  refine .dir (by decide) (by decide) ?_
  simp only [List.forall_mem_cons]
  refine ⟨.file _, .dir (by decide) (by decide) ?_, .file _, .dir (by decide) (by decide) ?_, .file _,
    by simp⟩
  · simpa using Node.WellFormed.file _
  · simpa using Node.WellFormed.file _

/-- The name of the root may be one that is skipped below it. The directory `a` comes before `a-b.CS`,
though the path of the file in it comes after it as a text. -/
theorem walk_lists_admitted_files_sample :
    sampleTree.WellFormed ∧
      (referenceFiles {} "obj" sampleTree).1 = [⟨"obj/a/x.cs", none⟩, ⟨"obj/a-b.CS", some ""⟩] ∧
      (∃ place text, IsReferenceSource {} "obj" sampleTree place text ∧
        (⟨"obj/a/x.cs", none⟩ : SourceFile) = ⟨pathAt "obj" place, text⟩) ∧
      bindingFiles ⟨["cs"], ["obj"]⟩ "obj" sampleTree =
        (referenceFiles ⟨["cs"], "", ["obj"], []⟩ "obj" sampleTree).1 := by
  have hlist : (referenceFiles {} "obj" sampleTree).1 =
      [⟨"obj/a/x.cs", none⟩, ⟨"obj/a-b.CS", some ""⟩] := by decide +kernel
  have hwalk := walk_lists_admitted_files "obj" sampleTree_wellFormed
  exact ⟨sampleTree_wellFormed, hlist, ((hwalk.1 {}).1 _).1 (by simp [hlist]), hwalk.2 ⟨_, _⟩ []⟩

end BindingDocs.Generation
