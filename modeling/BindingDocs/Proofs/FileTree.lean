import BindingDocs.Files.Tree
import BindingDocs.Proofs.TextSearch

/-! Writing into trees of files. A written file is found again under its path, and everything else in
the tree is kept. -/
namespace BindingDocs.Text

/-- The pieces of a text that is cut at a delimiter are those of its two parts. -/
lemma splitAt_append_delimiter (d : Char) (a b : List Char) :
    splitAt d (a ++ d :: b) = splitAt d a ++ splitAt d b := by
  induction a with
  | nil => simp [splitAt]
  | cons c a ih =>
    rw [List.cons_append, splitAt, splitAt, ih]
    split
    · rfl
    · cases hpieces : splitAt d a with
      | nil => exact absurd hpieces (splitAt_ne_nil d a)
      | cons p ps => rfl

lemma intercalate_splitAt (d : Char) (s : List Char) : [d].intercalate (splitAt d s) = s := by
  induction s with
  | nil => rfl
  | cons c s ih =>
    obtain ⟨p, ps, hpieces⟩ := List.exists_cons_of_ne_nil (splitAt_ne_nil d s)
    rw [hpieces] at ih
    rw [splitAt, hpieces]
    split
    · rename_i h
      rw [List.intercalate_cons_cons, ih, h]
      rfl
    · cases ps with
      | nil =>
        rw [List.intercalate_singleton] at ih ⊢
        rw [ih]
      | cons q qs =>
        rw [List.intercalate_cons_cons] at ih ⊢
        rw [List.cons_append, List.cons_append, ih]

lemma splitAt_injective (d : Char) : Function.Injective (splitAt d) := by
  intro s t h
  rw [← intercalate_splitAt d s, h, intercalate_splitAt]

end BindingDocs.Text

namespace BindingDocs.Files
namespace Node

lemma child?_setEntry_self (name : String) (new : Node) (entries : List (String × Node)) :
    (Node.dir (setEntry name new entries)).child? name = some new := by
  rw [child?, setEntry]
  split
  · rename_i hany
    have hkeys : ((·.1 == name) ∘ fun e : String × Node => if e.1 == name then (name, new) else e) =
        (·.1 == name) := by
      funext e
      by_cases h : e.1 = name <;> simp [h]
    have hsome : (entries.find? (·.1 == name)).isSome = true :=
      List.find?_isSome.2 (List.any_eq_true.1 hany)
    obtain ⟨e, he⟩ := Option.isSome_iff_exists.1 hsome
    have hname : e.1 = name := by simpa using List.find?_some he
    rw [List.find?_map, hkeys, he]
    simp [hname]
  · rename_i hany
    have hnone : entries.find? (·.1 == name) = none := by
      rw [List.find?_eq_none]
      intro e he hname
      exact hany (List.any_eq_true.2 ⟨e, he, hname⟩)
    simp [List.find?_append, hnone]

lemma child?_setEntry_ne {name other : String} (h : other ≠ name) (new : Node)
    (entries : List (String × Node)) :
    (Node.dir (setEntry name new entries)).child? other = (Node.dir entries).child? other := by
  rw [child?, child?, setEntry]
  split
  · have hkeys : ((·.1 == other) ∘ fun e : String × Node => if e.1 == name then (name, new) else e) =
        (·.1 == other) := by
      funext e
      by_cases he : e.1 = name <;> simp [he]
    rw [List.find?_map, hkeys]
    cases hfound : entries.find? (·.1 == other) with
    | none => rfl
    | some e =>
      have hname : e.1 = other := by simpa using List.find?_some hfound
      simp [hname, h]
  · simp [List.find?_append, Ne.symm h]

lemma any_entries_iff {entries : List (String × Node)} {name : String} :
    entries.any (·.1 == name) = true ↔ ((Node.dir entries).child? name).isSome = true := by
  rw [child?, Option.isSome_map, List.find?_isSome, List.any_eq_true]

lemma get?_append (n : Node) (p q : List String) : n.get? (p ++ q) = (n.get? p).bind (·.get? q) := by
  induction p generalizing n with
  | nil => rfl
  | cons name p ih =>
    rw [List.cons_append, get?, get?, Option.bind_assoc]
    congr 1
    funext child
    exact ih child

lemma get?_concat (n : Node) (p : List String) (name : String) :
    n.get? (p ++ [name]) = (n.get? p).bind (·.child? name) := by
  rw [get?_append]
  congr 1
  funext child
  exact Option.bind_fun_some _

def IsDirAt (top : Node) (place : List String) : Prop := ∃ entries, top.get? place = some (.dir entries)

/-- Only directories have anything below them. -/
lemma isDirAt_of_get? {top n : Node} {place : List String} {name : String}
    (h : top.get? (place ++ [name]) = some n) : top.IsDirAt place := by
  rw [get?_concat] at h
  obtain ⟨above, habove, hchild⟩ := Option.bind_eq_some_iff.1 h
  cases above with
  | file text => cases hchild
  | dir entries => exact ⟨entries, habove⟩

lemma IsDirAt.dropLast {top : Node} {place : List String} (h : top.IsDirAt place) (hne : place ≠ []) :
    top.IsDirAt place.dropLast := by
  obtain ⟨entries, hget⟩ := h
  rw [← List.dropLast_append_getLast hne] at hget
  exact isDirAt_of_get? hget

/-- Everything in one tree stands in another at the same place, and but for some files it is the same
there. -/
def KeepsBut (changed : List (List String)) (a b : Node) : Prop :=
  ∀ place n, a.get? place = some n →
    ∃ n', b.get? place = some n' ∧ n'.isDir = n.isDir ∧ (n.isDir = false → place ∉ changed → n' = n)

lemma KeepsBut.refl (a : Node) : KeepsBut [] a a := fun _ n h => ⟨n, h, rfl, fun _ _ => rfl⟩

lemma KeepsBut.trans {a b c : Node} {changed changed' : List (List String)} (hab : KeepsBut changed a b)
    (hbc : KeepsBut changed' b c) : KeepsBut (changed ++ changed') a c := by
  intro place n hn
  obtain ⟨n', hn', hkind, hsame⟩ := hab place n hn
  obtain ⟨n'', hn'', hkind', hsame'⟩ := hbc place n' hn'
  refine ⟨n'', hn'', hkind'.trans hkind, fun hfile hplace => ?_⟩
  obtain ⟨hplace, hplace'⟩ := not_or.1 (mt List.mem_append.2 hplace)
  rw [hsame' (hkind.trans hfile) hplace', hsame hfile hplace]

lemma KeepsBut.isDirAt {a b : Node} {changed : List (List String)} (h : KeepsBut changed a b)
    {place : List String} (hdir : a.IsDirAt place) : b.IsDirAt place := by
  obtain ⟨entries, hget⟩ := hdir
  obtain ⟨n', hn', hkind, -⟩ := h place _ hget
  cases n' with
  | file text => cases hkind
  | dir entries' => exact ⟨entries', hn'⟩

lemma get?_put_self {top : Node} {place : List String} (h : top.IsDirAt place) (name : String)
    (new : Node) : (put new (place ++ [name]) top).get? (place ++ [name]) = some new := by
  induction place generalizing top with
  | nil =>
    obtain ⟨entries, hget⟩ := h
    cases hget
    rw [List.nil_append, put, get?, child?_setEntry_self]
    rfl
  | cons x place ih =>
    obtain ⟨entries, hget⟩ := h
    obtain ⟨child, hchild, hbelow⟩ := Option.bind_eq_some_iff.1 hget
    cases top with
    | file text => cases hchild
    | dir es =>
      rw [List.cons_append, put, get?, child?_setEntry_self, hchild]
      exact ih ⟨entries, hbelow⟩

/-- Where nothing was, nothing changed. -/
lemma KeepsBut.of_none {a b : Node} {place : List String} (h : KeepsBut [place] a b)
    (hnone : a.get? place = none) : KeepsBut [] a b := by
  intro q n hn
  obtain ⟨n', hn', hkind, hsame⟩ := h q n hn
  refine ⟨n', hn', hkind, fun hfile _ => hsame hfile fun hq => ?_⟩
  rw [List.mem_singleton.1 hq, hnone] at hn
  cases hn

/-- One file stands for another. -/
lemma keepsBut_file (text : Option String) {new : Node} (hnew : new.isDir = false) :
    KeepsBut [[]] (.file text) new := by
  intro q n hn
  cases q with
  | nil =>
    cases hn
    exact ⟨new, rfl, hnew, fun _ hmem => absurd (List.mem_singleton_self []) hmem⟩
  | cons x q => cases hn

/-- A directory in which one entry is set keeps what the entry keeps. -/
lemma keepsBut_setEntry (changed : List (List String)) {entries : List (String × Node)} {name : String}
    {new : Node} (h : ∀ child, (Node.dir entries).child? name = some child → KeepsBut changed child new) :
    KeepsBut (changed.map (name :: ·)) (.dir entries) (.dir (setEntry name new entries)) := by
  intro q n hn
  cases q with
  | nil =>
    cases hn
    exact ⟨_, rfl, rfl, fun hfile => by cases hfile⟩
  | cons x q =>
    by_cases hx : x = name
    · subst hx
      obtain ⟨child, hchild, hbelow⟩ := Option.bind_eq_some_iff.1 hn
      obtain ⟨n', hn', hkind, hsame⟩ := h child hchild q n hbelow
      refine ⟨n', ?_, hkind, fun hfile hmem => hsame hfile fun hq => hmem (List.mem_map_of_mem hq)⟩
      rw [get?, child?_setEntry_self]
      exact hn'
    · refine ⟨n, ?_, rfl, fun _ _ => rfl⟩
      rw [get?, child?_setEntry_ne hx]
      exact hn

/-- Something is put where nothing or a file stands. -/
lemma keepsBut_put {top : Node} {place : List String} (h : top.IsDirAt place) {name : String} {new : Node}
    (hfree : ∀ n, top.get? (place ++ [name]) = some n → n.isDir = false ∧ new.isDir = false) :
    KeepsBut [place ++ [name]] top (put new (place ++ [name]) top) := by
  induction place generalizing top with
  | nil =>
    obtain ⟨entries, hget⟩ := h
    cases hget
    refine keepsBut_setEntry [[]] fun child hchild => ?_
    obtain ⟨hfile, hnew⟩ := hfree child (by rw [List.nil_append, get?, hchild]; rfl)
    cases child with
    | dir es => cases hfile
    | file text => exact keepsBut_file text hnew
  | cons y place ih =>
    obtain ⟨entries, hget⟩ := h
    obtain ⟨child, hchild, hdir⟩ := Option.bind_eq_some_iff.1 hget
    cases top with
    | file text => cases hchild
    | dir es =>
      have hkept := ih ⟨entries, hdir⟩ fun n hn => hfree n (by rw [List.cons_append, get?, hchild]; exact hn)
      rw [List.cons_append, put, hchild, Option.getD_some]
      refine keepsBut_setEntry [place ++ [name]] fun child' hchild' => ?_
      obtain rfl := Option.some.inj (hchild.symm.trans hchild')
      exact hkept

/-- The place behind one more step of a path. -/
def move (place : List String) (step : String) : List String :=
  if isStay step then place else if step = ".." then place.dropLast else place ++ [step]

/-- The place that a path names, whatever stands there. -/
def place (path : String) : List String := (steps path).foldl move []

/-- Steps that each lead to a name. -/
def IsPlain (path : String) : Prop := ∀ step ∈ steps path, isStay step = false ∧ step ≠ ".."

lemma foldl_move_eq {names : List String} (h : ∀ step ∈ names, isStay step = false ∧ step ≠ "..")
    (p : List String) : names.foldl move p = p ++ names := by
  induction names generalizing p with
  | nil => rw [List.append_nil, List.foldl_nil]
  | cons step names ih =>
    obtain ⟨hstay, hup⟩ := h step (by simp)
    have hmove : move p step = p ++ [step] := by rw [move, hstay, if_neg Bool.false_ne_true, if_neg hup]
    rw [List.foldl_cons, hmove, ih fun s hs => h s (List.mem_cons_of_mem step hs), List.append_assoc,
      List.singleton_append]

/-- The steps below a root are those of the root and then those of the name. -/
lemma exists_steps_joinPath (root : String) :
    ∃ front, ∀ name, steps (joinPath root name) = front ++ steps name := by
  have hsplit (front : List Char) (name : String) : (Text.splitAt '/' (front ++ '/' :: name.toList)).map
      String.ofList = (Text.splitAt '/' front).map String.ofList ++ steps name := by
    rw [Text.splitAt_append_delimiter, List.map_append, steps]
  by_cases hempty : root = ""
  · refine ⟨[], fun name => ?_⟩
    rw [joinPath, hempty]
    rfl
  · by_cases hslash : root.toList.getLast? = some '/'
    · obtain ⟨front, hfront⟩ := List.getLast?_eq_some_iff.1 hslash
      refine ⟨(Text.splitAt '/' front).map String.ofList, fun name => ?_⟩
      rw [joinPath, if_pos (by simp [hslash]), steps, String.toList_append, hfront, List.append_assoc,
        List.singleton_append, hsplit]
    · refine ⟨(Text.splitAt '/' root.toList).map String.ofList, fun name => ?_⟩
      have hpath : (root ++ "/" ++ name).toList = root.toList ++ '/' :: name.toList := by simp
      rw [joinPath, if_neg (by simp [hempty, hslash]), steps, hpath, hsplit]

lemma steps_injective : Function.Injective steps := by
  intro a b h
  have hpieces : Text.splitAt '/' a.toList = Text.splitAt '/' b.toList :=
    List.map_injective_iff.2 (fun _ _ h => String.ofList_injective h) h
  exact String.toList_injective (Text.splitAt_injective '/' hpieces)

/-- Plain paths below one root name different places. -/
lemma eq_of_place_joinPath {root a b : String} (ha : IsPlain a) (hb : IsPlain b)
    (h : place (joinPath root a) = place (joinPath root b)) : a = b := by
  obtain ⟨front, hfront⟩ := exists_steps_joinPath root
  rw [place, place, hfront, hfront, List.foldl_append, List.foldl_append, foldl_move_eq ha,
    foldl_move_eq hb] at h
  exact steps_injective (List.append_cancel_left h)

/-- When a step can be taken, and where it leads. -/
lemma advance_eq_ok_iff {top : Node} {p q : List String} {step : String} :
    top.advance p step = .ok q ↔ top.IsDirAt p ∧ (step = ".." → p ≠ []) ∧
      (isStay step = false → step ≠ ".." → (top.get? (p ++ [step])).isSome = true) ∧ move p step = q := by
  have hdots : isStay ".." = false := by decide
  rw [advance]
  cases hget : top.get? p with
  | none => simp [IsDirAt, hget]
  | some n =>
    cases n with
    | file text => simp [IsDirAt, hget]
    | dir entries =>
      have hdir : top.IsDirAt p := ⟨entries, hget⟩
      by_cases hup : step = ".."
      · subst hup
        cases p <;> simp [hdots, hdir, move]
      · by_cases hstay : isStay step = true
        · simp [hstay, hup, hdir, move]
        · have hentry : entries.any (·.1 == step) = (top.get? (p ++ [step])).isSome := by
            rw [get?_concat, hget, Bool.eq_iff_iff, any_entries_iff, Option.bind_some]
          simp only [hentry]
          cases (top.get? (p ++ [step])).isSome <;> simp [hstay, hup, hdir, move]

lemma KeepsBut.advance {a b : Node} {changed : List (List String)} (h : KeepsBut changed a b)
    {p q : List String} {step : String} (hstep : a.advance p step = .ok q) : b.advance p step = .ok q := by
  obtain ⟨hdir, hup, hthere, hq⟩ := advance_eq_ok_iff.1 hstep
  refine advance_eq_ok_iff.2 ⟨h.isDirAt hdir, hup, fun hstay hdots => ?_, hq⟩
  obtain ⟨n, hn⟩ := Option.isSome_iff_exists.1 (hthere hstay hdots)
  obtain ⟨n', hn', -⟩ := h _ n hn
  rw [hn', Option.isSome_some]

lemma KeepsBut.foldlM_advance {a b : Node} {changed : List (List String)} (h : KeepsBut changed a b)
    {p q : List String} {names : List String} (hsteps : names.foldlM a.advance p = .ok q) :
    names.foldlM b.advance p = .ok q := by
  induction names generalizing p with
  | nil => exact hsteps
  | cons step names ih =>
    rw [List.foldlM_cons] at hsteps ⊢
    cases hstep : a.advance p step with
    | error e =>
      rw [hstep] at hsteps
      cases hsteps
    | ok p' =>
      rw [hstep] at hsteps
      rw [h.advance hstep]
      exact ih hsteps

/-- A path leads where it led before. -/
lemma KeepsBut.locate {a b : Node} {changed : List (List String)} (h : KeepsBut changed a b)
    {path : String} {p : List String} (hpath : a.locate path = .ok p) : b.locate path = .ok p := by
  rw [Node.locate] at hpath ⊢
  split at hpath
  · cases hpath
  · rename_i hrelative
    rw [if_neg hrelative]
    exact h.foldlM_advance hpath

/-- A directory is made if there is none, and a file is in the way. -/
lemma makeDirs_name {top : Node} {p : List String} {step : String} {names : List String}
    {r : Node × List String} (hstay : ¬ isStay step = true) (hup : step ≠ "..")
    (h : top.makeDirs p (step :: names) = .ok r) (hdir : top.IsDirAt p) :
    ∃ made, made.makeDirs (p ++ [step]) names = .ok r ∧ made.IsDirAt (p ++ [step]) ∧
      KeepsBut [] top made := by
  rw [makeDirs, if_neg hstay, if_neg hup] at h
  cases hget : top.get? (p ++ [step]) with
  | none =>
    simp only [hget] at h
    have hkept : KeepsBut [p ++ [step]] top (put empty (p ++ [step]) top) :=
      keepsBut_put hdir fun n hn => by rw [hget] at hn; cases hn
    exact ⟨_, h, ⟨[], get?_put_self hdir step empty⟩, hkept.of_none hget⟩
  | some n =>
    simp only [hget] at h
    cases n with
    | file text => cases h
    | dir entries => exact ⟨top, h, ⟨entries, hget⟩, KeepsBut.refl top⟩

/-- Whatever the first step makes, the rest of the steps goes on from a directory. -/
lemma makeDirs_cons {top : Node} {p : List String} {step : String} {names : List String}
    {r : Node × List String} (h : top.makeDirs p (step :: names) = .ok r) (hdir : top.IsDirAt p) :
    ∃ made, made.makeDirs (move p step) names = .ok r ∧ made.IsDirAt (move p step) ∧
      KeepsBut [] top made ∧ (step = ".." → p ≠ []) := by
  by_cases hstay : isStay step = true
  · have hmove : move p step = p := if_pos hstay
    rw [makeDirs, if_pos hstay] at h
    rw [hmove]
    refine ⟨top, h, hdir, KeepsBut.refl top, ?_⟩
    rintro rfl
    exact absurd hstay (by decide)
  by_cases hup : step = ".."
  · have hmove : move p step = p.dropLast := by rw [move, if_neg hstay, if_pos hup]
    rw [makeDirs, if_neg hstay, if_pos hup] at h
    rw [hmove]
    split at h
    · cases h
    · rename_i hne
      have hp : p ≠ [] := fun hp => hne (List.isEmpty_iff.2 hp)
      exact ⟨top, h, hdir.dropLast hp, KeepsBut.refl top, fun _ => hp⟩
  · have hmove : move p step = p ++ [step] := by rw [move, if_neg hstay, if_neg hup]
    obtain ⟨made, hrest, hmade, hkept⟩ := makeDirs_name hstay hup h hdir
    rw [hmove]
    exact ⟨made, hrest, hmade, hkept, fun hdots => absurd hdots hup⟩

/-- Directories are made along the steps, and nothing else changes. -/
lemma makeDirs_eq_ok {top top' : Node} {p p' : List String} {names : List String}
    (h : top.makeDirs p names = .ok (top', p')) (hdir : top.IsDirAt p) :
    p' = names.foldl move p ∧ top'.IsDirAt p' ∧ KeepsBut [] top top' ∧
      names.foldlM top'.advance p = .ok p' := by
  induction names generalizing top p with
  | nil =>
    cases h
    exact ⟨rfl, hdir, KeepsBut.refl _, rfl⟩
  | cons step names ih =>
    obtain ⟨made, hrest, hmade, hfirst, hup⟩ := makeDirs_cons h hdir
    obtain ⟨hp', hdir', hkept, hsteps⟩ := ih hrest hmade
    have hstep : top'.advance p step = .ok (move p step) := by
      refine advance_eq_ok_iff.2 ⟨(hfirst.trans hkept).isDirAt hdir, hup, fun hstay hdots => ?_, rfl⟩
      obtain ⟨entries, hget⟩ := hkept.isDirAt hmade
      rw [move, if_neg (Bool.eq_false_iff.1 hstay), if_neg hdots] at hget
      rw [hget, Option.isSome_some]
    refine ⟨hp', hdir', hfirst.trans hkept, ?_⟩
    rw [List.foldlM_cons, hstep]
    exact hsteps

lemma putFile_eq_ok {top top' : Node} {p : List String} {text : String} (h : top.putFile p text = .ok top') :
    top' = put (.file (some text)) p top ∧ ∀ n, top.get? p = some n → n.isDir = false := by
  rw [putFile] at h
  split at h
  · cases h
  · rename_i hfile
    cases h
    refine ⟨rfl, fun n hn => ?_⟩
    cases n with
    | file t => rfl
    | dir entries => exact absurd hn (hfile entries)

/-- A file that is written is found under its path, and nothing else changes. -/
lemma write_eq_ok {top top' : Node} {path text last : String} (h : top.write path text = .ok top')
    (hdir : top.IsDirAt []) (hlast : (steps path).getLast? = some last) (hstay : isStay last = false)
    (hup : last ≠ "..") :
    top'.locate path = .ok (place path) ∧ top'.get? (place path) = some (.file (some text)) ∧
      KeepsBut [place path] top top' := by
  have hne : path ≠ "" := by
    rintro rfl
    cases hlast
    exact absurd hstay (by decide)
  have hsteps : steps path = (steps path).dropLast ++ [last] := by
    obtain ⟨front, hfront⟩ := List.getLast?_eq_some_iff.1 hlast
    rw [hfront, List.dropLast_concat]
  simp only [write, hlast] at h
  split at h
  · cases h
  · rename_i hrelative
    cases hmake : top.makeDirs [] (steps path).dropLast with
    | error e =>
      rw [hmake] at h
      cases h
    | ok made =>
      obtain ⟨top₁, p⟩ := made
      obtain ⟨hp, hdir₁, hkept₁, hwalk⟩ := makeDirs_eq_ok hmake hdir
      have hmove : move p last = p ++ [last] := by rw [move, hstay, if_neg Bool.false_ne_true, if_neg hup]
      have hplace : place path = p ++ [last] := by
        rw [place, hsteps, List.foldl_append, ← hp]
        exact hmove
      rw [hmake] at h
      obtain ⟨rfl, hfile⟩ := putFile_eq_ok h
      have hnew : (Node.file (some text)).isDir = false := rfl
      have hkept := keepsBut_put hdir₁ fun n hn => ⟨hfile n hn, hnew⟩
      have hwritten := get?_put_self hdir₁ last (.file (some text))
      have hend := advance_eq_ok_iff.2 ⟨hkept.isDirAt hdir₁, fun hdots => absurd hdots hup,
        fun _ _ => by rw [hwritten, Option.isSome_some], hmove⟩
      rw [hplace]
      refine ⟨?_, hwritten, hkept₁.trans hkept⟩
      rw [locate, if_neg (by simp [hne, hrelative]), hsteps, List.foldlM_append,
        hkept.foldlM_advance hwalk]
      exact congrArg (· >>= pure) hend

/-- A file that is written below a root under a plain path. -/
lemma write_joinPath {top top' : Node} {root name text : String}
    (h : top.write (joinPath root name) text = .ok top') (hdir : top.IsDirAt []) (hplain : IsPlain name) :
    top'.locate (joinPath root name) = .ok (place (joinPath root name)) ∧
      top'.get? (place (joinPath root name)) = some (.file (some text)) ∧
      KeepsBut [place (joinPath root name)] top top' := by
  obtain ⟨front, hfront⟩ := exists_steps_joinPath root
  have hne : steps name ≠ [] := by simpa [steps] using Text.splitAt_ne_nil '/' name.toList
  have hlast : (steps (joinPath root name)).getLast? = some ((steps name).getLast hne) := by
    rw [hfront, List.getLast?_append_of_ne_nil _ hne, List.getLast?_eq_some_getLast hne]
  obtain ⟨hstay, hup⟩ := hplain _ (List.getLast_mem hne)
  exact write_eq_ok h hdir hlast hstay hup

lemma ok_bind {ε α β : Type} (a : α) (f : α → Except ε β) : ((.ok a : Except ε α) >>= f) = f a := rfl

lemma readText_eq_ok {top : Node} {path text : String} {p : List String} (h : top.locate path = .ok p)
    (hget : top.get? p = some (.file (some text))) : top.readText path = .ok text := by
  have hfind : top.find path = .ok (.file (some text)) := by rw [find, h, ok_bind, hget]
  rw [readText, hfind, ok_bind]

/-- Only below a directory something is found. -/
lemma isDirAt_of_find {top n : Node} {path : String} (h : top.find path = .ok n) : top.IsDirAt [] := by
  obtain ⟨step, names, hsteps⟩ : ∃ step names, steps path = step :: names :=
    List.exists_cons_of_ne_nil (by simpa [steps] using Text.splitAt_ne_nil '/' path.toList)
  rw [find, locate] at h
  split at h
  · cases h
  · rw [hsteps, List.foldlM_cons] at h
    cases hstep : top.advance [] step with
    | error e =>
      rw [hstep] at h
      cases h
    | ok p => exact (advance_eq_ok_iff.1 hstep).1

end Node
end BindingDocs.Files
