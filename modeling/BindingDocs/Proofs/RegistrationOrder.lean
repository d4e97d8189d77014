import BindingDocs.Output.Emitter
import BindingDocs.Proofs.ScannerMeaning
import BindingDocs.Proofs.TextSearch

/-! The order of registration code. Texts that can be scanned alone and register different names may be
joined in any order, and the lines divided over files in any way: the same set is registered. -/
namespace BindingDocs.Text

lemma trim_dropReturn (s : List Char) : trim (dropReturn s) = trim s := by
  unfold dropReturn
  split
  · rename_i hlast
    obtain ⟨r, rfl⟩ := List.getLast?_eq_some_iff.1 hlast
    rw [List.dropLast_concat, trim_concat_blank r (by decide)]
  · rfl

/-- A line feed between two texts ends the last line of the first; behind a finished line it makes an
empty one. -/
lemma trimmed_linesFrom_append (a b seen : List Char) :
    ∃ gap : List (List Char), (∀ l ∈ gap, l = []) ∧
      (linesFrom seen (a ++ '\n' :: b)).map trim =
        (linesFrom seen a).map trim ++ gap ++ (lines b).map trim := by
  induction a generalizing seen with
  | nil =>
    have hfirst : linesFrom seen ('\n' :: b) = dropReturn seen.reverse :: lines b := by
      rw [linesFrom, if_pos rfl, lines]
    rw [List.nil_append, hfirst, linesFrom]
    split
    · rename_i hseen
      rw [List.isEmpty_iff.1 hseen]
      exact ⟨[[]], by simp, by simp [trim, trimLeft, trimRight, dropReturn]⟩
    · exact ⟨[], by simp, by simp [trim_dropReturn]⟩
  | cons c a ih =>
    rw [List.cons_append, linesFrom, linesFrom]
    split
    · obtain ⟨gap, hgap, hlines⟩ := ih []
      exact ⟨gap, hgap, by simp [hlines]⟩
    · exact ih (c :: seen)

end BindingDocs.Text

namespace BindingDocs.Registration
open BindingDocs.Output BindingDocs.Reference BindingDocs.Text Scanner

lemma trimmedLines_append (a b : String) :
    ∃ gap : List String, (∀ l ∈ gap, l = "") ∧
      trimmedLines (a ++ "\n" ++ b) = trimmedLines a ++ gap ++ trimmedLines b := by
  obtain ⟨gap, hgap, hlines⟩ := trimmed_linesFrom_append a.toList b.toList []
  have htrimmed : ∀ t : String, trimmedLines t = ((lines t.toList).map trim).map String.ofList :=
    fun t => by simp [trimmedLines]
  refine ⟨gap.map String.ofList, ?_, ?_⟩
  · intro l hl
    obtain ⟨k, hk, rfl⟩ := List.mem_map.1 hl
    simp [hgap k hk]
  · have htext : (a ++ "\n" ++ b).toList = a.toList ++ '\n' :: b.toList := by simp
    rw [htrimmed, htrimmed, htrimmed, htext, lines, hlines, List.map_append, List.map_append]
    simp [lines]

/-- Up to lines of no kind, the lines of joined texts are the lines of the texts. -/
lemma filter_trimmedLines_joinWith (texts : List String) :
    (trimmedLines (joinWith "\n" texts)).filter (fun line => classify line ≠ .other) =
      (texts.flatMap trimmedLines).filter fun line => classify line ≠ .other := by
  induction texts with
  | nil => rfl
  | cons text texts ih =>
    cases texts with
    | nil => simp [joinWith]
    | cons next texts =>
      obtain ⟨gap, hgap, hlines⟩ := trimmedLines_append text (joinWith "\n" (next :: texts))
      have hempty : gap.filter (fun line => classify line ≠ .other) = [] := by
        rw [List.filter_eq_nil_iff]
        intro l hl
        rw [hgap l hl]
        decide
      rw [joinWith, hlines, List.filter_append, List.filter_append, hempty, ih, List.append_nil,
        ← List.filter_append, List.flatMap_cons (x := text)]

namespace Scanner

/-- The places of some entries. -/
def places (entries : List (String × Entity)) : List (String × String) :=
  entries.map fun x => (x.2.registryName, x.1)

/-- A state in which some declarations more are registered. -/
structure Beside (others : List (String × Entity)) (s u : Scanner) : Prop where
  cursor : u.cursor = s.cursor
  entries : u.set.entries.Perm (others ++ s.set.entries)

namespace Beside
variable {others : List (String × Entity)} {s t u : Scanner} {line : String}

lemma contains_eq_false (h : Beside others s u) {e : Entity} (own : s.set.contains e = false)
    (free : e.slot ∉ places others) : u.set.contains e = false := by
  rw [← Bool.not_eq_true, BindingSet.contains_iff] at own ⊢
  have hslots : u.set.slots.Perm (places others ++ s.set.slots) := by
    simpa [places, BindingSet.slots] using h.entries.map fun x => (x.2.registryName, x.1)
  rw [hslots.mem_iff, List.mem_append]
  exact not_or.2 ⟨free, own⟩

/-- The open declaration is registered in both states alike. -/
lemma close {history : List Entity} (h : Beside others s u) (hc : Consistent history s)
    (free : ∀ x ∈ s.slots, x ∉ places others) : Beside others s.close u.close := by
  rcases s with ⟨set, _ | e⟩
  · rcases u with ⟨set', cursor⟩
    obtain rfl : cursor = none := h.cursor
    exact h
  · rcases u with ⟨set', cursor⟩
    obtain rfl : cursor = some e := h.cursor
    have hslot : e.slot ∉ places others := free _ (by simp [slots])
    have hnew := set'.entries_insert_perm (h.contains_eq_false (hc.fresh rfl) hslot)
    have hown := set.entries_insert_perm (hc.fresh rfl)
    refine ⟨rfl, hnew.trans ?_⟩
    exact (h.entries.cons _).trans (List.perm_middle.symm.trans (hown.symm.append_left _))

/-- A line that is scanned without an error has the same effect beside declarations at other places. -/
lemma step {history : List Entity} (h : Beside others s u) (hc : Consistent history s)
    (ok : s.step line = (.ok (), t)) (free : ∀ x ∈ s.slots, x ∉ places others)
    (free' : ∀ x ∈ t.slots, x ∉ places others) :
    ∃ v, u.step line = (.ok (), v) ∧ Beside others t v := by
  have hclose := h.close hc free
  have hm := s.step_move line
  rw [ok] at hm
  cases hm with
  | hidden opens hidden =>
    exact ⟨u.close, by simp [Scanner.step, opens, begin, hidden], hclose⟩
  | opened opens visible own =>
    have hfree := hclose.contains_eq_false own (free' _ (by simp [slots]))
    exact ⟨⟨u.close.set, some _⟩, by simp [Scanner.step, opens, begin, visible, hfree],
      rfl, hclose.entries⟩
  | terminated ends =>
    exact ⟨u.close, by simp [Scanner.step, ends, declaration?], hclose⟩
  | idle inner goes idle =>
    have hidle : u.cursor = none := h.cursor.trans idle
    exact ⟨u, by simp [Scanner.step, inner, goes, hidle], h⟩
  | extended inner goes active adds =>
    have hactive := h.cursor.trans active
    rcases u with ⟨set, cursor⟩
    cases hactive
    exact ⟨_, step_member inner goes adds, rfl, h.entries⟩

end Beside

/-- No line takes a place away. -/
lemma Consistent.slots_subset_advance {history : List Entity} {s : Scanner} (h : Consistent history s)
    (lines : List String) : s.slots ⊆ (s.advance lines).slots := by
  have hall := (h.advance lines).slots
  intro x hx
  rw [hall.mem_iff, List.map_append]
  exact List.mem_append_left _ (h.slots.mem_iff.1 hx)

/-- Lines that are scanned without an error have the same effect beside declarations at other places. -/
lemma Steps.beside {history : List Entity} {others : List (String × Entity)} {s t u : Scanner}
    {lines : List String} (run : Steps s lines t) (hc : Consistent history s) (h : Beside others s u)
    (free : ∀ x ∈ t.slots, x ∉ places others) : ∃ v, Steps u lines v ∧ Beside others t v := by
  induction run generalizing history u with
  | nil s => exact ⟨u, Steps.nil u, h⟩
  | @cons s t w line lines first rest ih =>
    have hnext := hc.step line
    rw [first] at hnext
    have hlater : t.slots ⊆ w.slots := rest.eq_advance ▸ hnext.slots_subset_advance lines
    have hbefore : s.slots ⊆ t.slots := by simpa [first] using hc.slots_subset_advance [line]
    obtain ⟨v, hv, hbeside⟩ := h.step hc first (fun x hx => free x (hlater (hbefore hx)))
      fun x hx => free x (hlater hx)
    obtain ⟨v', hrest, hlast⟩ := ih hnext hbeside free
    exact ⟨v', Steps.cons hv hrest, hlast⟩

end Scanner

/-- What a text registers when it is scanned alone. -/
def registered (text : String) : BindingSet := (new.scan text).2.finish

/-- A text that is scanned alone without an error and leaves no declaration open. -/
structure StandsAlone (text : String) : Prop where
  scans : (new.scan text).1 = .ok ()
  idle : (new.scan text).2.cursor = none

instance (text : String) : Decidable (StandsAlone text) :=
  decidable_of_iff (_ ∧ _) ⟨fun h => ⟨h.1, h.2⟩, fun h => ⟨h.scans, h.idle⟩⟩

/-- Two texts that register nothing at the same place. -/
def Apart (a b : String) : Prop := ∀ x ∈ (registered a).slots, x ∉ (registered b).slots

instance (a b : String) : Decidable (Apart a b) := inferInstanceAs (Decidable (∀ x ∈ _, _))

lemma Apart.symm {a b : String} (h : Apart a b) : Apart b a := fun x hb ha => h x ha hb

lemma StandsAlone.steps {text : String} (h : StandsAlone text) :
    Steps new (trimmedLines text) ⟨registered text, none⟩ := by
  have hscan : new.scan text = (.ok (), ⟨registered text, none⟩) := by
    have hscans := h.scans
    have hidle := h.idle
    rw [registered]
    rcases hs : new.scan text with ⟨r, set, cursor⟩
    rw [hs] at hscans hidle
    cases hscans
    cases hidle
    rfl
  exact Steps.of_scanLines hscan

/-- Texts that stand alone register what each of them registers alone, beside what was there. -/
lemma steps_texts {texts : List String} (alone : ∀ t ∈ texts, StandsAlone t)
    (apart : texts.Pairwise Apart) {set : BindingSet}
    (free : ∀ t ∈ texts, ∀ x ∈ (registered t).slots, x ∉ set.slots) :
    ∃ all : BindingSet, Steps ⟨set, none⟩ (texts.flatMap trimmedLines) ⟨all, none⟩ ∧
      all.entries.Perm (set.entries ++ texts.flatMap fun t => (registered t).entries) := by
  induction texts generalizing set with
  | nil => exact ⟨set, Steps.nil _, by simp⟩
  | cons text texts ih =>
    obtain ⟨hapart, happarts⟩ := List.pairwise_cons.1 apart
    have hbeside : Beside set.entries new ⟨set, none⟩ := ⟨rfl, by simp [new]⟩
    have hfree : ∀ x ∈ slots ⟨registered text, none⟩, x ∉ places set.entries := fun x hx =>
      free text (by simp) x (by simpa [slots] using hx)
    obtain ⟨⟨set', cursor⟩, hfirst, hcursor, hentries⟩ :=
      (alone text (by simp)).steps.beside consistent_new hbeside hfree
    obtain rfl : cursor = none := hcursor
    have hentries : set'.entries.Perm (set.entries ++ (registered text).entries) := hentries
    have hslots : set'.slots.Perm (set.slots ++ (registered text).slots) := by
      simpa [BindingSet.slots] using hentries.map fun x => (x.2.registryName, x.1)
    have hnext : ∀ t ∈ texts, ∀ x ∈ (registered t).slots, x ∉ set'.slots := by
      intro t ht x hx
      rw [hslots.mem_iff, List.mem_append]
      exact not_or.2 ⟨free t (List.mem_cons_of_mem _ ht) x hx, (hapart t ht).symm x hx⟩
    obtain ⟨all, hrest, hall⟩ := ih (fun t ht => alone t (List.mem_cons_of_mem _ ht)) happarts hnext
    refine ⟨all, hfirst.append hrest, hall.trans ?_⟩
    rw [List.flatMap_cons, ← List.append_assoc]
    exact hentries.append_right _

/-- The artifacts of some emitters, one emitter after the other. -/
def produced (m : Model) (o : Options) (es : List Emitter) (set : BindingSet) : List Artifact :=
  es.flatMap fun e => e.artifacts ⟨m, set⟩ o

/-- The order of registration code does not matter. If some texts each stand alone and no two of them
register the same place, then in every order, joined by line feeds and with the lines divided over
files in any way, they are scanned without an error and register the same set, so every choice of
emitters produces the same artifacts. -/
theorem text_order_is_irrelevant {texts : List String} (alone : ∀ t ∈ texts, StandsAlone t)
    (apart : texts.Pairwise Apart) :
    ∃ set : BindingSet, set.entries.Perm (texts.flatMap fun t => (registered t).entries) ∧
      ∀ ordered files : List String, ordered.Perm texts →
        files.flatMap trimmedLines = trimmedLines (joinWith "\n" ordered) →
        ∃ s, ScansTo new files s ∧ s.finish = set ∧
          ∀ m o es, produced m o es s.finish = produced m o es set := by
  have hfree : ∀ t ∈ texts, ∀ x ∈ (registered t).slots, x ∉ BindingSet.empty.slots := by
    simp [BindingSet.slots]
  obtain ⟨set, -, hset⟩ := steps_texts alone apart hfree
  refine ⟨set, by simpa using hset, ?_⟩
  intro ordered files hperm hfiles
  obtain ⟨all, hsteps, hall⟩ := steps_texts (fun t ht => alone t (hperm.mem_iff.1 ht))
    ((hperm.pairwise_iff fun h => h.symm).2 apart) fun t ht => hfree t (hperm.mem_iff.1 ht)
  have hsame : all = set := by
    refine BindingSet.eq_of_entries_perm (hall.trans (List.Perm.trans ?_ hset.symm))
    exact (hperm.flatMap_right _).append_left _
  have hrun : Steps new (files.flatMap trimmedLines) ⟨set, none⟩ := by
    refine Steps.of_filter ?_
    rw [hfiles, filter_trimmedLines_joinWith, ← hsame]
    exact hsteps.filter
  exact ⟨⟨set, none⟩, hrun.scansTo, rfl, fun m o es => rfl⟩

/-- A class, an enumeration before a hidden class, and a class of the other dialect after a member
that belongs to nothing. -/
def sampleBlocks : List String :=
  ["class_<BND_Arc>(\"Arc\")\n.constructor<double>()\n;",
    "enum_<Kind>(\"Kind\")\n.value(\"Open\", Kind::Open)\npy::class_<X>(m, \"__X\")\n",
    ".property(\"stray\")\r\n  py::class_<BND_Arc>(m, \"ARC\")\n;"]

/-- The blocks from the last to the first, divided inside two of them. -/
def sampleFiles : List String :=
  [".property(\"stray\")", "py::class_<BND_Arc>(m, \"ARC\")\n;\nenum_<Kind>(\"Kind\")\n",
    ".value(\"Open\", Kind::Open)\npy::class_<X>(m, \"__X\")\n\nclass_<BND_Arc>(\"Arc\")", "",
    ".constructor<double>()\n;\n"]

theorem text_order_is_irrelevant_sample :
    (∀ t ∈ sampleBlocks, StandsAlone t) ∧ sampleBlocks.Pairwise Apart ∧
      sampleFiles.flatMap trimmedLines = trimmedLines (joinWith "\n" sampleBlocks.reverse) ∧
      ∃ set : BindingSet, set.entries.Perm (sampleBlocks.flatMap fun t => (registered t).entries) ∧
        ∃ s, ScansTo new sampleFiles s ∧ s.finish = set ∧
          ∀ m o es, produced m o es s.finish = produced m o es set := by
  have halone : ∀ t ∈ sampleBlocks, StandsAlone t := by decide +kernel
  have hapart : sampleBlocks.Pairwise Apart := by decide +kernel
  have hfiles : sampleFiles.flatMap trimmedLines =
      trimmedLines (joinWith "\n" sampleBlocks.reverse) := by decide +kernel
  obtain ⟨set, hset, hall⟩ := text_order_is_irrelevant halone hapart
  exact ⟨halone, hapart, hfiles, set, hset, hall _ _ (List.reverse_perm _) hfiles⟩

end BindingDocs.Registration
