import BindingDocs.Output.Artifact
import BindingDocs.Output.Skeleton
import BindingDocs.Proofs.TextContainers

/-! Outputs as lines of code with containers between them. The words of the output keep the texts in a
container apart, so that it ends where it is meant to end exactly if none of these texts ends it. -/
namespace BindingDocs.Output
open BindingDocs.Text

/-- A piece of a line: words of the output itself, a name or type as it is, or a text put on one
line. -/
inductive Fragment where
  | own (words : String)
  | name (text : String)
  | folded (text : String)
  deriving DecidableEq

namespace Fragment

def text : Fragment → String
  | own words => words
  | name text => text
  | folded text => oneLine text

def shown? : Fragment → Option String
  | own _ => none
  | name text => some text
  | folded text => some text

def line (fs : List Fragment) : String := String.join (fs.map text)

def shown (fs : List Fragment) : List String := fs.filterMap shown?

/-- The words of the output keep what is shown apart. -/
inductive Framed (k : Container) : List Fragment → Prop
  | nil : Framed k []
  | own {words fs} (leads : k.Leads words.toList) (rest : Framed k fs) : Framed k (own words :: fs)
  | last {f} (shows : f.shown?.isSome = true) : Framed k [f]
  | apart {f words fs} (shows : f.shown?.isSome = true) (apart : k.Separates words.toList)
      (rest : Framed k fs) : Framed k (f :: .own words :: fs)

variable {k : Container}

lemma line_cons (f : Fragment) (fs : List Fragment) : line (f :: fs) = f.text ++ line fs := by
  simp [line]

lemma line_append_name (fs : List Fragment) (t : String) : line (fs ++ [.name t]) = line fs ++ t := by
  simp [line, text]

lemma shown_append_name (fs : List Fragment) (t : String) : shown (fs ++ [.name t]) = shown fs ++ [t] := by
  rw [shown, List.filterMap_append]
  rfl

lemma ends_text {f : Fragment} {t : String} (h : f.shown? = some t) :
    k.ends f.text.toList = k.ends t.toList := by
  cases f with
  | own words => cases h
  | name text =>
    cases h
    rfl
  | folded text =>
    cases h
    exact Container.ends_oneLine t

lemma Framed.ends_line {fs : List Fragment} (h : Framed k fs) :
    k.ends (line fs).toList = (shown fs).any fun t => k.ends t.toList := by
  induction h with
  | nil => exact Container.ends_nil
  | own leads rest ih =>
    rw [line_cons, String.toList_append, text, leads, ih]
    rfl
  | @last f shows =>
    obtain ⟨t, ht⟩ := Option.isSome_iff_exists.1 shows
    rw [line_cons, shown, List.filterMap_cons_some ht, String.toList_append]
    simp [line, ends_text ht]
  | @apart f words fs shows apart rest ih =>
    obtain ⟨t, ht⟩ := Option.isSome_iff_exists.1 shows
    have hshown : shown (f :: .own words :: fs) = t :: shown fs := by
      rw [shown, List.filterMap_cons_some ht, List.filterMap_cons_none rfl, shown]
    rw [line_cons, line_cons, String.toList_append, String.toList_append, ← List.append_assoc, text,
      apart, ih, ends_text ht, hshown, List.any_cons]

end Fragment

/-- What a container says: a line, a text on lines of its own, or a text with a head. -/
inductive Remark where
  | line (fragments : List Fragment)
  | prose (margin text : String)
  | headed (head : List Fragment) (margin text : String)
  deriving DecidableEq

namespace Remark

def lines : Remark → List String
  | line fragments => [Fragment.line fragments]
  | prose margin text => (textLines text).map (margin ++ ·)
  | headed head margin text => Skeleton.headedLines (Fragment.line head) margin text

/-- The texts that are shown; a head is left out with its text if there is no line of it. -/
def texts : Remark → List String
  | line fragments => Fragment.shown fragments
  | prose _ text => [text]
  | headed head _ text => if textLines text = [] then [] else Fragment.shown head ++ [text]

def Framed (k : Container) : Remark → Prop
  | line fragments => Fragment.Framed k fragments
  | prose margin _ => k.Leads margin.toList
  | headed head margin _ => (∀ l, Fragment.Framed k (head ++ [.name l])) ∧ k.Leads margin.toList

variable {k : Container}

lemma any_ends_margined {margin : String} (h : k.Leads margin.toList) (ls : List String) :
    ((ls.map (margin ++ ·)).any fun l => k.ends l.toList) = ls.any fun l => k.ends l.toList := by
  rw [List.any_map]
  congr 1
  funext l
  rw [Function.comp_apply, String.toList_append, h]

lemma Framed.any_ends_lines {r : Remark} (h : r.Framed k) :
    (r.lines.any fun l => k.ends l.toList) = r.texts.any fun t => k.ends t.toList := by
  cases r with
  | line fragments =>
    rw [lines, List.any_cons, List.any_nil, Bool.or_false]
    exact Fragment.Framed.ends_line h
  | prose margin text =>
    rw [lines, any_ends_margined h, Container.any_ends_textLines, texts, List.any_cons, List.any_nil,
      Bool.or_false]
  | headed head margin text =>
    have htext := Container.any_ends_textLines (k := k) text
    rw [lines, Skeleton.headedLines, texts]
    cases hlines : textLines text with
    | nil => rfl
    | cons l ls =>
      have hfirst := (h.1 l).ends_line
      rw [Fragment.line_append_name, Fragment.shown_append_name, List.any_append] at hfirst
      rw [hlines] at htext
      rw [if_neg (List.cons_ne_nil l ls), List.any_cons, any_ends_margined h.2, hfirst, List.any_append,
        Bool.or_assoc]
      simp [← htext]

lemma any_ends_flatMap {rs : List Remark} (h : ∀ r ∈ rs, r.Framed k) :
    ((rs.flatMap lines).any fun l => k.ends l.toList) =
      (rs.flatMap texts).any fun t => k.ends t.toList := by
  induction rs with
  | nil => rfl
  | cons r rs ih =>
    rw [List.flatMap_cons, List.flatMap_cons, List.any_append, List.any_append,
      (h r (by simp)).any_ends_lines, ih fun r' hr' => h r' (List.mem_cons_of_mem r hr')]

end Remark

/-- A container with its margin; one that says nothing is a placeholder. -/
structure WrittenContainer where
  margin : String
  remarks : Option (List Remark)
  deriving DecidableEq

def WrittenContainer.texts (b : WrittenContainer) : List String := (b.remarks.getD []).flatMap Remark.texts

/-- How an output writes its containers: what follows the opening, and what stands between the last
margin and the closing. -/
structure Style where
  container : Container
  lead : String
  trail : String
  ends_lead : container.ends lead.toList = false
  neutral_trail : trail.toList.all container.isNeutral = true
  neutral_ellipsis : " ... ".toList.all container.isNeutral = true

/-- A line of code in an output, or a container. -/
inductive OutputElement where
  | code (line : String)
  | container (container : WrittenContainer)
  deriving DecidableEq

namespace Style
variable (st : Style)

/-- What stands between the opening and the closing of a container. -/
def inner (b : WrittenContainer) : String :=
  match b.remarks with
  | some remarks => unlines (st.lead :: remarks.flatMap Remark.lines) ++ b.margin ++ st.trail
  | none => st.lead ++ " ... "

def text : OutputElement → String
  | .code line => line
  | .container b => b.margin ++ st.container.opening ++ st.inner b ++ st.container.closing

def write (elements : List OutputElement) : String := String.join (elements.map fun p => st.text p ++ "\n")

/-- A container ends where it is meant to end: its own closing is the first one behind its opening. -/
def EndsAsWritten (b : WrittenContainer) (after : List OutputElement) : Prop :=
  st.container.cut ((st.inner b ++ st.container.closing ++ "\n" ++ st.write after).toList) =
    some ((st.inner b).toList, ("\n" ++ st.write after).toList)

def lines : OutputElement → List String
  | .code line => [line]
  | .container ⟨margin, some remarks⟩ => [margin ++ st.container.opening ++ st.lead] ++
      remarks.flatMap Remark.lines ++ [margin ++ st.trail ++ st.container.closing]
  | .container ⟨margin, none⟩ => [margin ++ st.container.opening ++ st.lead ++ " ... " ++ st.container.closing]

instance (b : WrittenContainer) (after : List OutputElement) : Decidable (st.EndsAsWritten b after) :=
  inferInstanceAs (Decidable (_ = _))

end Style

lemma unlines_append (ls ls' : List String) : unlines (ls ++ ls') = unlines ls ++ unlines ls' := by
  simp [unlines]

lemma Style.unlines_lines (st : Style) (p : OutputElement) : unlines (st.lines p) = st.text p ++ "\n" := by
  rcases p with line | ⟨margin, _ | remarks⟩
  · simp [lines, text, unlines]
  · simp [lines, text, inner, unlines, String.append_assoc]
  · rw [lines, unlines_append, unlines_append]
    simp [text, inner, unlines, String.append_assoc]

lemma Style.unlines_flatMap (st : Style) (elements : List OutputElement) :
    unlines (elements.flatMap st.lines) = st.write elements := by
  induction elements with
  | nil => rfl
  | cons p elements ih =>
    rw [List.flatMap_cons, unlines_append, unlines_lines, ih]
    simp [write]

lemma Style.lines_code (st : Style) (line : String) : st.lines (.code line) = [line] := rfl

lemma Style.flatMap_lines_code (st : Style) (ls : List String) :
    (ls.map OutputElement.code).flatMap st.lines = ls := by
  simp [List.flatMap_map, lines_code]

/-- The words of the output keep the texts of a container apart. -/
structure WrittenContainer.Framed (k : Container) (b : WrittenContainer) : Prop where
  margin : b.margin.toList.all k.isNeutral = true
  remarks : ∀ rs ∈ b.remarks, ∀ r ∈ rs, r.Framed k

/-- Lines end with a line feed. -/
lemma exists_unlines_eq {ls : List String} (h : ls ≠ []) : ∃ s, unlines ls = s ++ "\n" := by
  obtain ⟨ls, l, rfl⟩ := (List.eq_nil_or_concat ls).resolve_left h
  exact ⟨unlines ls ++ l, by simp [unlines, String.append_assoc]⟩

lemma Style.endsAsWritten_iff {st : Style} {b : WrittenContainer} (h : b.Framed st.container)
    (after : List OutputElement) :
    st.EndsAsWritten b after ↔ ∀ t ∈ b.texts, st.container.ends t.toList = false := by
  obtain ⟨margin, remarks⟩ := b
  simp only [← Bool.not_eq_true]
  rw [← List.any_eq_false, EndsAsWritten]
  cases remarks with
  | none =>
    have hclosed := Container.cut_closed_iff (by decide) (List.all_eq_true.1 st.neutral_ellipsis) st.lead.toList
      ("\n" ++ st.write after).toList
    simpa [inner, WrittenContainer.texts, st.ends_lead] using hclosed
  | some rs =>
    obtain ⟨s, hs⟩ := exists_unlines_eq (List.cons_ne_nil st.lead (rs.flatMap Remark.lines))
    have hneutral : ∀ c ∈ '\n' :: (margin ++ st.trail).toList, st.container.isNeutral c = true := by
      intro c hc
      rcases List.mem_cons.1 hc with rfl | hc
      · exact Container.neutral_lineFeed
      · rw [String.toList_append, List.mem_append] at hc
        exact hc.elim (List.all_eq_true.1 h.margin c) (List.all_eq_true.1 st.neutral_trail c)
    have hends : st.container.ends s.toList =
        (rs.flatMap Remark.texts).any fun t => st.container.ends t.toList := by
      have hfeed : ∀ c ∈ ['\n'], st.container.isNeutral c = true := by
        simpa using Container.neutral_lineFeed
      calc st.container.ends s.toList
          = st.container.ends (s ++ "\n").toList := by
            rw [String.toList_append]
            exact (Container.ends_append_neutral hfeed s.toList).symm
        _ = (rs.flatMap Remark.lines).any fun l => st.container.ends l.toList := by
            rw [← hs, Container.ends_unlines, List.any_cons, st.ends_lead, Bool.false_or]
        _ = _ := Remark.any_ends_flatMap (h.remarks rs rfl)
    have hclosed := Container.cut_closed_iff (List.cons_ne_nil _ _) hneutral s.toList
      ("\n" ++ st.write after).toList
    rw [hends] at hclosed
    simpa [inner, WrittenContainer.texts, hs] using hclosed

/-- An output of one file, whose containers each end as they are meant to end exactly if no text shown
in them ends them. -/
def Style.Encloses (st : Style) (elements : List OutputElement) (out : List Artifact) : Prop :=
  (∃ path, out = [⟨path, st.write elements⟩]) ∧
    ∀ before b after, elements = before ++ .container b :: after →
      (st.EndsAsWritten b after ↔ ∀ t ∈ b.texts, st.container.ends t.toList = false)

def OutputElement.Framed (k : Container) : OutputElement → Prop
  | .code _ => True
  | .container b => b.Framed k

lemma framed_container {k : Container} {margin : String} (hm : margin.toList.all k.isNeutral = true)
    {remarks : Option (List Remark)} (h : ∀ rs ∈ remarks, ∀ r ∈ rs, r.Framed k) :
    (OutputElement.container ⟨margin, remarks⟩).Framed k := ⟨hm, h⟩

lemma framed_container_some {k : Container} {margin : String} (hm : margin.toList.all k.isNeutral = true)
    {rs : List Remark} (h : ∀ r ∈ rs, r.Framed k) : (OutputElement.container ⟨margin, some rs⟩).Framed k :=
  framed_container hm fun _ hrs => Option.mem_some.1 hrs ▸ h

/-- A container above a line of code. -/
lemma framed_above {k : Container} {b : WrittenContainer} (h : (OutputElement.container b).Framed k)
    (line : String) : ∀ p ∈ [OutputElement.container b, OutputElement.code line], p.Framed k :=
  List.forall_mem_cons.2 ⟨h, List.forall_mem_singleton.2 trivial⟩

lemma framed_code {k : Container} (ls : List String) : ∀ p ∈ ls.map OutputElement.code, p.Framed k :=
  List.forall_mem_map.2 fun _ _ => trivial

lemma Style.encloses {st : Style} {elements : List OutputElement} {ls : List String}
    (hlines : ls = elements.flatMap st.lines) (hframed : ∀ p ∈ elements, p.Framed st.container)
    (path : String) : st.Encloses elements [⟨path, unlines ls⟩] := by
  refine ⟨⟨path, by rw [hlines, st.unlines_flatMap]⟩, ?_⟩
  intro before b after helements
  have hb : b.Framed st.container := hframed (.container b) (by rw [helements]; simp)
  exact st.endsAsWritten_iff hb after

end BindingDocs.Output
