import BindingDocs.Proofs.RegistrationOrder

/-! Boundaries between texts. Scanning one text after another is scanning the two as one text with a
line feed between them, up to the numbers of the lines: the line feed adds at most an empty line, which
no state takes notice of. -/
namespace BindingDocs.Text

/-- Behind a line feed the lines of a text begin anew. -/
lemma linesFrom_append_lineFeed (a b seen : List Char) :
    linesFrom seen (a ++ '\n' :: b) = linesFrom seen (a ++ ['\n']) ++ lines b := by
  induction a generalizing seen with
  | nil => simp [linesFrom, lines]
  | cons c a ih =>
    rw [List.cons_append, List.cons_append, linesFrom, linesFrom]
    split
    · rw [ih, List.cons_append]
    · exact ih (c :: seen)

end BindingDocs.Text

namespace BindingDocs.Registration
open BindingDocs.Text Scanner

def lineCount (text : String) : Nat := (lines text.toList).length

lemma length_trimmedLines (text : String) : (trimmedLines text).length = lineCount text := by
  rw [trimmedLines, List.length_map, lineCount]

lemma trimmedLines_append_lineFeed (a b : String) :
    trimmedLines (a ++ "\n" ++ b) = trimmedLines (a ++ "\n") ++ trimmedLines b := by
  have hjoined : (a ++ "\n" ++ b).toList = a.toList ++ '\n' :: b.toList := by simp
  have hended : (a ++ "\n").toList = a.toList ++ ['\n'] := by simp
  rw [trimmedLines, trimmedLines, trimmedLines, hjoined, hended, lines, linesFrom_append_lineFeed,
    List.map_append]
  rfl

/-- A line feed behind a text ends its last line, or adds an empty one. -/
lemma trimmedLines_lineFeed (a : String) :
    ∃ gap : List String, (∀ line ∈ gap, line = "") ∧ trimmedLines (a ++ "\n") = trimmedLines a ++ gap := by
  obtain ⟨gap, hgap, hlines⟩ := trimmedLines_append a ""
  rw [String.append_empty] at hlines
  exact ⟨gap, hgap, hlines.trans (List.append_nil _)⟩

namespace Scanner

lemma steps_empty (s : Scanner) {gap : List String} (h : ∀ line ∈ gap, line = "") : Steps s gap s := by
  induction gap with
  | nil => exact Steps.nil s
  | cons line gap ih =>
    obtain ⟨rfl, hgap⟩ := List.forall_mem_cons.1 h
    exact Steps.cons (step_other s (by decide)) (ih hgap)

/-- A result whose error, if there is one, is reported some lines further down. -/
def later (k : Nat) (result : Except (Nat × LineError) Unit) : Except (Nat × LineError) Unit :=
  result.mapError fun e => (e.1 + k, e.2)

/-- The number of the first line has no influence but on the number of the line that fails. -/
lemma scanLines_add (s : Scanner) (n k : Nat) (lines : List String) :
    s.scanLines (n + k) lines = (later k (s.scanLines n lines).1, (s.scanLines n lines).2) := by
  induction lines generalizing s n with
  | nil => rfl
  | cons line rest ih =>
    rw [scanLines, scanLines]
    rcases hs : s.step line with ⟨e | u, t⟩
    · rfl
    · simp only [Nat.add_right_comm n k 1]
      exact ih t (n + 1)

/-- A text that is scanned without an error leaves the state that its lines lead to, with a line feed
behind it or without. -/
lemma steps_lineFeed {s : Scanner} {a : String} (h : (s.scan a).1 = .ok ()) :
    Steps s (trimmedLines (a ++ "\n")) (s.scan a).2 := by
  obtain ⟨gap, hgap, hlines⟩ := trimmedLines_lineFeed a
  have hfirst : Steps s (trimmedLines a) (s.scan a).2 := Steps.of_scanLines (Prod.ext h rfl)
  rw [hlines]
  exact hfirst.append (steps_empty _ hgap)

end Scanner

/-- Where a text ends does not matter. If a text is scanned without an error, then another one scanned
after it leaves the same registries and the same open declaration as both in one with a line feed
between them, and fails with the same error, whose line is counted from the beginning of its text. -/
theorem text_boundary_is_invisible (s : Scanner) {a : String} (h : (s.scan a).1 = .ok ()) (b : String) :
    let apart := (s.scan a).2.scan b
    let joined := s.scan (a ++ "\n" ++ b)
    joined.2 = apart.2 ∧ joined.1 = later (lineCount (a ++ "\n")) apart.1 := by
  intro apart joined
  have hfirst := steps_lineFeed h
  have hok : (s.scanLines 1 (trimmedLines (a ++ "\n"))).1 = .ok () := by rw [hfirst.scanLines 1]
  have hjoined : joined = (later (lineCount (a ++ "\n")) apart.1, apart.2) :=
    calc joined
        = s.scanLines 1 (trimmedLines (a ++ "\n") ++ trimmedLines b) := by
          rw [← trimmedLines_append_lineFeed]
          rfl
      _ = (s.scan a).2.scanLines (1 + lineCount (a ++ "\n")) (trimmedLines b) := by
          rw [scanLines_append_of_ok _ hok, ← hfirst.eq_advance, length_trimmedLines]
      _ = (later (lineCount (a ++ "\n")) apart.1, apart.2) := scanLines_add _ _ _ _
  rw [hjoined]
  exact ⟨rfl, rfl⟩

/-- The first text ends in a carriage return, inside a class; the second text adds to the class and
then declares it again. -/
theorem text_boundary_is_invisible_sample :
    let a := "class_<BND_Arc>(\"Arc\")\n.constructor<double>()\r"
    let b := ".property(\"Radius\", &BND_Arc::Radius)\nclass_<BND_Arc>(\"ARC\")"
    (new.scan a).1 = .ok () ∧
      ((new.scan a).2.scan b).1 = .error (2, .duplicate "javascript" "ARC") ∧
      (new.scan (a ++ "\n" ++ b)).1 = .error (4, .duplicate "javascript" "ARC") ∧
      (new.scan (a ++ "\n" ++ b)).2 = ((new.scan a).2.scan b).2 := by
  intro a b
  have hok : (new.scan a).1 = .ok () := by decide +kernel
  have herror : ((new.scan a).2.scan b).1 = .error (2, .duplicate "javascript" "ARC") := by
    decide +kernel
  have hcount : lineCount (a ++ "\n") = 2 := by decide +kernel
  obtain ⟨hstate, hresult⟩ := text_boundary_is_invisible new hok b
  refine ⟨hok, herror, ?_, hstate⟩
  rw [hresult, herror, hcount]
  rfl

end BindingDocs.Registration
