import BindingDocs.Proofs.ConditionalRegions
import Mathlib.Data.List.DropRight

/-! Which comments document a declaration. Of the comments directly in front of it, at any depth of a
tree, the first run of lines with three slashes is taken. Where other comments divide these lines into
several runs, this is the run farthest from the declaration, not the nearest. -/
namespace BindingDocs.Reference
open BindingDocs.Documentation BindingDocs.Source BindingDocs.Text

def commentText? : Item → Option String
  | .comment text => some text
  | _ => none

/-- The comments that stand directly in front of what follows some siblings. -/
def commentsBehind (siblings : List Item) : List String :=
  (siblings.rtakeWhile fun i => (commentText? i).isSome).filterMap commentText?

lemma foldl_commentsAfter (siblings : List Item) :
    siblings.foldl commentsAfter [] = commentsBehind siblings := by
  induction siblings using List.reverseRecOn with
  | nil => rfl
  | append_singleton siblings i ih =>
    rw [List.foldl_append, ih, commentsBehind, commentsBehind, List.rtakeWhile_concat]
    cases i with
    | comment text => simp [commentsAfter, commentText?]
    | _ => simp [commentsAfter, commentText?]

/-- The siblings in front of a place. -/
def Site.siblings : Site → List Item
  | .here left _ => left
  | .within _ _ inner _ => inner.siblings

/-- The comments directly in front of a place. -/
def Site.comments (k : Site) : List String := commentsBehind k.siblings

/-- The scope that the declarations around a place give it. -/
def Site.scope (k : Site) : Scope := k.scopeFrom true ⟨"", none⟩

lemma Site.commentsFrom_nil (k : Site) : k.commentsFrom [] = k.comments := by
  induction k with
  | here left right => exact foldl_commentsAfter left
  | within left f inner right ih => exact ih

/-- Comments that begin with three slashes. -/
def isDocLine (comment : String) : Bool := "///".toList.isPrefixOf (trimmed comment).toList

/-- The text of a documentation line. -/
def docText (comment : String) : String := String.ofList ((trimmed comment).toList.drop 3)

/-- A run of documentation lines that cannot be made longer. -/
structure DocRun (comments : List String) where
  before : List String
  lines : List String
  after : List String
  split : comments = before ++ (lines ++ after)
  nonempty : lines ≠ []
  areDoc : ∀ c ∈ lines, isDocLine c = true
  begins : ∀ c ∈ before.getLast?, isDocLine c = false
  ends : ∀ c ∈ after.head?, isDocLine c = false

namespace DocRun
variable {comments : List String} (r : DocRun comments)

def IsFirst : Prop := ∀ c ∈ r.before, isDocLine c = false

/-- Nothing but other comments stands between a run and the declaration. -/
def IsNearest : Prop := ∀ c ∈ r.after, isDocLine c = false

/-- The text of a run, line by line. -/
def text : String := joinWith "\n" (r.lines.map docText)

/-- The documentation that a run amounts to. -/
def comment : Comment := Comment.parse r.text

/-- The same run where the comments are read backwards. -/
def reversed {comments' : List String} (h : comments' = comments.reverse) : DocRun comments' where
  before := r.after.reverse
  lines := r.lines.reverse
  after := r.before.reverse
  split := by simpa using h.trans (congrArg List.reverse r.split)
  nonempty := by simpa using r.nonempty
  areDoc := by simpa using r.areDoc
  begins := by simpa using r.ends
  ends := by simpa using r.begins

end DocRun

variable {comments : List String}

lemma DocRun.exists_isFirst {c : String} (hc : c ∈ comments) (hdoc : isDocLine c = true) :
    ∃ r : DocRun comments, r.IsFirst := by
  have hbefore : ∀ a ∈ comments.takeWhile (!isDocLine ·), isDocLine a = false := fun a ha => by
    simpa using List.mem_takeWhile_imp ha
  refine ⟨⟨comments.takeWhile (!isDocLine ·), (comments.dropWhile (!isDocLine ·)).takeWhile isDocLine,
    (comments.dropWhile (!isDocLine ·)).dropWhile isDocLine, ?_, ?_, ?_, ?_, ?_⟩, hbefore⟩
  · rw [List.takeWhile_append_dropWhile, List.takeWhile_append_dropWhile]
  · have hhead := List.head?_dropWhile_not (!isDocLine ·) comments
    cases hrest : comments.dropWhile (!isDocLine ·) with
    | nil =>
      have := List.dropWhile_eq_nil_iff.1 hrest c hc
      simp [hdoc] at this
    | cons a rest =>
      rw [hrest, List.head?_cons] at hhead
      rw [List.takeWhile_cons_of_pos (by simpa using hhead)]
      simp
  · exact fun a ha => List.mem_takeWhile_imp ha
  · exact fun a ha => hbefore a (List.mem_of_getLast? ha)
  · intro a ha
    have hhead := List.head?_dropWhile_not isDocLine (comments.dropWhile (!isDocLine ·))
    rwa [Option.mem_def.1 ha] at hhead

lemma DocRun.exists_isNearest {c : String} (hc : c ∈ comments) (hdoc : isDocLine c = true) :
    ∃ r : DocRun comments, r.IsNearest := by
  obtain ⟨r, hr⟩ := DocRun.exists_isFirst (List.mem_reverse.2 hc) hdoc
  exact ⟨r.reversed (by simp), by simpa [IsNearest, IsFirst, reversed] using hr⟩

lemma docLines_eq (comments : List String) :
    docLines comments =
      ((comments.dropWhile (!isDocLine ·)).takeWhile isDocLine).map docText := by
  simp only [docLines, List.dropWhile_map, List.takeWhile_map, List.map_map, Function.comp_def,
    isDocLine]
  rfl

lemma leadingDoc_eq_none (h : ∀ c ∈ comments, isDocLine c = false) : leadingDoc comments = none := by
  have hall : comments.dropWhile (!isDocLine ·) = [] :=
    List.dropWhile_eq_nil_iff.2 fun c hc => by simp [h c hc]
  rw [leadingDoc, docLines_eq, hall]
  rfl

/-- The search takes the first run. -/
lemma DocRun.IsFirst.leadingDoc_eq {r : DocRun comments} (h : r.IsFirst) :
    leadingDoc comments = some r.comment := by
  obtain ⟨a, rest, hlines⟩ := List.exists_cons_of_ne_nil r.nonempty
  have ha : isDocLine a = true := r.areDoc a (by simp [hlines])
  have hskip : comments.dropWhile (!isDocLine ·) = r.lines ++ r.after :=
    calc comments.dropWhile (!isDocLine ·)
        = (r.before ++ (r.lines ++ r.after)).dropWhile (!isDocLine ·) := congrArg _ r.split
      _ = (r.lines ++ r.after).dropWhile (!isDocLine ·) :=
          List.dropWhile_append_of_pos fun c hc => by simp [h c hc]
      _ = r.lines ++ r.after := by
          rw [hlines, List.cons_append, List.dropWhile_cons_of_neg (by simp [ha])]
  have hstop : r.after.takeWhile isDocLine = [] := by
    cases hafter : r.after with
    | nil => rfl
    | cons c after => exact List.takeWhile_cons_of_neg (by simp [r.ends c (by simp [hafter])])
  have hdoc : docLines comments = r.lines.map docText := by
    rw [docLines_eq, hskip, List.takeWhile_append_of_pos r.areDoc, hstop, List.append_nil]
  rw [comment, text, leadingDoc, hdoc, hlines]
  rfl

/-- There is no documentation only where there are no documentation lines. -/
lemma leadingDoc_eq_none_iff :
    leadingDoc comments = none ↔ ∀ c ∈ comments, isDocLine c = false := by
  refine ⟨fun hnone c hc => ?_, leadingDoc_eq_none⟩
  by_contra hdoc
  obtain ⟨r, hr⟩ := DocRun.exists_isFirst hc (Bool.not_eq_false _ ▸ hdoc)
  rw [hr.leadingDoc_eq] at hnone
  cases hnone

@[simp] lemma raw_parse (raw : String) : (Comment.parse raw).raw = raw := by
  rw [Comment.parse]
  split <;> rfl

lemma comment_eq_iff {r r' : DocRun comments} : r.comment = r'.comment ↔ r.text = r'.text := by
  constructor
  · intro h
    rw [← raw_parse r.text, ← raw_parse r'.text]
    exact congrArg Comment.raw h
  · exact congrArg Comment.parse

lemma doc_memberFinding (owner : String) (doc : Option Comment) (m : Source.Member) :
    (memberFinding owner doc m).doc = doc := by
  rw [memberFinding]
  cases m.signature with
  | constructor params => rfl
  | property name type => rfl
  | method name returns params =>
    dsimp only
    split <;> rfl

/-- The documentation of a declaration at any place that is reached. It is read from the first run of
documentation lines among the comments directly in front of the declaration, and is missing only if
there are no such lines; so it is that of the nearest run exactly if the first one has the same text. -/
theorem first_run_documents (defined : List String) (k : Site) (reached : k.Reached defined) :
    ∃ pre post : List Finding,
      (∀ name body, name ≠ "" → findings defined (k.fill (.typeBlock name body)) =
        pre ++ (.declared (k.scope.qualify name) (leadingDoc k.comments) ::
          walkSiblings defined true (k.scope.enterType name) [] body) ++ post) ∧
      (∀ m owner, k.scope.owner = some owner → "public" ∈ m.modifiers →
        ∃ f, findings defined (k.fill (.member m)) = pre ++ [f] ++ post ∧
          f.doc = leadingDoc k.comments) ∧
      (leadingDoc k.comments = none ↔ ∀ c ∈ k.comments, isDocLine c = false) ∧
      (∀ c ∈ k.comments, isDocLine c = true →
        (∃ r : DocRun k.comments, r.IsFirst) ∧ ∃ r : DocRun k.comments, r.IsNearest) ∧
      ∀ first nearest : DocRun k.comments, first.IsFirst → nearest.IsNearest →
        leadingDoc k.comments = some first.comment ∧
        (leadingDoc k.comments = some nearest.comment ↔ first.text = nearest.text) := by
  obtain ⟨pre, post, hfill⟩ := walkSiblings_fill_item defined k true ⟨"", none⟩ []
  have hwalk : ∀ i, IsInert i →
      findings defined (k.fill i) = pre ++ walkItem defined k.scope k.comments i ++ post := by
    intro i hi
    rw [findings, hfill i hi, if_pos reached, k.commentsFrom_nil, Site.scope]
  refine ⟨pre, post, ?_, ?_, leadingDoc_eq_none_iff, ?_, ?_⟩
  · intro name body hname
    rw [hwalk _ fun _ _ => ⟨rfl, rfl⟩, walkItem, if_neg hname]
  · intro m owner howner hpublic
    refine ⟨memberFinding owner (leadingDoc k.comments) m, ?_, doc_memberFinding ..⟩
    rw [hwalk _ fun _ _ => ⟨rfl, rfl⟩, walkItem, howner]
    simp [hpublic]
  · intro c hc hdoc
    exact ⟨DocRun.exists_isFirst hc hdoc, DocRun.exists_isNearest hc hdoc⟩
  · intro first nearest hfirst _
    refine ⟨hfirst.leadingDoc_eq, ?_⟩
    rw [hfirst.leadingDoc_eq, Option.some.injEq, comment_eq_iff]

/-- A place in a class, behind a comment that was left over from a method. -/
def leftoverMember : Site := .within [] (.type "A") (.here
  [.comment "/// <summary>Old.</summary>", .comment "// void G();",
    .comment "/// <summary>New.</summary>"] []) []

theorem first_run_documents_leftover : leftoverMember.Reached [] ∧
    ∃ (pre post : List Finding) (f : Finding),
      findings [] (leftoverMember.fill (.member ⟨["public"], .method "F" "void" []⟩)) =
        pre ++ [f] ++ post ∧
      findings [] (leftoverMember.fill (.typeBlock "B" [])) = pre ++ [.declared "A.B" f.doc] ++ post ∧
      f.doc = some (Comment.parse " <summary>Old.</summary>") := by
  have hreached : leftoverMember.Reached [] := by decide
  have hdoc : leadingDoc leftoverMember.comments = some (Comment.parse " <summary>Old.</summary>") := by
    decide +kernel
  obtain ⟨pre, post, htype, hmember, -⟩ := first_run_documents [] leftoverMember hreached
  obtain ⟨f, hf, hfdoc⟩ := hmember ⟨["public"], .method "F" "void" []⟩ "A" rfl (by decide)
  refine ⟨hreached, pre, post, f, hf, ?_, hfdoc.trans hdoc⟩
  rw [hfdoc]
  exact htype "B" [] (by decide)

/-- A class behind a comment that was left over from another one. -/
def leftoverSite : Site := .here
  [.comment "/// <summary>Old.</summary>", .comment "// class B;", .comment "/// <summary>New.</summary>"]
  []

def leftoverSource : String :=
  "/// <summary>Old.</summary>\n// class B;\n/// <summary>New.</summary>\nclass A \x7b \x7d"

/-- The comment left over is attached to the class, although a comment of its own stands nearer. -/
theorem leftover_comment_is_attached :
    (parse? leftoverSource).map (findings []) =
      some (findings [] (leftoverSite.fill (.typeBlock "A" []))) ∧
    ¬ ∀ (defined : List String) (k : Site) (nearest : DocRun k.comments) (name : String)
      (body : List Item), k.Reached defined → name ≠ "" → nearest.IsNearest →
      ∃ q, .declared q (some nearest.comment) ∈ findings defined (k.fill (.typeBlock name body)) := by
  refine ⟨by decide +kernel, fun h => ?_⟩
  let nearest : DocRun leftoverSite.comments :=
    ⟨["/// <summary>Old.</summary>", "// class B;"], ["/// <summary>New.</summary>"], [],
      by decide, by decide, by decide +kernel, by decide +kernel, by simp⟩
  obtain ⟨q, hq⟩ := h [] leftoverSite nearest "A" [] trivial (by decide) (by simp [DocRun.IsNearest, nearest])
  have hfound : findings [] (leftoverSite.fill (.typeBlock "A" [])) =
      [.declared "A" (some (Comment.parse " <summary>Old.</summary>"))] := by decide +kernel
  have htext : nearest.text = " <summary>New.</summary>" := by decide +kernel
  rw [hfound, List.mem_singleton, DocRun.comment, htext] at hq
  have hraw := congrArg Comment.raw (Option.some.inj (Finding.declared.inj hq).2)
  rw [raw_parse, raw_parse] at hraw
  exact absurd hraw (by decide)

end BindingDocs.Reference
