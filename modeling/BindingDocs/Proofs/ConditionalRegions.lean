import BindingDocs.Reference.Extract
import Mathlib.Data.List.Basic
import Mathlib.Data.List.Forall2
import Mathlib.Data.List.OfFn
import Mathlib.Tactic.Lemma

/-! Regions under conditions. The tree nests the later branches of a region in the earlier ones, and
the walk sees one condition at a time; here a region is one list of branches, and the walk is shown to
choose among them by all their conditions at once. -/
namespace BindingDocs.Reference
open BindingDocs.Source

/-- A condition and what stands under it. -/
structure Branch where
  condition : String
  body : List Item

/-- A region from `#if` to `#endif`: one branch, those after `#elif`, and what stands after `#else`,
which is nothing if there is no such line. -/
structure Region where
  first : Branch
  others : List Branch
  otherwise : List Item

/-- The tree of some branches behind one that has not been taken. -/
def laterBranches (otherwise : List Item) : List Branch → List Item
  | [] => otherwise
  | b :: bs => [.conditional b.condition b.body (laterBranches otherwise bs)]

namespace Region

def branches (r : Region) : List Branch := r.first :: r.others

/-- The tree of a region. -/
def item (r : Region) : Item :=
  .conditional r.first.condition r.first.body (laterBranches r.otherwise r.others)

end Region

/-- What the condition of a branch amounts to; it may have no value. -/
def Branch.value? (b : Branch) (defined : List String) : Option Bool :=
  Condition.evaluate b.condition defined

/-- A branch is taken if its condition is not false and no earlier condition is true. -/
def Taken (defined : List String) (bs : List Branch) (i : Fin bs.length) : Prop :=
  bs[i].value? defined ≠ some false ∧ ∀ j < i, bs[j].value? defined ≠ some true

instance (defined : List String) (bs : List Branch) (i : Fin bs.length) :
    Decidable (Taken defined bs i) := inferInstanceAs (Decidable (_ ∧ _))

/-- What stands after `#else` is taken if no condition is true. -/
def NoneTrue (defined : List String) (bs : List Branch) : Prop :=
  ∀ b ∈ bs, b.value? defined ≠ some true

instance (defined : List String) (bs : List Branch) : Decidable (NoneTrue defined bs) :=
  inferInstanceAs (Decidable (∀ b ∈ bs, _))

/-- What is found in the branches that are taken, in their order, and then after `#else`. -/
def takenFindings (defined : List String) (scope : Scope) (otherwise : List Item)
    (bs : List Branch) : List Finding :=
  (List.ofFn fun i : Fin bs.length =>
    if Taken defined bs i then walkSiblings defined false scope [] bs[i].body else []).flatten ++
  if NoneTrue defined bs then walkSiblings defined true scope [] otherwise else []

section
variable (defined : List String) (b : Branch) (bs : List Branch)

lemma taken_zero : Taken defined (b :: bs) 0 ↔ b.value? defined ≠ some false := by
  simp [Taken]

/-- A later branch is taken if the first condition is not true and it is taken among the others. -/
lemma taken_succ (i : Fin bs.length) : Taken defined (b :: bs) i.succ ↔
    b.value? defined ≠ some true ∧ Taken defined bs i := by
  constructor
  · rintro ⟨hown, hearlier⟩
    refine ⟨hearlier 0 (Fin.succ_pos i), hown, ?_⟩
    intro j hj
    exact hearlier j.succ (Fin.succ_lt_succ_iff.2 hj)
  · rintro ⟨hfirst, hown, hearlier⟩
    refine ⟨hown, ?_⟩
    intro j
    cases j using Fin.cases with
    | zero => exact fun _ => hfirst
    | succ j => exact fun hj => hearlier j (Fin.succ_lt_succ_iff.1 hj)

lemma noneTrue_cons : NoneTrue defined (b :: bs) ↔
    b.value? defined ≠ some true ∧ NoneTrue defined bs := by
  simp [NoneTrue]

lemma takenFindings_cons (scope : Scope) (otherwise : List Item) :
    takenFindings defined scope otherwise (b :: bs) =
      (if b.value? defined = some false then [] else walkSiblings defined false scope [] b.body) ++
      if b.value? defined = some true then [] else takenFindings defined scope otherwise bs := by
  rw [takenFindings, List.ofFn_succ, List.flatten_cons, List.append_assoc]
  congr 1
  · by_cases hfalse : b.value? defined = some false
    · rw [if_neg (fun h => (taken_zero defined b bs).1 h hfalse), if_pos hfalse]
    · rw [if_pos ((taken_zero defined b bs).2 hfalse), if_neg hfalse]
      rfl
  · by_cases htrue : b.value? defined = some true
    · have hlater (i : Fin bs.length) : ¬ Taken defined (b :: bs) i.succ :=
        fun h => ((taken_succ defined b bs i).1 h).1 htrue
      have helse : ¬ NoneTrue defined (b :: bs) := fun h => h b (by simp) htrue
      simp [hlater, helse, htrue]
    · have hlater (i : Fin bs.length) : Taken defined (b :: bs) i.succ ↔ Taken defined bs i := by
        rw [taken_succ, and_iff_right htrue]
      have helse : NoneTrue defined (b :: bs) ↔ NoneTrue defined bs := by
        rw [noneTrue_cons, and_iff_right htrue]
      simp [hlater, helse, htrue, takenFindings]

end

/-- The walk of the later branches of a region. -/
lemma walkSiblings_laterBranches (defined : List String) (scope : Scope) (otherwise : List Item)
    (bs : List Branch) : walkSiblings defined true scope [] (laterBranches otherwise bs) =
      takenFindings defined scope otherwise bs := by
  induction bs with
  | nil => simp [laterBranches, takenFindings, NoneTrue]
  | cons b bs ih =>
    rw [takenFindings_cons, ← ih, laterBranches, walkSiblings, walkSiblings, List.append_nil, walkItem]
    rfl

lemma walkItem_region (defined : List String) (scope : Scope) (before : List String) (r : Region) :
    walkItem defined scope before r.item = takenFindings defined scope r.otherwise r.branches := by
  rw [Region.branches, takenFindings_cons, ← walkSiblings_laterBranches, Region.item, walkItem]
  rfl

/-- What a list of siblings may stand in: the last two are a branch under a condition, and what is
left for the case that the condition does not hold. -/
inductive Parent where
  | other
  | space (name : String)
  | type (name : String)
  | under (condition : String) (rest : List Item)
  | past (condition : String) (body : List Item)

namespace Parent

def wrap (items : List Item) : Parent → Item
  | other => .other items
  | space name => .namespaceBlock name items
  | type name => .typeBlock name items
  | under condition rest => .conditional condition items rest
  | past condition body => .conditional condition body items

/-- Whether the walk goes into a parent. A type without a name is passed over. -/
def IsOpen (defined : List String) : Parent → Prop
  | other => True
  | space _ => True
  | type name => name ≠ ""
  | under condition _ => Condition.evaluate condition defined ≠ some false
  | past condition _ => Condition.evaluate condition defined ≠ some true

/-- Whether a file namespace directly in a parent opens a scope. -/
def opens : Parent → Bool
  | under _ _ => false
  | _ => true

/-- The scope in a parent that stands in a scope. -/
def scope (outer : Scope) : Parent → Scope
  | space name => outer.enterNamespace name
  | type name => outer.enterType name
  | _ => outer

instance (defined : List String) : DecidablePred (IsOpen defined)
  | other => isTrue trivial
  | space _ => isTrue trivial
  | type name => inferInstanceAs (Decidable (name ≠ ""))
  | under condition _ => inferInstanceAs (Decidable (Condition.evaluate condition defined ≠ some false))
  | past condition _ => inferInstanceAs (Decidable (Condition.evaluate condition defined ≠ some true))

end Parent

/-- A place in a tree at any depth, with the siblings around it there and on the way. -/
inductive Site where
  | here (left right : List Item)
  | within (left : List Item) (parent : Parent) (inner : Site) (right : List Item)

namespace Site

/-- The tree with an item at the place. -/
def fill (i : Item) : Site → List Item
  | here left right => left ++ i :: right
  | within left parent inner right => left ++ parent.wrap (inner.fill i) :: right

/-- Whether the walk goes into all that stands around a place. -/
def Reached (defined : List String) : Site → Prop
  | here _ _ => True
  | within _ parent inner _ => parent.IsOpen defined ∧ inner.Reached defined

instance decidableReached (defined : List String) : DecidablePred (Reached defined)
  | here _ _ => isTrue trivial
  | within _ parent inner _ =>
    have := decidableReached defined inner
    inferInstanceAs (Decidable (parent.IsOpen defined ∧ inner.Reached defined))

end Site

section
variable (defined : List String)

lemma walkSiblings_append (opens : Bool) (scope : Scope) (before : List String)
    (is js : List Item) : walkSiblings defined opens scope before (is ++ js) =
      walkSiblings defined opens scope before is ++
        walkSiblings defined opens (if opens then is.foldl scopeAfter scope else scope)
          (is.foldl commentsAfter before) js := by
  induction is generalizing scope before with
  | nil => cases opens <;> rfl
  | cons i is ih =>
    rw [List.cons_append, walkSiblings, ih, walkSiblings, List.append_assoc]
    cases opens <;> rfl

/-- The walk of a parent: what stands in it, if it is open, between findings that do not depend on
it. -/
lemma walkItem_wrap (scope : Scope) (before : List String) (f : Parent) :
    ∃ pre post, ∀ items, walkItem defined scope before (f.wrap items) =
      pre ++ (if f.IsOpen defined then walkSiblings defined f.opens (f.scope scope) [] items else []) ++
        post := by
  cases f with
  | other =>
    exact ⟨[], [], fun items => by
      simp [Parent.wrap, Parent.IsOpen, Parent.opens, Parent.scope, walkItem]⟩
  | space name =>
    exact ⟨[], [], fun items => by
      simp [Parent.wrap, Parent.IsOpen, Parent.opens, Parent.scope, walkItem]⟩
  | type name =>
    refine ⟨if name = "" then [] else [.declared (scope.qualify name) (leadingDoc before)], [],
      fun items => ?_⟩
    by_cases h : name = "" <;> simp [Parent.wrap, Parent.IsOpen, Parent.opens, Parent.scope, walkItem, h]
  | under condition rest =>
    refine ⟨[], if Condition.evaluate condition defined = some true then []
      else walkSiblings defined true scope [] rest, fun items => ?_⟩
    by_cases h : Condition.evaluate condition defined = some false <;>
      simp [Parent.wrap, Parent.IsOpen, Parent.opens, Parent.scope, walkItem, h]
  | past condition body =>
    refine ⟨if Condition.evaluate condition defined = some false then []
      else walkSiblings defined false scope [] body, [], fun items => ?_⟩
    by_cases h : Condition.evaluate condition defined = some true <;>
      simp [Parent.wrap, Parent.IsOpen, Parent.opens, Parent.scope, walkItem, h]

lemma after_wrap (scope : Scope) (before : List String) (f : Parent) (items : List Item) :
    scopeAfter scope (f.wrap items) = scope ∧ commentsAfter before (f.wrap items) = [] := by
  cases f <;> exact ⟨rfl, rfl⟩

/-- Items after which a walk goes on in the same scope and with no comments in front. -/
def IsInert (i : Item) : Prop :=
  ∀ scope before, scopeAfter scope i = scope ∧ commentsAfter before i = []

/-- The comments directly in front of a place, where some stand in front of the whole tree. -/
def Site.commentsFrom (before : List String) : Site → List String
  | .here left _ => left.foldl commentsAfter before
  | .within _ _ inner _ => inner.commentsFrom []

/-- The scope of a place in a tree that stands in a scope. -/
def Site.scopeFrom (opens : Bool) (scope : Scope) : Site → Scope
  | .here left _ => if opens then left.foldl scopeAfter scope else scope
  | .within left parent inner _ =>
    inner.scopeFrom parent.opens (parent.scope (if opens then left.foldl scopeAfter scope else scope))

/-- The walk of a tree around an item: the item, if its place is reached, between findings that do not
depend on it. -/
lemma walkSiblings_fill_item (k : Site) : ∀ opens scope before, ∃ pre post, ∀ i, IsInert i →
    walkSiblings defined opens scope before (k.fill i) =
      pre ++ (if k.Reached defined then
        walkItem defined (k.scopeFrom opens scope) (k.commentsFrom before) i else []) ++ post := by
  induction k with
  | here left right =>
    intro opens scope before
    generalize hscope : (if opens then left.foldl scopeAfter scope else scope) = scope'
    refine ⟨walkSiblings defined opens scope before left,
      walkSiblings defined opens scope' [] right, fun i hi => ?_⟩
    obtain ⟨hafter, hcomments⟩ := hi scope' (left.foldl commentsAfter before)
    rw [Site.fill, walkSiblings_append, hscope, walkSiblings, hafter, hcomments, ite_self,
      if_pos (show Site.Reached defined (.here left right) from trivial), List.append_assoc,
      Site.scopeFrom, hscope]
    rfl
  | within left f inner right ih =>
    intro opens scope before
    generalize hscope : (if opens then left.foldl scopeAfter scope else scope) = scope'
    obtain ⟨pre₁, post₁, hparent⟩ := walkItem_wrap defined scope' (left.foldl commentsAfter before) f
    obtain ⟨pre₂, post₂, hinner⟩ := ih f.opens (f.scope scope') []
    by_cases hopen : f.IsOpen defined
    · refine ⟨walkSiblings defined opens scope before left ++ pre₁ ++ pre₂,
        post₂ ++ post₁ ++ walkSiblings defined opens scope' [] right, fun i hi => ?_⟩
      have hafter := after_wrap scope' (left.foldl commentsAfter before) f (inner.fill i)
      rw [Site.fill, walkSiblings_append, hscope, walkSiblings, hparent, if_pos hopen, hinner i hi,
        hafter.1, hafter.2, ite_self, Site.scopeFrom, hscope]
      simp [Site.Reached, Site.commentsFrom, hopen, List.append_assoc]
    · refine ⟨walkSiblings defined opens scope before left ++ pre₁,
        post₁ ++ walkSiblings defined opens scope' [] right, fun i hi => ?_⟩
      have hafter := after_wrap scope' (left.foldl commentsAfter before) f (inner.fill i)
      rw [Site.fill, walkSiblings_append, hscope, walkSiblings, hparent, if_neg hopen, hafter.1,
        hafter.2, ite_self]
      simp [Site.Reached, hopen, List.append_assoc]

/-- The walk of a tree around a region. -/
lemma walkSiblings_fill (k : Site) : ∀ opens scope before, ∃ scope' pre post, ∀ r : Region,
    walkSiblings defined opens scope before (k.fill r.item) =
      pre ++ (if k.Reached defined then takenFindings defined scope' r.otherwise r.branches else []) ++
        post := by
  intro opens scope before
  obtain ⟨pre, post, hfill⟩ := walkSiblings_fill_item defined k opens scope before
  refine ⟨k.scopeFrom opens scope, pre, post, fun r => ?_⟩
  rw [hfill r.item fun _ _ => ⟨rfl, rfl⟩, walkItem_region]

end

/-- A named type is found among its siblings, in the scope and with the comments in front of it. -/
lemma declared_mem_walkSiblings (defined : List String) (opens : Bool) (scope : Scope)
    (before : List String) (left body right : List Item) {name : String} (hname : name ≠ "") :
    .declared ((if opens then left.foldl scopeAfter scope else scope).qualify name)
        (leadingDoc (left.foldl commentsAfter before)) ∈
      walkSiblings defined opens scope before (left ++ .typeBlock name body :: right) := by
  rw [walkSiblings_append, walkSiblings, walkItem, if_neg hname]
  simp

lemma walkSiblings_subset_takenFindings {defined : List String} (scope : Scope) (otherwise : List Item)
    {bs : List Branch} {i : Fin bs.length} (h : Taken defined bs i) :
    walkSiblings defined false scope [] bs[i].body ⊆ takenFindings defined scope otherwise bs := by
  intro f hf
  refine List.mem_append_left _ (List.mem_flatten.2 ⟨_, List.mem_ofFn.2 ⟨i, rfl⟩, ?_⟩)
  rwa [if_pos h]

/-- Two branches with one body; only a condition without a value may differ. -/
def Branch.Settles (defined : List String) (b b' : Branch) : Prop :=
  b'.body = b.body ∧ (b'.condition = b.condition ∨ b.value? defined = none)

/-- Whatever stands for conditions without a value, nothing is found that was not found with them. -/
lemma takenFindings_sublist (defined : List String) (scope : Scope) (otherwise : List Item)
    {bs bs' : List Branch} (h : List.Forall₂ (Branch.Settles defined) bs bs') :
    (takenFindings defined scope otherwise bs').Sublist
      (takenFindings defined scope otherwise bs) := by
  induction h with
  | nil => exact List.Sublist.refl _
  | @cons b b' bs bs' hb _ ih =>
    obtain ⟨hbody, hvalue⟩ := hb
    rw [takenFindings_cons, takenFindings_cons, hbody]
    rcases hvalue with hsame | hnone
    · have hvalue : b'.value? defined = b.value? defined := congrArg (Condition.evaluate · defined) hsame
      rw [hvalue]
      refine (List.Sublist.refl _).append ?_
      split
      · exact List.Sublist.refl _
      · exact ih
    · simp only [hnone, reduceCtorEq, if_false]
      refine List.Sublist.append ?_ ?_
      · split
        · exact List.nil_sublist _
        · exact List.Sublist.refl _
      · split
        · exact List.nil_sublist _
        · exact ih

/-- What the first branch with a true condition holds, or else what stands after `#else`. -/
def firstTrueFindings (defined : List String) (scope : Scope) (otherwise : List Item)
    (bs : List Branch) : List Finding :=
  match bs.find? fun b => b.value? defined = some true with
  | some b => walkSiblings defined false scope [] b.body
  | none => walkSiblings defined true scope [] otherwise

lemma takenFindings_eq_firstTrue (defined : List String) (scope : Scope) (otherwise : List Item)
    {bs : List Branch} (h : ∀ b ∈ bs, (b.value? defined).isSome) :
    takenFindings defined scope otherwise bs = firstTrueFindings defined scope otherwise bs := by
  induction bs with
  | nil => simp [takenFindings, firstTrueFindings, NoneTrue]
  | cons b bs ih =>
    obtain ⟨v, hv⟩ := Option.isSome_iff_exists.1 (h b (by simp))
    have hrest := ih fun b hb => h b (List.mem_cons_of_mem _ hb)
    rw [takenFindings_cons]
    cases v with
    | true => simp [hv, firstTrueFindings]
    | false => simpa [hv, firstTrueFindings] using hrest

/-- A region anywhere in a tree adds to what the walk finds there, in order: each branch whose
condition is not false and comes after no true one, and what stands after `#else` if no condition is
true. So if all conditions have values it is the first true branch, or else what stands after `#else`;
a type with a name in a branch that is taken is found in the scope of the region; and whatever is put for
conditions without a value, nothing is found that was not found with them. -/
theorem region_selects_branches (defined : List String) (k : Site) :
    ∃ scope pre post,
      (∀ r : Region, findings defined (k.fill r.item) = pre ++
        (if k.Reached defined then takenFindings defined scope r.otherwise r.branches else []) ++
          post) ∧
      (∀ r : Region, (∀ b ∈ r.branches, (b.value? defined).isSome) →
        takenFindings defined scope r.otherwise r.branches =
          firstTrueFindings defined scope r.otherwise r.branches) ∧
      (∀ (r : Region) (i : Fin r.branches.length) (left body right : List Item) (name : String),
        k.Reached defined → Taken defined r.branches i →
        r.branches[i].body = left ++ .typeBlock name body :: right → name ≠ "" →
        .declared (scope.qualify name) (leadingDoc (left.foldl commentsAfter [])) ∈
          findings defined (k.fill r.item)) ∧
      ∀ r r' : Region, r'.otherwise = r.otherwise →
        List.Forall₂ (Branch.Settles defined) r.branches r'.branches →
        (findings defined (k.fill r'.item)).Sublist (findings defined (k.fill r.item)) := by
  obtain ⟨scope, pre, post, hfill⟩ := walkSiblings_fill defined k true ⟨"", none⟩ []
  refine ⟨scope, pre, post, hfill, fun r => takenFindings_eq_firstTrue defined scope r.otherwise, ?_, ?_⟩
  · intro r i left body right name reached taken hbody hname
    have hfound := declared_mem_walkSiblings defined false scope [] left body right hname
    rw [← hbody] at hfound
    rw [findings, hfill r, if_pos reached]
    exact List.mem_append_left _ (List.mem_append_right _
      (walkSiblings_subset_takenFindings scope r.otherwise taken hfound))
  · intro r r' helse hbranches
    rw [findings, findings, hfill r, hfill r', helse]
    refine List.Sublist.append ((List.Sublist.refl _).append ?_) (List.Sublist.refl _)
    split
    · exact takenFindings_sublist defined scope r.otherwise hbranches
    · exact List.Sublist.refl _

/-- The second condition has no value: its branch is kept, and so is what stands after `#else`. -/
example : findings [] [Region.item ⟨⟨"X", [.typeBlock "P" []]⟩, [⟨"X +", [.typeBlock "Q" []]⟩],
    [.typeBlock "R" []]⟩] = [.declared "Q" none, .declared "R" none] := by decide +kernel

end BindingDocs.Reference
