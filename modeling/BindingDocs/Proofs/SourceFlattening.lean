import BindingDocs.Reference.Extract
import Mathlib.Data.List.Basic
import Mathlib.Tactic.Lemma

/-! The declarations of a source as a flat list in the order of the text. Each comes with all that
stands around it, so that its scope can be read off its own place. -/
namespace BindingDocs.Reference
open BindingDocs.Source BindingDocs.Text

/-- What stands around a declaration: a namespace, a type, or a file namespace directly in a branch
under a condition. A file namespace stands around the siblings that follow it. -/
inductive Enclosure where
  | space (name : String)
  | branchSpace (name : String)
  | type (name : String)
  deriving Repr, DecidableEq

/-- All that stands around a declaration, from the outside in, and the comments directly before it. -/
structure Place where
  around : List Enclosure
  comments : List String
  deriving Repr, DecidableEq

/-- A declaration of a type or of a member at its place. -/
inductive Occurrence where
  | type (place : Place) (name : String)
  | member (place : Place) (m : Source.Member)
  deriving Repr, DecidableEq

namespace Occurrence

def inside (e : Enclosure) : Occurrence → Occurrence
  | type p name => type ⟨e :: p.around, p.comments⟩ name
  | member p m => member ⟨e :: p.around, p.comments⟩ m

/-- A declaration among the siblings that follow an item. -/
def behind (opens : Bool) (o : Occurrence) : Item → Occurrence
  | .fileNamespace name => o.inside (if opens then .space name else .branchSpace name)
  | _ => o

end Occurrence

mutual

/-- The declarations in the active parts of an item. -/
def itemOccurrences (defined : List String) (before : List String) : Item → List Occurrence
  | .comment _ => []
  | .fileNamespace _ => []
  | .other inner => occurrences defined true [] inner
  | .namespaceBlock name body => (occurrences defined true [] body).map (·.inside (.space name))
  | .typeBlock name body =>
    if name = "" then []
    else .type ⟨[], before⟩ name :: (occurrences defined true [] body).map (·.inside (.type name))
  | .member m => [.member ⟨[], before⟩ m]
  | .conditional condition body alternative =>
    (if Condition.evaluate condition defined = some false then []
      else occurrences defined false [] body) ++
    (if Condition.evaluate condition defined = some true then []
      else occurrences defined true [] alternative)

/-- The declarations in the active parts of a list of siblings. -/
def occurrences (defined : List String) (opens : Bool) (before : List String) :
    List Item → List Occurrence
  | [] => []
  | i :: is => itemOccurrences defined before i ++
      (occurrences defined opens (commentsAfter before i) is).map (·.behind opens i)

end

/-- The scope inside an enclosure. The walk passes over a file namespace in a branch. -/
def Scope.enter (scope : Scope) : Enclosure → Scope
  | .space name => scope.enterNamespace name
  | .branchSpace _ => scope
  | .type name => scope.enterType name

def Scope.within (scope : Scope) (around : List Enclosure) : Scope := around.foldl Scope.enter scope

/-- What a walk finds in a declaration. -/
def findingsAt (scope : Scope) : Occurrence → List Finding
  | .type p name => [.declared ((scope.within p.around).qualify name) (leadingDoc p.comments)]
  | .member p m => match (scope.within p.around).owner with
    | some owner =>
      if m.modifiers.contains "public" then [memberFinding owner (leadingDoc p.comments) m] else []
    | none => []

lemma findingsAt_inside (scope : Scope) (e : Enclosure) (o : Occurrence) :
    findingsAt scope (o.inside e) = findingsAt (scope.enter e) o := by
  cases o <;> rfl

lemma flatMap_inside (scope : Scope) (e : Enclosure) (os : List Occurrence) :
    (os.map (·.inside e)).flatMap (findingsAt scope) = os.flatMap (findingsAt (scope.enter e)) := by
  simp only [List.flatMap_map, findingsAt_inside]

lemma flatMap_behind (opens : Bool) (scope : Scope) (i : Item) (os : List Occurrence) :
    (os.map (·.behind opens i)).flatMap (findingsAt scope) =
      os.flatMap (findingsAt (if opens then scopeAfter scope i else scope)) := by
  cases i with
  | fileNamespace name =>
    cases opens
    · exact flatMap_inside scope (.branchSpace name) os
    · exact flatMap_inside scope (.space name) os
  | _ => simp [Occurrence.behind, scopeAfter]

mutual

lemma walkItem_eq (defined : List String) (scope : Scope) (before : List String) : ∀ i : Item,
    walkItem defined scope before i = (itemOccurrences defined before i).flatMap (findingsAt scope)
  | .comment _ => rfl
  | .fileNamespace _ => rfl
  | .other inner => walkSiblings_eq defined true scope [] inner
  | .namespaceBlock name body => by
    rw [walkItem, itemOccurrences, flatMap_inside]
    exact walkSiblings_eq defined true _ [] body
  | .typeBlock name body => by
    rw [walkItem, itemOccurrences]
    split
    · rfl
    · rw [List.flatMap_cons, flatMap_inside, walkSiblings_eq defined true _ [] body]
      rfl
  | .member m => by
    rw [walkItem, itemOccurrences, List.flatMap_singleton]
    rfl
  | .conditional condition body alternative => by
    rw [walkItem, itemOccurrences, List.flatMap_append, walkSiblings_eq defined false scope [] body,
      walkSiblings_eq defined true scope [] alternative]
    congr 1
    · split <;> rfl
    · split <;> rfl

/-- The walk finds what the flat list of declarations holds, in its order. -/
lemma walkSiblings_eq (defined : List String) (opens : Bool) (scope : Scope) (before : List String) :
    ∀ is : List Item, walkSiblings defined opens scope before is =
      (occurrences defined opens before is).flatMap (findingsAt scope)
  | [] => rfl
  | i :: is => by
    rw [walkSiblings, occurrences, List.flatMap_append, flatMap_behind,
      walkItem_eq defined scope before i, walkSiblings_eq defined opens _ _ is]

end

end BindingDocs.Reference
