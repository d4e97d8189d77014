import BindingDocs.Proofs.SourceFlattening
import BindingDocs.Proofs.TextSearch
import Mathlib.Data.List.DropRight

/-! The scope of a declaration, read off what stands around it: a dotted path of namespaces and
types, and the type that owns the members declared there. -/
namespace BindingDocs.Reference
open BindingDocs.Text

/-- The names of a path with dots between them. Empty names in front add nothing. -/
def dotted (names : List String) : String := joinWith "." (names.dropWhile (· = ""))

lemma joinWith_concat_head (first second : String) (names : List String) :
    joinWith "." ((first ++ "." ++ second) :: names) = joinWith "." (first :: second :: names) := by
  cases names with
  | nil => rfl
  | cons name names => simp only [joinWith, String.append_assoc]

lemma foldl_join_of_ne {outer : String} (h : outer ≠ "") (names : List String) :
    names.foldl Scope.join outer = joinWith "." (outer :: names) := by
  induction names generalizing outer with
  | nil => rfl
  | cons name names ih =>
    have hjoin : Scope.join outer name = outer ++ "." ++ name := if_neg h
    have hne : outer ++ "." ++ name ≠ "" := by simp [h]
    rw [List.foldl_cons, hjoin, ih hne, joinWith_concat_head]

lemma foldl_join (names : List String) : names.foldl Scope.join "" = dotted names := by
  induction names with
  | nil => rfl
  | cons name names ih =>
    have hjoin : Scope.join "" name = name := if_pos rfl
    rw [List.foldl_cons, hjoin]
    by_cases h : name = ""
    · rw [h, ih, dotted, dotted, List.dropWhile_cons_of_pos (by simp)]
    · rw [foldl_join_of_ne h, dotted, List.dropWhile_cons_of_neg (by simpa using h)]

lemma dotted_concat (names : List String) (name : String) :
    dotted (names ++ [name]) = Scope.join (dotted names) name := by
  rw [← foldl_join, ← foldl_join, List.foldl_append]
  rfl

/-- The key of a class is that of its own name, whatever stands around it. -/
lemma classKey_join (outer name : String) : classKey (Scope.join outer name) = classKey name := by
  have hdots : (outer ++ "." ++ name).toList = outer.toList ++ '.' :: name.toList := by
    simp [String.toList_append]
  rw [Scope.join]
  split
  · rfl
  · rw [classKey, classKey, shortName, shortName, hdots, afterLast_append_cons]

namespace Enclosure

def space? : Enclosure → Option String
  | .space name => some name
  | _ => none

def type? : Enclosure → Option String
  | .type name => some name
  | _ => none

def spaces (around : List Enclosure) : List String := around.filterMap space?

/-- The types that count around a declaration: those inside the innermost namespace. A namespace
inside a type takes what it holds out of that type. -/
def types (around : List Enclosure) : List String :=
  (around.rtakeWhile (·.space?.isNone)).filterMap type?

lemma spaces_concat (around : List Enclosure) (e : Enclosure) :
    spaces (around ++ [e]) = spaces around ++ e.space?.toList := by
  rw [spaces, List.filterMap_append]
  cases e <;> rfl

lemma types_concat (around : List Enclosure) (e : Enclosure) :
    types (around ++ [e]) = if e.space?.isNone then types around ++ e.type?.toList else [] := by
  rw [types, List.rtakeWhile_concat]
  split
  · rw [List.filterMap_append]
    cases e <;> rfl
  · rfl

end Enclosure

namespace Place

/-- The names around a place: the namespaces, then the types. -/
def path (p : Place) : List String := Enclosure.spaces p.around ++ Enclosure.types p.around

/-- The type that owns a member declared at a place. -/
def owner? (p : Place) : Option String := (Enclosure.types p.around).getLast?

end Place

/-- The scope at the top of a source. -/
def Scope.top : Scope := ⟨"", none⟩

open Enclosure in
lemma Scope.within_top (around : List Enclosure) :
    Scope.top.within around = ⟨dotted (spaces around),
      if types around = [] then none else some (dotted (spaces around ++ types around))⟩ := by
  induction around using List.reverseRecOn with
  | nil => rfl
  | append_singleton around e ih =>
    have hstep : Scope.top.within (around ++ [e]) = (Scope.top.within around).enter e := by
      simp only [Scope.within, List.foldl_append, List.foldl_cons, List.foldl_nil]
    rw [hstep, ih, spaces_concat, types_concat]
    cases e with
    | space name => simp [Scope.enter, Scope.enterNamespace, space?, dotted_concat]
    | branchSpace name => simp [Scope.enter, space?, type?]
    | type name =>
      by_cases h : types around = []
      · simp [Scope.enter, Scope.enterType, Scope.qualify, space?, type?, h, dotted_concat]
      · simp [Scope.enter, Scope.enterType, Scope.qualify, space?, type?, h, ← List.append_assoc,
          dotted_concat]

/-- The class key under which a member declared at a place is recorded. -/
def Place.ownerKey? (p : Place) : Option String := p.owner?.map classKey

lemma classKey_path {p : Place} {owner : String} (h : p.owner? = some owner) :
    classKey (dotted p.path) = classKey owner := by
  obtain ⟨types, htypes⟩ := List.getLast?_eq_some_iff.1 h
  rw [Place.path, htypes, ← List.append_assoc, dotted_concat, classKey_join]

lemma findingsAt_type (p : Place) (name : String) :
    findingsAt Scope.top (.type p name) =
      [.declared (dotted (p.path ++ [name])) (leadingDoc p.comments)] := by
  rw [findingsAt, Scope.within_top, dotted_concat, Scope.qualify, Place.path]
  by_cases h : Enclosure.types p.around = []
  · simp [h]
  · simp [h]

lemma findingsAt_member (p : Place) (m : Source.Member) :
    findingsAt Scope.top (.member p m) =
      if p.owner?.isSome ∧ m.modifiers.contains "public" then
        [memberFinding (dotted p.path) (leadingDoc p.comments) m] else [] := by
  rw [findingsAt, Scope.within_top, Place.owner?]
  by_cases h : Enclosure.types p.around = []
  · simp [h]
  · simp [h, Place.path]

/-- The owner inside an enclosure. -/
def Enclosure.innermost (owner : Option String) : Enclosure → Option String
  | .space _ => none
  | .branchSpace _ => owner
  | .type name => some name

lemma Place.owner?_eq (p : Place) : p.owner? = p.around.foldl Enclosure.innermost none := by
  rw [Place.owner?]
  induction p.around using List.reverseRecOn with
  | nil => rfl
  | append_singleton around e ih =>
    rw [List.foldl_append, ← ih, Enclosure.types_concat]
    cases e <;> simp [Enclosure.innermost, Enclosure.space?, Enclosure.type?]

def Occurrence.typeName? : Occurrence → Option String
  | .type _ name => some name
  | .member _ _ => none

def typeNames (os : List Occurrence) : List String := os.filterMap Occurrence.typeName?

@[simp] lemma typeNames_type (p : Place) (name : String) (os : List Occurrence) :
    typeNames (.type p name :: os) = name :: typeNames os := rfl

@[simp] lemma typeNames_member (p : Place) (m : Source.Member) (os : List Occurrence) :
    typeNames (.member p m :: os) = typeNames os := rfl

/-- Each member of a list has its owner among the types declared before it, or among the known
ones. The list itself stands directly in `owner`. -/
def Introduced (owner : Option String) : List String → List Occurrence → Prop
  | _, [] => True
  | known, .type _ name :: os => Introduced owner (known ++ [name]) os
  | known, .member p _ :: os =>
    (∀ name, p.around.foldl Enclosure.innermost owner = some name → name ∈ known) ∧
      Introduced owner known os

namespace Introduced
variable {owner : Option String} {known known' : List String} {os os' : List Occurrence}

lemma mono (hsub : known ⊆ known') (h : Introduced owner known os) :
    Introduced owner known' os := by
  induction os generalizing known known' with
  | nil => trivial
  | cons o os ih => cases o with
    | type p name =>
      have hsub' : known ++ [name] ⊆ known' ++ [name] := List.append_subset.2
        ⟨List.subset_append_of_subset_left [name] hsub, List.subset_append_right known' [name]⟩
      exact ih hsub' h
    | member p m => exact ⟨fun name hname => hsub (h.1 name hname), ih hsub h.2⟩

lemma append_iff : Introduced owner known (os ++ os') ↔
    Introduced owner known os ∧ Introduced owner (known ++ typeNames os) os' := by
  induction os generalizing known with
  | nil => simp [Introduced, typeNames]
  | cons o os ih => cases o with
    | type p name =>
      rw [typeNames_type, List.append_cons]
      exact ih
    | member p m => simp [Introduced, and_assoc, ih]

lemma append (h : Introduced owner known os) (h' : Introduced owner known os') :
    Introduced owner known (os ++ os') :=
  append_iff.2 ⟨h, h'.mono (List.subset_append_left known _)⟩

lemma inside {e : Enclosure} (h : Introduced (e.innermost owner) known os) :
    Introduced owner known (os.map (·.inside e)) := by
  induction os generalizing known with
  | nil => trivial
  | cons o os ih => cases o with
    | type p name => exact ih h
    | member p m => exact ⟨h.1, ih h.2⟩

end Introduced

/-- The owner of a member is declared before it. -/
lemma Introduced.declared {os : List Occurrence} {p : Place} {m : Source.Member} {name : String}
    (h : Introduced none [] (os ++ [.member p m])) (howner : p.owner? = some name) :
    name ∈ typeNames os := by
  rw [p.owner?_eq] at howner
  exact (append_iff.1 h).2.1 name howner

mutual

lemma introduced_item (defined : List String) (before : List String) (owner : Option String)
    (known : List String) (hknown : ∀ name, owner = some name → name ∈ known) : ∀ i : Source.Item,
    Introduced owner known (itemOccurrences defined before i)
  | .comment _ => trivial
  | .fileNamespace _ => trivial
  | .other inner => introduced_siblings defined true [] owner known hknown inner
  | .namespaceBlock name body =>
    Introduced.inside (introduced_siblings defined true [] none known nofun body)
  | .typeBlock name body => by
    rw [itemOccurrences]
    split
    · trivial
    · exact Introduced.inside (introduced_siblings defined true [] (some name) (known ++ [name])
        (by simp) body)
  | .member m => ⟨hknown, trivial⟩
  | .conditional condition body alternative => by
    rw [itemOccurrences]
    apply Introduced.append
    · split
      · trivial
      · exact introduced_siblings defined false [] owner known hknown body
    · split
      · trivial
      · exact introduced_siblings defined true [] owner known hknown alternative

/-- A walk meets a type before the members it owns. -/
lemma introduced_siblings (defined : List String) (opens : Bool) (before : List String)
    (owner : Option String) (known : List String)
    (hknown : ∀ name, owner = some name → name ∈ known) : ∀ is : List Source.Item,
    Introduced owner known (occurrences defined opens before is)
  | [] => trivial
  | i :: is => by
    rw [occurrences]
    refine (introduced_item defined before owner known hknown i).append ?_
    have rest owner' h := introduced_siblings defined opens (commentsAfter before i) owner' known h is
    cases i with
    | fileNamespace name =>
      cases opens with
      | false => exact Introduced.inside (e := .branchSpace name) (rest owner hknown)
      | true => exact Introduced.inside (e := .space name) (rest none nofun)
    | _ => simpa [Occurrence.behind] using rest owner hknown

end

end BindingDocs.Reference
