import BindingDocs.Proofs.Registry
import BindingDocs.Proofs.SourceScope
import Mathlib.Data.List.Dedup

/-! What a model holds after any run over sources: for each class key, the declarations and members
of all accepted sources in the order of the texts. -/
namespace BindingDocs.Reference
open BindingDocs.Documentation BindingDocs.Source BindingDocs.Text

/-- Public members are kept, except methods with results by reference or more than one result. -/
def isRetained (m : Source.Member) : Bool :=
  m.modifiers.contains "public" && match m.signature with
    | .method _ _ params =>
      refCount (params.map (·.declared)) = 0 && outCount (params.map (·.declared)) < 2
    | _ => true

lemma isRetained_method {modifiers : List String} {name returns : String}
    {params : List WrittenParameter} : isRetained ⟨modifiers, .method name returns params⟩ = true ↔
      modifiers.contains "public" = true ∧
        refCount (params.map (·.declared)) = 0 ∧ outCount (params.map (·.declared)) < 2 := by
  simp only [isRetained, Bool.and_eq_true, decide_eq_true_eq]

/-- The places and names of the types declared under a class key. -/
def declarations (key : String) (os : List Occurrence) : List (Place × String) :=
  os.filterMap fun
    | .type p name => if classKey name = key then some (p, name) else none
    | .member _ _ => none

/-- The retained members whose owner has a class key, with their places. -/
def members (key : String) (os : List Occurrence) : List (Place × Source.Member) :=
  os.filterMap fun
    | .type _ _ => none
    | .member p m => if p.ownerKey? = some key ∧ isRetained m then some (p, m) else none

def docAt? (d : Place × String) : Option Comment := leadingDoc d.1.comments

def constructorAt? (d : Place × Source.Member) : Option Constructor :=
  match d.2.signature with
  | .constructor params => some ⟨params.map (·.declared), leadingDoc d.1.comments⟩
  | _ => none

def methodAt? (d : Place × Source.Member) : Option Method :=
  match d.2.signature with
  | .method name returns params =>
    some ⟨name, returns, params.map (·.declared), d.2.modifiers.contains "static",
      leadingDoc d.1.comments⟩
  | _ => none

def propertyAt? (d : Place × Source.Member) : Option Property :=
  match d.2.signature with
  | .property name type =>
    some ⟨name, type, d.2.modifiers.contains "static", leadingDoc d.1.comments⟩
  | _ => none

/-- The class under a key, put together from all that is declared under it. -/
def collected? (key : String) (os : List Occurrence) : Option Class :=
  (declarations key os).head?.map fun d =>
    ⟨dotted (d.1.path ++ [d.2]), (declarations key os).findSome? docAt?,
      (members key os).filterMap constructorAt?, (members key os).filterMap methodAt?,
      (members key os).filterMap propertyAt?⟩

def Class.addMember (c : Class) (d : Place × Source.Member) : Class :=
  { c with
    constructors := c.constructors ++ (constructorAt? d).toList
    methods := c.methods ++ (methodAt? d).toList
    properties := c.properties ++ (propertyAt? d).toList }

lemma declarations_concat_type (key : String) (os : List Occurrence) (p : Place) (name : String) :
    declarations key (os ++ [.type p name]) =
      declarations key os ++ if classKey name = key then [(p, name)] else [] := by
  rw [declarations, List.filterMap_append]
  split <;> simp_all [declarations]

lemma declarations_concat_member (key : String) (os : List Occurrence) (p : Place)
    (m : Source.Member) : declarations key (os ++ [.member p m]) = declarations key os := by
  simp [declarations]

lemma members_concat_type (key : String) (os : List Occurrence) (p : Place) (name : String) :
    members key (os ++ [.type p name]) = members key os := by
  simp [members]

lemma members_concat_member (key : String) (os : List Occurrence) (p : Place) (m : Source.Member) :
    members key (os ++ [.member p m]) =
      members key os ++ if p.ownerKey? = some key ∧ isRetained m then [(p, m)] else [] := by
  rw [members, List.filterMap_append]
  split <;> simp_all [members]

lemma declarations_eq_nil_iff {key : String} {os : List Occurrence} :
    declarations key os = [] ↔ key ∉ (typeNames os).map classKey := by
  induction os with
  | nil => simp [declarations, typeNames]
  | cons o os ih => cases o with
    | type p name =>
      by_cases h : classKey name = key
      · simp [declarations, h]
      · simpa [declarations, h, Ne.symm h] using ih
    | member p m => simpa [declarations] using ih

lemma collected?_isSome_iff {key : String} {os : List Occurrence} :
    (collected? key os).isSome ↔ key ∈ (typeNames os).map classKey := by
  rw [collected?, Option.isSome_map, List.isSome_head?, ne_eq, declarations_eq_nil_iff, not_not]

/-- Nothing is collected for a class before it is declared. -/
lemma members_eq_nil {key : String} {os : List Occurrence} (h : Introduced none [] os)
    (hnone : declarations key os = []) : members key os = [] := by
  induction os using List.reverseRecOn with
  | nil => rfl
  | append_singleton os o ih =>
    have hos := (Introduced.append_iff.1 h).1
    cases o with
    | type p name =>
      rw [declarations_concat_type] at hnone
      rw [members_concat_type, ih hos (List.append_eq_nil_iff.1 hnone).1]
    | member p m =>
      rw [declarations_concat_member] at hnone
      have howner : p.ownerKey? ≠ some key := by
        intro hkey
        obtain ⟨owner, howner, rfl⟩ := Option.map_eq_some_iff.1 hkey
        exact declarations_eq_nil_iff.1 hnone (List.mem_map_of_mem (h.declared howner))
      rw [members_concat_member, ih hos hnone, if_neg (fun hr => howner hr.1), List.append_nil]

lemma collected?_concat_type (key : String) {os : List Occurrence} (h : Introduced none [] os)
    (p : Place) (name : String) : collected? key (os ++ [.type p name]) =
      if classKey name = key then
        some (((collected? key os).getD (.new (dotted (p.path ++ [name])))).withDoc
          (leadingDoc p.comments))
      else collected? key os := by
  rw [collected?, members_concat_type, declarations_concat_type]
  split
  · cases hd : declarations key os with
    | nil => simp [collected?, hd, members_eq_nil h hd, Class.new, Class.withDoc, docAt?]
    | cons d ds =>
      have hdoc : (d :: (ds ++ [(p, name)])).findSome? docAt? =
          ((d :: ds).findSome? docAt?).or (leadingDoc p.comments) := by
        rw [← List.cons_append, List.findSome?_append, List.findSome?_singleton, docAt?]
      simp [collected?, hd, Class.withDoc, hdoc]
  · rw [List.append_nil, collected?]

lemma collected?_concat_member (key : String) (os : List Occurrence) (p : Place) (m : Source.Member) :
    collected? key (os ++ [.member p m]) =
      if p.ownerKey? = some key ∧ isRetained m then (collected? key os).map (·.addMember (p, m))
      else collected? key os := by
  rw [collected?, members_concat_member, declarations_concat_member]
  split
  · have hlast {α : Type} (f : Place × Source.Member → Option α) :
        [(p, m)].filterMap f = (f (p, m)).toList := by cases hf : f (p, m) <;> simp [hf]
    simp [collected?, Class.addMember, List.filterMap_append, hlast, Function.comp_def]
  · rw [List.append_nil, collected?]

/-- What a declaration adds to a model. -/
def Model.see (m : Model) (o : Occurrence) : Model := (findingsAt Scope.top o).foldl Model.record m

lemma Model.get?_update (m : Model) (name : String) (f : Class → Class) (key : String) :
    (m.update name f).classes.get? key =
      if classKey name = key then some (f ((m.classes.get? key).getD (.new name)))
      else m.classes.get? key := by
  rw [Model.update, Registry.get?_alter]
  by_cases h : key = classKey name
  · simp [h]
  · simp [h, Ne.symm h]

lemma Model.record_memberFinding (model : Model) (owner : String) (p : Place) (m : Source.Member)
    (hpublic : m.modifiers.contains "public") :
    model.record (memberFinding owner (leadingDoc p.comments) m) =
      if isRetained m then model.update owner (·.addMember (p, m)) else model := by
  obtain ⟨modifiers, signature⟩ := m
  have hmem : "public" ∈ modifiers := by simpa using hpublic
  cases signature with
  | constructor params =>
    simp [isRetained, hmem, memberFinding, Model.record, Class.addMember, Class.addConstructor,
      constructorAt?, methodAt?, propertyAt?]
  | method name returns params =>
    by_cases hkept : refCount (params.map (·.declared)) = 0 ∧ outCount (params.map (·.declared)) < 2
    · have hr : isRetained ⟨modifiers, .method name returns params⟩ = true :=
        isRetained_method.2 ⟨hpublic, hkept⟩
      have hrefs : ¬ (0 < refCount (params.map (·.declared)) ∨
          2 ≤ outCount (params.map (·.declared))) := by omega
      simp [hr, memberFinding, Model.record, Class.addMember, Class.addMethod, constructorAt?,
        methodAt?, propertyAt?, hrefs]
    · have hr : ¬ isRetained ⟨modifiers, .method name returns params⟩ = true :=
        fun h => hkept (isRetained_method.1 h).2
      have hrefs : 0 < refCount (params.map (·.declared)) ∨
          2 ≤ outCount (params.map (·.declared)) := by omega
      simp [hr, memberFinding, Model.record, hrefs]
  | property name type =>
    simp [isRetained, hmem, memberFinding, Model.record, Class.addMember, Class.addProperty,
      constructorAt?, methodAt?, propertyAt?]

lemma Model.see_type (model : Model) (p : Place) (name : String) : model.see (.type p name) =
    model.update (dotted (p.path ++ [name])) (·.withDoc (leadingDoc p.comments)) := by
  rw [Model.see, findingsAt_type]
  rfl

lemma Model.see_member (model : Model) (p : Place) (m : Source.Member) : model.see (.member p m) =
    if p.owner?.isSome ∧ isRetained m then model.update (dotted p.path) (·.addMember (p, m))
    else model := by
  rw [Model.see, findingsAt_member]
  by_cases hpublic : m.modifiers.contains "public" = true
  · by_cases howner : p.owner?.isSome = true
    · rw [if_pos ⟨howner, hpublic⟩, List.foldl_cons, List.foldl_nil,
        Model.record_memberFinding model _ p m hpublic]
      simp [howner]
    · simp [howner]
  · have hm : ¬ isRetained m = true := fun h => hpublic (Bool.and_eq_true_iff.1 h).1
    rw [if_neg (fun h => hpublic h.2), if_neg (fun h => hm h.2), List.foldl_nil]

/-- A walk that meets each type before its members leaves the collected entries. -/
lemma Model.get?_foldl_see (key : String) {os : List Occurrence} (h : Introduced none [] os) :
    (os.foldl Model.see Model.empty).classes.get? key = collected? key os := by
  induction os using List.reverseRecOn with
  | nil => rfl
  | append_singleton os o ih =>
    have hos := (Introduced.append_iff.1 h).1
    rw [List.foldl_append, List.foldl_cons, List.foldl_nil]
    cases o with
    | type p name =>
      rw [Model.see_type, Model.get?_update, collected?_concat_type key hos, ih hos, dotted_concat,
        classKey_join]
    | member p m =>
      rw [Model.see_member, collected?_concat_member]
      cases howner : p.owner? with
      | none =>
        have hkey : p.ownerKey? ≠ some key := by simp [Place.ownerKey?, howner]
        rw [if_neg (by simp), if_neg (fun hr => hkey hr.1), ih hos]
      | some owner =>
        have hkey : p.ownerKey? = some (classKey owner) := by simp [Place.ownerKey?, howner]
        have hdeclared := List.mem_map_of_mem (f := classKey) (h.declared howner)
        obtain ⟨c, hc⟩ := Option.isSome_iff_exists.1 (collected?_isSome_iff.2 hdeclared)
        by_cases hr : isRetained m = true
        · rw [if_pos ⟨rfl, hr⟩, Model.get?_update, classKey_path howner, ih hos, hkey]
          by_cases h : classKey owner = key
          · subst h
            simp [hc, hr]
          · simp [h]
        · rw [if_neg (fun h => hr h.2), if_neg (fun h => hr h.2), ih hos]

/-- A source text with the symbols defined for it. -/
structure Input where
  text : String
  defined : List String
  deriving Repr, DecidableEq

/-- The declarations of an accepted source. -/
def Input.occurrences (input : Input) : List Occurrence :=
  ((parse? input.text).map (Reference.occurrences input.defined true [])).getD []

/-- A model after an attempt to add a source to it. -/
def Model.after (m : Model) (input : Input) : Model :=
  ((m.extract? input.text input.defined).map Prod.fst).getD m

def Model.afterAll (m : Model) (inputs : List Input) : Model := inputs.foldl Model.after m

lemma Model.after_eq (m : Model) (input : Input) :
    m.after input = input.occurrences.foldl Model.see m := by
  rw [Model.after, Model.extract?, Input.occurrences]
  cases parse? input.text with
  | none => rfl
  | some items =>
    change (findings input.defined items).foldl Model.record m = _
    rw [findings, walkSiblings_eq, List.foldl_flatMap]
    rfl

lemma Model.afterAll_eq (m : Model) (inputs : List Input) :
    m.afterAll inputs = (inputs.flatMap Input.occurrences).foldl Model.see m := by
  rw [List.foldl_flatMap, Model.afterAll]
  congr 1
  funext m input
  exact m.after_eq input

lemma introduced_inputs (inputs : List Input) :
    Introduced none [] (inputs.flatMap Input.occurrences) := by
  induction inputs with
  | nil => trivial
  | cons input inputs ih =>
    rw [List.flatMap_cons]
    refine Introduced.append ?_ ih
    rw [Input.occurrences]
    cases parse? input.text with
    | none => trivial
    | some items => exact introduced_siblings input.defined true [] none [] (by simp) items

/-- No file namespace in a branch under a condition stands around a place. -/
def Place.Unbranched (p : Place) : Prop := ∀ name, Enclosure.branchSpace name ∉ p.around

/-- A class holds what is declared under a key: the qualified name of the first declaration, the
first comment there is, and all retained members in the order of the texts. Nothing is said about the
qualified name where a file namespace directly in a branch stands around the first declaration. -/
structure Collects (key : String) (os : List Occurrence) (c : Class) : Prop where
  qualifiedName : ∀ p name, (declarations key os).head? = some (p, name) → p.Unbranched →
    c.qualifiedName = dotted (p.path ++ [name])
  doc : c.doc = (declarations key os).findSome? docAt?
  constructors : c.constructors = (members key os).filterMap constructorAt?
  methods : c.methods = (members key os).filterMap methodAt?
  properties : c.properties = (members key os).filterMap propertyAt?

lemma collects_of_collected? {key : String} {os : List Occurrence} {c : Class}
    (h : collected? key os = some c) : Collects key os c := by
  obtain ⟨d, hd, rfl⟩ := Option.map_eq_some_iff.1 h
  refine ⟨fun p name hfirst _ => ?_, rfl, rfl, rfl, rfl⟩
  obtain rfl : d = (p, name) := Option.some.inj (hd.symm.trans hfirst)
  rfl

end BindingDocs.Reference
