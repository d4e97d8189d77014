import BindingDocs.Proofs.ExtractionFlattening

/-! Which public methods a model records. The last word in front of a parameter that says how it is
passed decides, so a method is left out for a `ref` or a second `out` only where no other such word
stands behind it. -/
namespace BindingDocs.Reference

/-- Each way of passing has one word. -/
lemma Passing.ofKeyword?_inj {w v : String} {k : Passing} (hw : ofKeyword? w = some k)
    (hv : ofKeyword? v = some k) : w = v := by
  unfold ofKeyword? at hw hv
  split at hw <;> cases hw <;> split at hv <;> first | rfl | cases hv

end BindingDocs.Reference

namespace BindingDocs.Source.WrittenParameter
open BindingDocs.Reference

/-- A `ref` or an `out` in front of a parameter decides how it is passed: no word behind it says
otherwise, and neither of the two is its default value. -/
structure Decisive (p : WrittenParameter) : Prop where
  words : (p.words ++ [p.value]).Pairwise fun w v => w ∈ ["ref", "out"] → Passing.ofKeyword? v = none
  value : p.value ∉ ["ref", "out"]

instance (p : WrittenParameter) : Decidable p.Decisive :=
  decidable_of_iff (_ ∧ _) ⟨fun h => ⟨h.1, h.2⟩, fun h => ⟨h.words, h.value⟩⟩

/-- The word that decides is the only one of its kind that is looked at. -/
lemma Decisive.getLast?_keywords_iff {p : WrittenParameter} (h : p.Decisive) {w : String} {k : Passing}
    (hw : w ∈ ["ref", "out"]) (hk : Passing.ofKeyword? w = some k) :
    p.keywords.getLast? = some k ↔ w ∈ p.words := by
  constructor
  · intro hlast
    obtain ⟨v, hv, hkeyword⟩ := List.mem_filterMap.1 (List.mem_of_getLast? hlast)
    obtain rfl := Passing.ofKeyword?_inj hk hkeyword
    rcases List.mem_append.1 hv with hv | hv
    · exact hv
    · exact absurd (List.mem_singleton.1 hv ▸ hw) h.value
  · intro hmem
    obtain ⟨before, after, hsplit⟩ := List.append_of_mem hmem
    have hwords : p.words ++ [p.value] = before ++ (w :: (after ++ [p.value])) := by simp [hsplit]
    have hpairs := (List.pairwise_append.1 (hwords ▸ h.words)).2.1
    have hsilent : (after ++ [p.value]).filterMap Passing.ofKeyword? = [] := by
      rw [List.filterMap_eq_nil_iff]
      intro v hv
      exact (List.pairwise_cons.1 hpairs).1 v hv hw
    rw [keywords, hwords, List.filterMap_append, List.filterMap_cons_some hk, hsilent,
      List.getLast?_concat]

lemma declared_passing_iff (p : WrittenParameter) {passing : Passing} (h : passing ≠ .byValue) :
    p.declared.passing = passing ↔ p.keywords.getLast? = some passing := by
  rw [declared]
  cases p.keywords.getLast? with
  | none => simp [h.symm]
  | some k => simp

end BindingDocs.Source.WrittenParameter

def BindingDocs.Source.Member.params (m : BindingDocs.Source.Member) :
    List BindingDocs.Source.WrittenParameter :=
  match m.signature with
  | .constructor params => params
  | .method _ _ params => params
  | .property _ _ => []

namespace BindingDocs.Reference
open BindingDocs.Source

/-- No parameter is written with `ref`, and at most one with `out`. -/
def Admissible (params : List WrittenParameter) : Prop :=
  (∀ p ∈ params, "ref" ∉ p.words) ∧ (params.countP fun p => "out" ∈ p.words) ≤ 1

instance (params : List WrittenParameter) : Decidable (Admissible params) :=
  inferInstanceAs (Decidable (_ ∧ _))

/-- The same, of the last words that say how the parameters are passed. -/
def LastAdmissible (params : List WrittenParameter) : Prop :=
  (∀ p ∈ params, p.keywords.getLast? ≠ some .byRef) ∧
    params.countP (·.keywords.getLast? = some .byOut) ≤ 1

instance (params : List WrittenParameter) : Decidable (LastAdmissible params) :=
  inferInstanceAs (Decidable (_ ∧ _))

lemma lastAdmissible_iff_admissible {params : List WrittenParameter} (h : ∀ p ∈ params, p.Decisive) :
    LastAdmissible params ↔ Admissible params := by
  have hrefs : (∀ p ∈ params, p.keywords.getLast? ≠ some .byRef) ↔ ∀ p ∈ params, "ref" ∉ p.words :=
    forall₂_congr fun p hp => not_congr ((h p hp).getLast?_keywords_iff (by simp) rfl)
  have houts : params.countP (·.keywords.getLast? = some .byOut) =
      params.countP fun p => "out" ∈ p.words := by
    refine List.countP_congr fun p hp => ?_
    simp [(h p hp).getLast?_keywords_iff (w := "out") (by simp) rfl]
  rw [LastAdmissible, Admissible, hrefs, houts]

lemma lastAdmissible_iff {params : List WrittenParameter} : LastAdmissible params ↔
    refCount (params.map (·.declared)) = 0 ∧ outCount (params.map (·.declared)) < 2 := by
  have hrefs : refCount (params.map (·.declared)) = 0 ↔
      ∀ p ∈ params, p.keywords.getLast? ≠ some .byRef := by
    rw [refCount, List.countP_eq_zero, List.forall_mem_map]
    refine forall₂_congr fun p _ => ?_
    simp [p.declared_passing_iff (by decide : Passing.byRef ≠ .byValue)]
  have houts : outCount (params.map (·.declared)) =
      params.countP (·.keywords.getLast? = some .byOut) := by
    rw [outCount, List.countP_map]
    refine List.countP_congr fun p _ => ?_
    simp [Parameter.isOut, p.declared_passing_iff (by decide : Passing.byOut ≠ .byValue)]
  rw [LastAdmissible, hrefs, houts]
  exact and_congr_right fun _ => Nat.lt_succ_iff.symm

/-- The public methods declared in the active parts of the types with a class key, in the order of the
texts, with their places. -/
def publicMethods (key : String) (os : List Occurrence) : List (Place × Source.Member) :=
  os.filterMap fun
    | .type _ _ => none
    | .member p m =>
      if p.ownerKey? = some key ∧ m.modifiers.contains "public" ∧ (methodAt? (p, m)).isSome then
        some (p, m)
      else none

/-- Of the retained members, the methods are the public ones whose last words admit them. -/
lemma filterMap_methodAt?_members (key : String) (os : List Occurrence) :
    (members key os).filterMap methodAt? =
      ((publicMethods key os).filter (LastAdmissible ·.2.params)).filterMap methodAt? := by
  rw [members, publicMethods, List.filterMap_filterMap, List.filter_filterMap,
    List.filterMap_filterMap]
  congr 1
  funext o
  cases o with
  | type p name => rfl
  | member p m =>
    obtain ⟨modifiers, signature⟩ := m
    cases signature with
    | constructor params => simp [methodAt?]
    | property name type => simp [methodAt?]
    | method name returns params =>
      have hretained : isRetained ⟨modifiers, .method name returns params⟩ = true ↔
          "public" ∈ modifiers ∧ LastAdmissible params := by
        rw [isRetained_method, List.contains_iff_mem, lastAdmissible_iff]
      by_cases howner : p.ownerKey? = some key
      · by_cases hpublic : "public" ∈ modifiers
        · by_cases hlast : LastAdmissible params
          · simp [howner, hpublic, hretained, hlast, methodAt?, Option.filter, Source.Member.params]
          · simp [howner, hpublic, hretained, hlast, methodAt?, Option.filter, Source.Member.params]
        · simp [hpublic, hretained]
      · simp [howner]

lemma Model.get?_afterAll (inputs : List Input) (key : String) :
    (Model.empty.afterAll inputs).classes.get? key =
      collected? key (inputs.flatMap Input.occurrences) := by
  rw [Model.afterAll_eq, Model.get?_foldl_see key (introduced_inputs inputs)]

/-- A class that owns a method is declared, so it has an entry. -/
lemma contains_of_mem_publicMethods {inputs : List Input} {key : String} {d : Place × Source.Member}
    (h : d ∈ publicMethods key (inputs.flatMap Input.occurrences)) :
    (Model.empty.afterAll inputs).classes.contains key = true := by
  obtain ⟨o, ho, hd⟩ := List.mem_filterMap.1 h
  cases o with
  | type p name => cases hd
  | member p m =>
    have hkey : p.ownerKey? = some key := by
      by_contra hne
      simp [hne] at hd
    obtain ⟨owner, howner, rfl⟩ := Option.map_eq_some_iff.1 hkey
    obtain ⟨before, after, hsplit⟩ := List.append_of_mem ho
    have hall := introduced_inputs inputs
    rw [hsplit, List.append_cons] at hall
    have hdeclared := (Introduced.append_iff.1 hall).1.declared howner
    rw [Registry.contains, Model.get?_afterAll, collected?_isSome_iff, hsplit]
    refine List.mem_map_of_mem ?_
    rw [typeNames, List.filterMap_append]
    exact List.mem_append_left _ hdeclared

/-- The methods of a model. Each class holds, in the order of the texts, the public methods declared
under its key of which no parameter has `ref` and at most one has `out` as the last word that says how
it is passed; and no class with a public method is missing. Where a `ref` or an `out` decides how its
parameter is passed, these are the methods without a `ref` and with at most one `out`. -/
theorem methods_recorded_by_last_words (inputs : List Input) :
    let os := inputs.flatMap Input.occurrences
    let model := Model.empty.afterAll inputs
    (∀ e ∈ model.classes.entries, e.2.methods =
      ((publicMethods e.1 os).filter (LastAdmissible ·.2.params)).filterMap methodAt?) ∧
    (∀ key, ∀ d ∈ publicMethods key os, model.classes.contains key = true) ∧
    ((∀ key, ∀ d ∈ publicMethods key os, ∀ p ∈ d.2.params, p.Decisive) →
      ∀ e ∈ model.classes.entries, e.2.methods =
        ((publicMethods e.1 os).filter (Admissible ·.2.params)).filterMap methodAt?) := by
  intro os model
  have hmethods : ∀ e ∈ model.classes.entries, e.2.methods =
      ((publicMethods e.1 os).filter (LastAdmissible ·.2.params)).filterMap methodAt? := by
    rintro ⟨key, c⟩ hc
    have hcollected : collected? key os = some c := by
      rw [← Model.get?_afterAll]
      exact model.classes.mem_entries_iff.1 hc
    rw [← filterMap_methodAt?_members]
    exact (collects_of_collected? hcollected).methods
  refine ⟨hmethods, fun key d hd => contains_of_mem_publicMethods hd, ?_⟩
  intro hdecisive e he
  have hfilter : (publicMethods e.1 os).filter (LastAdmissible ·.2.params) =
      (publicMethods e.1 os).filter (Admissible ·.2.params) := by
    refine List.filter_congr fun d hd => ?_
    simp only [lastAdmissible_iff_admissible (hdecisive e.1 d hd)]
  rw [hmethods e he, hfilter]

/-- An extension method whose receiver is passed by reference. -/
def receiverByRef : Input :=
  ⟨"public static class X \x7b public static void F(ref this S s) \x7b \x7d \x7d", []⟩

/-- A recorded method need not stem from a declaration without `ref`: a `this` behind the `ref`
hides it. -/
theorem method_with_ref_receiver_is_recorded :
    ¬ ∀ (inputs : List Input) (key : String) (c : Class) (m : Method),
      (Model.empty.afterAll inputs).classes.get? key = some c → m ∈ c.methods →
      ∃ d ∈ publicMethods key (inputs.flatMap Input.occurrences),
        methodAt? d = some m ∧ Admissible d.2.params := by
  intro h
  have hmethods : publicMethods "x" ([receiverByRef].flatMap Input.occurrences) =
      [(⟨[.type "X"], []⟩, ⟨["public", "static"],
        .method "F" "void" [⟨["ref", "this"], "S", "s", ""⟩]⟩)] := by decide +kernel
  obtain ⟨d, hd, -, hadmissible⟩ := h [receiverByRef] "x"
    ⟨"X", none, [], [⟨"F", "void", [⟨"s", "S", .receiver⟩], true, none⟩], []⟩
    ⟨"F", "void", [⟨"s", "S", .receiver⟩], true, none⟩ (by decide +kernel) (by decide)
  rw [hmethods, List.mem_singleton] at hd
  rw [hd] at hadmissible
  exact absurd hadmissible (by decide)

end BindingDocs.Reference
