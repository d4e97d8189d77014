import BindingDocs.Proofs.RegistrationCode

/-! Scanning undoes writing: code written for the declarations of a binding set, in any order, is read
back as that set. Only a value of an enumeration that spells the mark of an operator with the name of
its enumeration is lost. -/
namespace BindingDocs.Registration
open BindingDocs.Text Scanner

namespace Scanner

lemma step_declaration {set : BindingSet} {e : Entity} {line : String}
    (opens : declaration? (classify line) line = some (.ok e)) (visible : isHidden e.name = false)
    (free : set.contains e = false) : step ⟨set, none⟩ line = (.ok (), ⟨set, some e⟩) := by
  simp [step, opens, begin, visible, free]

lemma step_terminator (set : BindingSet) (e : Entity) :
    step ⟨set, some e⟩ ";" = (.ok (), ⟨set.insert e, none⟩) := by
  have hkind : classify ";" = .terminator := by decide
  simp [step, hkind, declaration?]

end Scanner

namespace MemberCode

/-- A class with one more member. -/
def addTo : MemberCode → BoundClass → BoundClass
  | constructor types, c => { c with constructors := c.constructors ++ [types] }
  | property name _, c => { c with properties := c.properties ++ [name] }
  | method m, c => { c with methods := c.methods ++ [m] }

def constructor? : MemberCode → Option (List String)
  | constructor types => some types
  | _ => none

def property? : MemberCode → Option String
  | property name _ => some name
  | _ => none

def method? : MemberCode → Option BoundMethod
  | method m => some m
  | _ => none

def IsPlain (d : Dialect) : MemberCode → Prop
  | constructor types => ∀ t ∈ types, IsTypeToken t
  | property name symbol => IsIdentifier name ∧ IsSymbol symbol
  | method m => IsPlainMethod d m

lemma step_line {d : Dialect} {m : MemberCode} (h : m.IsPlain d) (set : BindingSet) (c : BoundClass) :
    step ⟨set, some (.bound d c)⟩ (m.line d) = (.ok (), ⟨set, some (.bound d (m.addTo c))⟩) := by
  cases m with
  | constructor types =>
    have hk := classify_constructorLine d types
    refine step_member (by rw [hk]; rfl) (by rw [hk]; decide) ?_
    rw [hk, addMember, constructorTypes_line h]
    rfl
  | property name symbol =>
    have hk := classify_propertyLine (d := d) h.1 h.2
    refine step_member (by rw [hk]; rfl) (by rw [hk]; decide) ?_
    rw [hk, addMember, firstQuoted_propertyLine h.1]
    rfl
  | method m =>
    have hk := IsPlainMethod.classify_line h
    refine step_member (by rw [hk]; rfl) (by rw [hk]; simp) ?_
    rw [hk, addMember, IsPlainMethod.firstQuoted_line h, IsPlainMethod.nativeSymbol_line h,
      IsPlainMethod.argNames_line h]
    rfl

lemma steps_lines {d : Dialect} {members : List MemberCode} (h : ∀ m ∈ members, m.IsPlain d)
    (set : BindingSet) (c : BoundClass) :
    Steps ⟨set, some (.bound d c)⟩ (members.map (line d))
      ⟨set, some (.bound d (members.foldl (fun c m => m.addTo c) c))⟩ := by
  induction members generalizing c with
  | nil => exact Steps.nil _
  | cons m members ih =>
    exact Steps.cons (step_line (h m (by simp)) set c)
      (ih (fun m hm => h m (List.mem_cons_of_mem _ hm)) _)

/-- Each kind of member keeps its order, however the kinds are mixed. -/
lemma foldl_addTo (members : List MemberCode) (c : BoundClass) :
    members.foldl (fun c m => m.addTo c) c =
      ⟨c.name, c.base, c.constructors ++ members.filterMap constructor?,
        c.properties ++ members.filterMap property?, c.methods ++ members.filterMap method?⟩ := by
  induction members generalizing c with
  | nil => simp
  | cons m members ih =>
    rw [List.foldl_cons, ih]
    cases m <;> simp [addTo, List.filterMap_cons, constructor?, property?, method?]

end MemberCode

structure IsPlainClass (d : Dialect) (c : BoundClass) : Prop where
  name : IsIdentifier c.name
  visible : isHidden c.name = false
  base : ∀ b, c.base = some b → IsIdentifier b
  constructors : ∀ types ∈ c.constructors, ∀ t ∈ types, IsTypeToken t
  properties : ∀ p ∈ c.properties, IsIdentifier p
  methods : ∀ m ∈ c.methods, IsPlainMethod d m

/-- Members that are the members of a class: each kind in its order, the kinds in any mixture. -/
structure AreMembers (members : List MemberCode) (c : BoundClass) : Prop where
  constructors : members.filterMap MemberCode.constructor? = c.constructors
  properties : members.filterMap MemberCode.property? = c.properties
  methods : members.filterMap MemberCode.method? = c.methods
  symbols : ∀ name symbol, .property name symbol ∈ members → IsSymbol symbol

lemma AreMembers.isPlain {members : List MemberCode} {d : Dialect} {c : BoundClass}
    (h : AreMembers members c) (hc : IsPlainClass d c) {m : MemberCode} (hm : m ∈ members) :
    m.IsPlain d := by
  cases m with
  | constructor types =>
    exact hc.constructors types (h.constructors ▸ List.mem_filterMap.2 ⟨_, hm, rfl⟩)
  | property name symbol =>
    exact ⟨hc.properties name (h.properties ▸ List.mem_filterMap.2 ⟨_, hm, rfl⟩), h.symbols _ _ hm⟩
  | method m => exact hc.methods m (h.methods ▸ List.mem_filterMap.2 ⟨_, hm, rfl⟩)

structure IsPlainEnum (x : BoundEnum) : Prop where
  name : IsIdentifier x.name
  visible : isHidden x.name = false
  values : ∀ v ∈ x.values, IsIdentifier v

/-- The values that do not read as operators. -/
def BoundEnum.readBack (x : BoundEnum) : BoundEnum :=
  { x with values := x.values.filter fun v => !readsAsOperator x.name v }

lemma step_valueLine {e v : String} (he : IsIdentifier e) (hv : IsIdentifier v) (set : BindingSet)
    (values : List String) : step ⟨set, some (.enumeration ⟨e, values⟩)⟩ (valueLine e v) =
      (.ok (), ⟨set, some (.enumeration ⟨e, values ++ [v].filter fun v => !readsAsOperator e v⟩)⟩) := by
  have hk := classify_valueLine he hv
  cases ho : readsAsOperator e v with
  | true =>
    rw [ho, if_pos rfl] at hk
    refine step_member (by rw [hk]; rfl) (by rw [hk]; decide) ?_
    simp [hk, addMember, ho]
  | false =>
    rw [ho, if_neg (by decide)] at hk
    refine step_member (by rw [hk]; rfl) (by rw [hk]; decide) ?_
    rw [hk, addMember, firstQuoted_valueLine hv]
    simp [ho, bind, Except.bind, pure, Except.pure]

lemma steps_valueLines {e : String} {vs : List String} (he : IsIdentifier e)
    (hvs : ∀ v ∈ vs, IsIdentifier v) (set : BindingSet) (values : List String) :
    Steps ⟨set, some (.enumeration ⟨e, values⟩)⟩ (vs.map (valueLine e))
      ⟨set, some (.enumeration ⟨e, values ++ vs.filter fun v => !readsAsOperator e v⟩)⟩ := by
  induction vs generalizing values with
  | nil => simpa using Steps.nil _
  | cons v vs ih =>
    have hrest := ih (fun w hw => hvs w (List.mem_cons_of_mem _ hw))
      (values ++ [v].filter fun v => !readsAsOperator e v)
    rw [List.append_assoc, ← List.filter_append] at hrest
    exact Steps.cons (step_valueLine he (hvs v (by simp)) set values) hrest

namespace Entity

def IsPlain : Entity → Prop
  | bound d c => IsPlainClass d c
  | enumeration x => IsPlainEnum x

/-- A declaration as it is read back. -/
def readBack : Entity → Entity
  | bound d c => bound d c
  | enumeration x => enumeration x.readBack

@[simp] lemma name_readBack (e : Entity) : e.readBack.name = e.name := by cases e <;> rfl

@[simp] lemma slot_readBack (e : Entity) : e.readBack.slot = e.slot := by cases e <;> rfl

end Entity

/-- Code for one declaration. -/
inductive Writes : Entity → List String → Prop
  | bound {d c} (members : List MemberCode) (members_of : AreMembers members c) :
      Writes (.bound d c) (classLine d c :: (members.map (MemberCode.line d) ++ [";"]))
  | enumeration (x : BoundEnum) :
      Writes (.enumeration x) (enumLine x :: (x.values.map (valueLine x.name) ++ [";"]))

lemma contains_eq_of_slot {set : BindingSet} {e e' : Entity} (h : e.slot = e'.slot) :
    set.contains e = set.contains e' := by
  rw [Bool.eq_iff_iff, set.contains_iff, set.contains_iff, h]

/-- The code for a declaration whose place is free registers it. -/
lemma Writes.steps {e : Entity} {lines : List String} (h : Writes e lines) (plain : e.IsPlain)
    {set : BindingSet} (free : set.contains e = false) :
    Steps ⟨set, none⟩ lines ⟨set.insert e.readBack, none⟩ := by
  cases h with
  | @bound d c members hm =>
    have hopen := step_declaration (declaration?_classLine (d := d) plain.name plain.base) plain.visible
      ((contains_eq_of_slot rfl).trans free)
    have hmembers := MemberCode.steps_lines (fun m => hm.isPlain plain) set ⟨c.name, c.base, [], [], []⟩
    rw [MemberCode.foldl_addTo, hm.constructors, hm.properties, hm.methods] at hmembers
    exact Steps.cons hopen (hmembers.append (Steps.cons (step_terminator _ _) (Steps.nil _)))
  | enumeration x =>
    have hopen := step_declaration (declaration?_enumLine plain.name) plain.visible
      ((contains_eq_of_slot rfl).trans free)
    have hvalues := steps_valueLines plain.name plain.values set []
    exact Steps.cons hopen (hvalues.append (Steps.cons (step_terminator _ _) (Steps.nil _)))

namespace BindingSet

/-- The sets that declarations build: each under the key of its name. -/
structure IsPlain (set : BindingSet) : Prop where
  keyed : set.Keyed
  plain : ∀ x ∈ set.entries, x.2.IsPlain

/-- Lines that declare all of a set: one piece of code for each declaration, in any order. -/
def Written (set : BindingSet) (lines : List String) : Prop :=
  ∃ (es : List Entity) (blocks : List (List String)), es.Perm (set.entries.map Prod.snd) ∧
    List.Forall₂ Writes es blocks ∧ lines = blocks.flatten

/-- A set as it is read back. -/
def readBack (set : BindingSet) : BindingSet :=
  { set with enums := set.enums.mapValues BoundEnum.readBack }

lemma entries_readBack (set : BindingSet) :
    set.readBack.entries = set.entries.map fun x => (x.1, x.2.readBack) := by
  simp [entries, readBack, Registry.mapValues, Entity.readBack, Function.comp_def]

/-- A set is read back unchanged exactly if no value reads as an operator. -/
lemma readBack_eq_self_iff (set : BindingSet) : set.readBack = set ↔
    ∀ x ∈ set.enumList, ∀ v ∈ x.values, readsAsOperator x.name v = false := by
  have hset : set.readBack = set ↔ set.enums.mapValues BoundEnum.readBack = set.enums :=
    ⟨fun h => congrArg enums h, fun h => by rw [readBack, h]⟩
  rw [hset, Registry.mapValues_eq_self_iff]
  refine forall₂_congr fun x _ => ?_
  calc x.readBack = x ↔ x.values.filter (fun v => !readsAsOperator x.name v) = x.values :=
        ⟨fun h => congrArg BoundEnum.values h, fun h => by rw [BoundEnum.readBack, h]⟩
    _ ↔ ∀ v ∈ x.values, readsAsOperator x.name v = false := by simp [List.filter_eq_self]

end BindingSet

/-- The code for some declarations whose places are free registers each of them. -/
lemma steps_blocks {es : List Entity} {blocks : List (List String)} (h : List.Forall₂ Writes es blocks)
    (plain : ∀ e ∈ es, e.IsPlain) {set : BindingSet} (free : (set.slots ++ es.map Entity.slot).Nodup) :
    ∃ t : BindingSet, Steps ⟨set, none⟩ blocks.flatten ⟨t, none⟩ ∧
      t.entries.Perm (set.entries ++ es.map fun e => entryOf e.readBack) := by
  induction h generalizing set with
  | nil => exact ⟨set, Steps.nil _, by simp⟩
  | @cons e block es blocks first _ ih =>
    obtain ⟨hset, hes, hnew⟩ := List.nodup_append.1 free
    have hfree : set.contains e = false := by
      rw [← Bool.not_eq_true, set.contains_iff]
      exact fun hm => hnew _ hm _ (by simp) rfl
    have hfree' : set.contains e.readBack = false := (contains_eq_of_slot (by simp)).trans hfree
    have hslots := set.slots_insert_perm hfree'
    have hnext : ((set.insert e.readBack).slots ++ es.map Entity.slot).Nodup := by
      refine ((hslots.append_right _).trans ?_).nodup_iff.2 free
      simpa using List.perm_middle.symm
    obtain ⟨t, hsteps, hentries⟩ := ih (fun e he => plain e (List.mem_cons_of_mem _ he)) hnext
    refine ⟨t, (first.steps (plain e (by simp)) hfree).append hsteps, hentries.trans ?_⟩
    refine ((set.entries_insert_perm hfree').append_right _).trans ?_
    exact List.perm_middle.symm

/-- Texts whose lines are the given ones, with any blanks around them and any lines of no kind between
them. -/
def LaidOut (lines texts : List String) : Prop :=
  (texts.flatMap trimmedLines).filter (fun line => classify line ≠ .other) = lines

/-- Scanning code that is written for a set gives the set back, up to the values that read as
operators. -/
theorem scan_undoes_writing {set : BindingSet} {lines texts : List String} (plain : set.IsPlain)
    (written : set.Written lines) (laid : LaidOut lines texts) :
    ∃ s, ScansTo new texts s ∧ s.finish = set.readBack ∧
      (s.finish = set ↔ ∀ x ∈ set.enumList, ∀ v ∈ x.values, readsAsOperator x.name v = false) := by
  obtain ⟨es, blocks, hperm, hwrites, rfl⟩ := written
  have hes : ∀ e ∈ es, e.IsPlain := fun e he => by
    obtain ⟨x, hx, rfl⟩ := List.mem_map.1 (hperm.mem_iff.1 he)
    exact plain.plain x hx
  have hslots : (es.map Entity.slot).Perm set.slots := by
    refine (hperm.map _).trans ?_
    rw [List.map_map, BindingSet.slots]
    exact List.Perm.of_eq (List.map_congr_left fun x hx => by
      rw [Function.comp, Entity.slot, plain.keyed x hx])
  have hfree : (BindingSet.empty.slots ++ es.map Entity.slot).Nodup := by
    simpa [BindingSet.slots] using hslots.nodup_iff.2 set.slots_nodup
  obtain ⟨t, hsteps, hentries⟩ := steps_blocks hwrites hes hfree
  have ht : t = set.readBack := by
    refine BindingSet.eq_of_entries_perm (hentries.trans ?_)
    rw [set.entries_readBack]
    refine (hperm.map _).trans ?_
    rw [List.map_map]
    exact List.Perm.of_eq (List.map_congr_left fun x hx => by
      simp [entryOf, plain.keyed x hx])
  rw [← laid] at hsteps
  refine ⟨⟨t, none⟩, hsteps.of_filter.scansTo, ht, ?_⟩
  rw [← set.readBack_eq_self_iff, ← ht]
  rfl

/-- A class of each dialect, and an enumeration with a value that reads as an operator. -/
def sampleArc : BoundClass :=
  ⟨"Arc", some "Curve", [["double", "int"], []], ["radius"], [⟨"trim", false, "&BND_Arc::Trim", []⟩]⟩

def sampleCurve : BoundClass :=
  ⟨"Curve", none, [["Arc"]], [], [⟨"at", true, "&At", ["t", "side"]⟩]⟩

def sampleEnum : BoundEnum := ⟨"py", ["self", "other"]⟩

def sampleSet : BindingSet :=
  ((BindingSet.empty.insert (.bound .javascript sampleArc)).insert (.bound .python sampleCurve)).insert
    (.enumeration sampleEnum)

def sampleCode : List String :=
  ["enum_<py>(\"py\")", ".value(\"self\", py::self)", ".value(\"other\", py::other)", ";",
    "class_<BND_Arc, base<BND_Curve>>(\"Arc\")", ".property(\"radius\", &Radius)",
    ".constructor<double, int>()", ".function(\"trim\", &BND_Arc::Trim)", ".constructor<>()", ";",
    "py::class_<BND_Curve>(m, \"Curve\")", ".def(py::init<Arc>())",
    ".def_static(\"at\", &At, py::arg(\"t\"), py::arg(\"side\"))", ";"]

lemma sampleSet_entries : sampleSet.entries =
    [("arc", .bound .javascript sampleArc), ("curve", .bound .python sampleCurve),
      ("py", .enumeration sampleEnum)] := by decide +kernel

lemma sampleSet_isPlain : sampleSet.IsPlain where
  keyed := by rw [BindingSet.Keyed, sampleSet_entries]; decide +kernel
  plain := by
    have hTrim : IsPlainSymbol "&BND_Arc::Trim" :=
      ⟨⟨["BND_Arc", "Trim"], by decide, by decide, by decide⟩, by decide, by decide⟩
    have hAt : IsPlainSymbol "&At" := ⟨⟨["At"], by decide, by decide, by decide⟩, by decide, by decide⟩
    rw [sampleSet_entries]
    simp only [List.forall_mem_cons, List.not_mem_nil, false_imp_iff, implies_true, and_true]
    refine ⟨⟨by decide, by decide, by simp [sampleArc]; decide, by decide, by decide, ?_⟩,
      ⟨by decide, by decide, by simp [sampleCurve], by decide, by decide, ?_⟩,
      ⟨by decide, by decide, by decide⟩⟩
    · simpa [sampleArc] using ⟨by decide, hTrim, by simp, rfl⟩
    · simpa [sampleCurve] using ⟨by decide, hAt, by decide, rfl⟩

lemma sampleCode_written : sampleSet.Written sampleCode := by
  have hArc : AreMembers [.property "radius" "&Radius", .constructor ["double", "int"],
      .method ⟨"trim", false, "&BND_Arc::Trim", []⟩, .constructor []] sampleArc :=
    ⟨rfl, rfl, rfl, by simpa using ⟨["Radius"], by decide, by decide, by decide⟩⟩
  have hCurve : AreMembers [.constructor ["Arc"], .method ⟨"at", true, "&At", ["t", "side"]⟩]
      sampleCurve := ⟨rfl, rfl, rfl, by simp⟩
  refine ⟨[.enumeration sampleEnum, .bound .javascript sampleArc, .bound .python sampleCurve], _, ?_,
    .cons (.enumeration _) (.cons (.bound _ hArc) (.cons (.bound _ hCurve) .nil)), by decide⟩
  rw [sampleSet_entries]
  decide

/-- The code with blanks and comments, in several texts. -/
def sampleTextsWritten : List String :=
  ["// kinds\nenum_<py>(\"py\")\n  .value(\"self\", py::self)",
    "  .value(\"other\", py::other)\n  ;\n",
    "class_<BND_Arc, base<BND_Curve>>(\"Arc\")\r\n\t.property(\"radius\", &Radius)",
    ".constructor<double, int>()\n\n// more\n.function(\"trim\", &BND_Arc::Trim)",
    ".constructor<>()\n;\n  py::class_<BND_Curve>(m, \"Curve\")  \n.def(py::init<Arc>())",
    ".def_static(\"at\", &At, py::arg(\"t\"), py::arg(\"side\"))\n  ;"]

theorem scan_undoes_writing_sample : sampleSet.IsPlain ∧ sampleSet.Written sampleCode ∧
    LaidOut sampleCode sampleTextsWritten ∧
    ∃ s, ScansTo new sampleTextsWritten s ∧ s.finish = sampleSet.readBack ∧
      (s.finish = sampleSet ↔
        ∀ x ∈ sampleSet.enumList, ∀ v ∈ x.values, readsAsOperator x.name v = false) := by
  have laid : LaidOut sampleCode sampleTextsWritten := by unfold LaidOut; decide +kernel
  exact ⟨sampleSet_isPlain, sampleCode_written, laid,
    scan_undoes_writing sampleSet_isPlain sampleCode_written laid⟩

/-- The smallest set that is not read back: its only value reads as an operator. -/
def operatorEnum : BoundEnum := ⟨"py", ["self"]⟩

def operatorText : String := "enum_<py>(\"py\")\n.value(\"self\", py::self)\n;\n"

theorem value_reading_as_operator_is_lost :
    let set := BindingSet.empty.insert (.enumeration operatorEnum)
    let code := ["enum_<py>(\"py\")", ".value(\"self\", py::self)", ";"]
    set.IsPlain ∧ set.Written code ∧ LaidOut code [operatorText] ∧
      ScansTo new [operatorText] (new.after [operatorText]) ∧
      (new.after [operatorText]).finish ≠ set := by
  have hentries : (BindingSet.empty.insert (.enumeration operatorEnum)).entries =
      [("py", .enumeration operatorEnum)] := by decide +kernel
  refine ⟨⟨?_, ?_⟩, ?_, by unfold LaidOut; decide +kernel, .cons (by decide +kernel) (.nil _), ?_⟩
  · rw [BindingSet.Keyed, hentries]
    decide +kernel
  · rw [hentries]
    simpa [Entity.IsPlain] using (⟨by decide, by decide, by decide⟩ : IsPlainEnum operatorEnum)
  · refine ⟨[.enumeration operatorEnum], _, ?_, .cons (.enumeration _) .nil, by decide⟩
    rw [hentries]
    exact List.Perm.refl _
  · intro h
    have hvalues := congrArg BindingSet.enumList h
    revert hvalues
    decide +kernel

end BindingDocs.Registration
