import BindingDocs.Output.Emitter
import BindingDocs.Proofs.Inheritance
import BindingDocs.Proofs.OutputLines
import BindingDocs.Proofs.Registry

/-! Outputs whose names have no line feeds: then none of their lines has one. -/
namespace BindingDocs
open BindingDocs.Documentation BindingDocs.Reference BindingDocs.Registration BindingDocs.Text

namespace Surface
variable {s : Surface}

lemma class?_mem {name : String} {r : Reference.Class} (h : s.class? name = some r) :
    r ∈ s.reference.list :=
  List.mem_map.2 ⟨(_, r), s.reference.classes.mem_entries_iff.2 h, rfl⟩

lemma constructor?_mem {className : String} {types : List String} {k : Constructor}
    (h : s.constructor? className types = some k) : ∃ r ∈ s.reference.list, k ∈ r.constructors := by
  obtain ⟨r, hr, hk⟩ := Option.bind_eq_some_iff.1 h
  exact ⟨r, class?_mem hr, List.mem_of_find?_eq_some hk⟩

lemma firstConstructor?_mem {c : BoundClass} {k : Constructor} (h : s.firstConstructor? c = some k) :
    ∃ r ∈ s.reference.list, k ∈ r.constructors := by
  obtain ⟨types, -, hk⟩ := List.exists_of_findSome?_eq_some h
  exact constructor?_mem hk

lemma method?_mem {d : Dialect} {className : String} {b : BoundMethod} {m : Method}
    (h : s.method? d className b = some m) : ∃ r ∈ s.reference.list, m ∈ r.methods := by
  obtain ⟨r, hr, hm⟩ := Option.bind_eq_some_iff.1 h
  obtain ⟨first, hfirst, hm⟩ := Option.bind_eq_some_iff.1 hm
  suffices hmem : m ∈ r.methodsNamed b.name from ⟨r, class?_mem hr, List.mem_of_mem_filter hmem⟩
  have hhead := List.mem_of_head? hfirst
  split at hm
  · cases hm
    exact hhead
  · rename_i args _
    cases hm
    cases hf : (r.methodsNamed b.name).find? fun c => (inputs c.params).length == args.length with
    | none => simpa [hf] using hhead
    | some m => simpa [hf] using List.mem_of_find?_eq_some hf

lemma property?_mem {className name : String} {p : Property} (h : s.property? className name = some p) :
    ∃ r ∈ s.reference.list, p ∈ r.properties := by
  obtain ⟨r, hr, hp⟩ := Option.bind_eq_some_iff.1 h
  exact ⟨r, class?_mem hr, List.mem_of_find?_eq_some hp⟩

end Surface

namespace Output

def LineParams (params : List Parameter) : Prop := ∀ p ∈ params, IsLine p.name ∧ IsLine p.type

instance (params : List Parameter) : Decidable (LineParams params) :=
  inferInstanceAs (Decidable (∀ p ∈ params, _))

structure LineClass (c : BoundClass) : Prop where
  name : IsLine c.name
  base : ∀ b ∈ c.base, IsLine b
  properties : ∀ p ∈ c.properties, IsLine p
  methods : ∀ m ∈ c.methods, IsLine m.name ∧ ∀ a ∈ m.args, IsLine a

structure LineReference (c : Reference.Class) : Prop where
  constructors : ∀ k ∈ c.constructors, LineParams k.params
  methods : ∀ m ∈ c.methods, LineParams m.params ∧ IsLine m.returns
  properties : ∀ p ∈ c.properties, IsLine p.type

/-- No name and no type has a line feed in it. -/
structure LineNames (s : Surface) (o : Options) : Prop where
  moduleName : IsLine o.moduleName
  moduleClass : IsLine o.moduleClass
  classes : ∀ d, ∀ c ∈ s.bindings.classes d, LineClass c
  enums : ∀ e ∈ s.bindings.enumList, IsLine e.name ∧ ∀ v ∈ e.values, IsLine v
  reference : ∀ c ∈ s.reference.list, LineReference c

namespace LineNames
variable {s : Surface} {o : Options} (h : LineNames s o)
include h

lemma firstConstructor? {c : BoundClass} {k : Constructor} (hk : s.firstConstructor? c = some k) :
    LineParams k.params := by
  obtain ⟨r, hr, hk⟩ := Surface.firstConstructor?_mem hk
  exact (h.reference r hr).constructors k hk

lemma constructors {c : BoundClass} {x : List String × Option Constructor}
    (hx : x ∈ s.constructors c) : ∀ k ∈ x.2, LineParams k.params := by
  intro k hk
  obtain ⟨types, -, rfl⟩ := List.mem_map.1 hx
  obtain ⟨r, hr, hk⟩ := Surface.constructor?_mem hk
  exact (h.reference r hr).constructors k hk

lemma method? {d : Dialect} {className : String} {b : BoundMethod} {m : Method}
    (hm : s.method? d className b = some m) : LineParams m.params ∧ IsLine m.returns := by
  obtain ⟨r, hr, hm⟩ := Surface.method?_mem hm
  exact (h.reference r hr).methods m hm

lemma property? {className name : String} {p : Property} (hp : s.property? className name = some p) :
    IsLine p.type := by
  obtain ⟨r, hr, hp⟩ := Surface.property?_mem hp
  exact (h.reference r hr).properties p hp

end LineNames

lemma LineParams.inputs {params : List Parameter} (h : LineParams params) :
    LineParams (inputs params) := fun p hp => h p (List.mem_of_mem_filter hp)

lemma isLine_namedBase {base : Option String} (h : ∀ b ∈ base, IsLine b) :
    ∀ b ∈ namedBase? base, IsLine b := by
  intro b hb
  exact h b (Option.mem_filter_iff.1 hb).1

lemma lined_map_textLines {f : String → String} (text : String)
    (h : ∀ l, IsLine l → IsLine (f l)) : Lined ((textLines text).map f) :=
  each_map fun l hl => h l (isLine_textLines hl)

namespace ScriptDoc

lemma isLine_names {params : List Parameter} (h : LineParams params) : IsLine (names params) :=
  isLine_joinWith (by decide) (List.forall_mem_map.2 fun p hp => (h.inputs p hp).1)

lemma isLine_spell {type : String} (h : IsLine type) : IsLine (spell type) :=
  Output.isLine_spell spellsLines_scriptDoc h

lemma lined_descriptionLines (doc : Option Comment) : Lined (descriptionLines doc) := by
  unfold descriptionLines
  split <;> simp +decide

lemma lined_paramLines (doc : Option Comment) {params : List Parameter} (h : LineParams params) :
    Lined (paramLines doc params) := by
  refine each_map fun p hp => ?_
  obtain ⟨hname, htype⟩ := h.inputs p hp
  unfold paramLine
  split <;> simp +decide [hname, isLine_spell htype]

lemma lined_constructorLines {k : Constructor} (h : LineParams k.params) :
    Lined (constructorLines k) := by
  simp +decide [constructorLines, lined_descriptionLines, lined_paramLines k.doc h, isLine_names h]

lemma lined_methodComment {m : Option Method}
    (h : ∀ x ∈ m, LineParams x.params ∧ IsLine x.returns) : Lined (methodComment m) := by
  unfold methodComment
  split
  · rename_i m
    obtain ⟨hparams, hreturns⟩ := h m rfl
    have hresult : Lined (returnsLines m) := by
      unfold returnsLines
      split <;> simp +decide [isLine_spell hreturns]
    split <;> simp +decide [lined_descriptionLines, lined_paramLines m.doc hparams, hresult]
  · simp +decide

section
variable {s : Surface} {o : Options} (h : LineNames s o)
include h

lemma lined_methodLines (className : String) {b : BoundMethod} (hb : IsLine b.name) :
    Lined (methodLines s className b) := by
  have hm : ∀ m ∈ s.method? .javascript className b, LineParams m.params ∧ IsLine m.returns :=
    fun m hm => h.method? hm
  have hcomment := lined_methodComment hm
  unfold methodLines
  generalize s.method? .javascript className b = m at hm hcomment ⊢
  cases m with
  | none => cases b.isStatic <;> simp +decide [hcomment, hb]
  | some m => cases b.isStatic <;> simp +decide [hcomment, hb, isLine_names (hm m rfl).1]

lemma lined_propertyLines (className : String) {name : String} (hn : IsLine name) :
    Lined (propertyLines s className name) := by
  unfold propertyLines
  cases hp : s.property? className name with
  | none => simp +decide [hn]
  | some p => simp +decide [hn, lined_descriptionLines, isLine_spell (h.property? hp)]

lemma lined_classLines {c : BoundClass} (hc : LineClass c) : Lined (classLines s c) := by
  have hcomment : Lined (classComment s c) := by
    refine each_append.2 ⟨each_append.2 ⟨each_append.2 ⟨each_append.2 ⟨by simp +decide, ?_⟩, ?_⟩, ?_⟩,
      by simp +decide⟩
    · split
      · exact lined_map_textLines _ fun l hl => by simp +decide [hl]
      · simp +decide [hc.name]
    · cases hb : namedBase? c.base with
      | none => simp
      | some b => simp +decide [isLine_namedBase hc.base b hb]
    · cases c.constructors.isEmpty <;> simp +decide
  have hmethods := each_flatMap fun m hm => lined_methodLines h c.name (hc.methods m hm).1
  have hproperties := each_flatMap fun p hp => lined_propertyLines h c.name (hc.properties p hp)
  unfold classLines
  cases hk : s.firstConstructor? c with
  | none => simp +decide [hcomment, hc.name, hmethods, hproperties]
  | some k =>
    simp +decide [hcomment, hc.name, hmethods, hproperties,
      lined_constructorLines (h.firstConstructor? hk)]

lemma lined_fileLines : Lined (fileLines s) :=
  each_flatMap fun c hc => lined_classLines h (h.classes .javascript c hc)

end
end ScriptDoc

namespace ScriptTypes

lemma isLine_spell {type : String} (h : IsLine type) : IsLine (spell type) :=
  Output.isLine_spell spellsLines_declared h

lemma isLine_returnType {m : Method} (h : IsLine m.returns) : IsLine (returnType m) := by
  unfold returnType
  split
  · decide
  · exact isLine_spell h

lemma isLine_typed {params : List Parameter} (h : LineParams params) {mark sep : String}
    (hmark : IsLine mark) (hsep : IsLine sep) :
    IsLine (joinWith sep (params.map fun p => p.name ++ mark ++ spell p.type)) := by
  refine isLine_joinWith hsep (List.forall_mem_map.2 fun p hp => ?_)
  simp [(h p hp).1, hmark, isLine_spell (h p hp).2]

lemma lined_constructorLines {k : Constructor} (h : LineParams k.params) :
    Lined (constructorLines k) := by
  have hparams := isLine_typed h (by decide : IsLine ": ") (by decide : IsLine ", ")
  simp +decide [constructorLines, hparams]

lemma lined_enumLines {e : BoundEnum} (hn : IsLine e.name) (hv : ∀ v ∈ e.values, IsLine v) :
    Lined (enumLines e) := by
  have hinit : Lined (e.values.dropLast.map fun v => "\t\t" ++ v ++ ",") :=
    each_map fun v hm => by simp +decide [hv v (List.dropLast_subset _ hm)]
  have hlast : Lined (e.values.getLast?.toList.map fun v => "\t\t" ++ v) :=
    each_map fun v hm => by
      simp +decide [hv v (List.mem_of_getLast? (Option.mem_toList.1 hm))]
  have hheader : Lined ["", "\tenum " ++ e.name ++ " \x7b"] := by simp +decide [hn]
  exact each_append.2 ⟨each_append.2 ⟨hheader, each_append.2 ⟨hinit, hlast⟩⟩, by simp +decide⟩

lemma lined_methodComment {m : Option Method}
    (h : ∀ x ∈ m, LineParams x.params ∧ IsLine x.returns) : Lined (methodComment m) := by
  unfold methodComment
  split
  · rename_i m
    obtain ⟨hparams, hreturns⟩ := h m rfl
    split
    · rename_i doc _
      have hlines : Lined ((inputs m.params).map (paramLine doc)) := by
        refine each_map fun p hp => ?_
        obtain ⟨hname, htype⟩ := hparams.inputs p hp
        unfold paramLine
        split <;> simp +decide [hname, isLine_spell htype]
      unfold documentedMethod
      cases doc.summary? <;> cases doc.returns? <;>
        simp +decide [hlines, isLine_returnType hreturns]
    · simp +decide
  · simp +decide

lemma isLine_signature {m : Option Method}
    (h : ∀ x ∈ m, LineParams x.params ∧ IsLine x.returns) : IsLine (signature m) := by
  unfold signature
  split
  · rename_i m
    obtain ⟨hparams, hreturns⟩ := h m rfl
    have htyped := isLine_typed hparams.inputs (by decide : IsLine ":") (by decide : IsLine ",")
    simp +decide [htyped, isLine_returnType hreturns]
  · decide

section
variable {s : Surface} {o : Options} (h : LineNames s o)
include h

lemma lined_methodLines (className : String) {b : BoundMethod} (hb : IsLine b.name) :
    Lined (methodLines s className b) := by
  have hm : ∀ m ∈ s.method? .javascript className b, LineParams m.params ∧ IsLine m.returns :=
    fun m hm => h.method? hm
  unfold methodLines
  cases b.isStatic <;> simp +decide [lined_methodComment hm, hb, isLine_signature hm]

lemma lined_propertyLines (className : String) {name : String} (hn : IsLine name) :
    Lined (propertyLines s className name) := by
  unfold propertyLines
  cases hp : s.property? className name with
  | none => simp +decide [hn]
  | some p =>
    have htype := isLine_spell (h.property? hp)
    cases hs : p.doc.bind Comment.summary? with
    | none => simp +decide [hn, htype, hs]
    | some summary =>
      have hlines : Lined ((textLines summary).map ("\t\t * " ++ ·)) :=
        lined_map_textLines _ fun l hl => by simp +decide [hl]
      simp +decide [hn, htype, hs, hlines]

lemma lined_classLines {c : BoundClass} (hc : LineClass c) : Lined (classLines s c) := by
  have hheader : IsLine (classHeader c) := by
    unfold classHeader
    cases hb : namedBase? c.base with
    | none => simp +decide [hc.name]
    | some b => simp +decide [hc.name, isLine_namedBase hc.base b hb]
  have hmethods := each_flatMap fun m hm => lined_methodLines h c.name (hc.methods m hm).1
  have hproperties := each_flatMap fun p hp => lined_propertyLines h c.name (hc.properties p hp)
  unfold classLines
  cases hk : s.firstConstructor? c with
  | none => simp +decide [hheader, hmethods, hproperties]
  | some k =>
    simp +decide [hheader, hmethods, hproperties, lined_constructorLines (h.firstConstructor? hk)]

lemma lined_fileLines : Lined (fileLines s o) := by
  have henums := each_flatMap fun e he => lined_enumLines (h.enums e he).1 (h.enums e he).2
  have hclasses := each_flatMap fun c hc => lined_classLines h (h.classes .javascript c hc)
  have hexports : Lined (moduleClassLines s o) := by
    have henumNames : Lined (s.bindings.enumList.map fun e => "\t\t" ++ e.name ++ ": typeof " ++ e.name) :=
      each_map fun e he => by simp +decide [(h.enums e he).1]
    have hclassNames : Lined ((s.bindings.classes .javascript).map fun c =>
        "\t\t" ++ c.name ++ ": typeof " ++ c.name ++ ";") :=
      each_map fun c hc => by simp +decide [(h.classes .javascript c hc).name]
    simp +decide [moduleClassLines, h.moduleClass, henumNames, hclassNames]
  simp +decide [fileLines, h.moduleName, h.moduleClass, henums, hexports, hclasses]

end
end ScriptTypes

namespace Pages

lemma isLine_spell {type : String} (h : IsLine type) : IsLine (spell type) :=
  Output.isLine_spell spellsLines_pageDoc h

@[simp] lemma isLine_underline (title : String) : IsLine (underline title) := by
  simp [underline, isLine_ofList, List.mem_replicate]

lemma lined_fieldLines {head : String} {lines : List String} (hh : IsLine head) (hl : Lined lines) :
    Lined (fieldLines head lines) := by
  match lines, hl with
  | [], _ => simp [fieldLines]
  | [line], hl => simpa [fieldLines, hh] using hl
  | line :: next :: rest, hl =>
    obtain ⟨hline, hrest⟩ := each_cons.1 hl
    have hinit : Lined ((next :: rest).dropLast.map fun l => deepMargin ++ l ++ " \\") :=
      each_map fun l hm => by simp +decide [hrest l (List.dropLast_subset _ hm)]
    have hlast : Lined ((next :: rest).getLast?.toList.map fun l => deepMargin ++ l) :=
      each_map fun l hm => by
        simp +decide [hrest l (List.mem_of_getLast? (Option.mem_toList.1 hm))]
    rw [fieldLines]
    · exact each_append.2 ⟨each_cons.2 ⟨by simp +decide [hh, hline], hinit⟩, hlast⟩
    · simp

lemma lined_proseLines (text : String) : Lined (proseLines text) :=
  each_map fun l hl => by simp +decide [isLine_pageLines hl]

lemma lined_paramLines (doc : Comment) {p : Parameter} (hname : IsLine p.name)
    (htype : IsLine p.type) : Lined (paramLines doc p) := by
  unfold paramLines
  split
  · simp
  · rename_i text _
    have hlines : Lined (pageLines text) := fun l hl => isLine_pageLines hl
    split
    · simp
    · have htype := isLine_spell htype
      have hplain : Lined (fieldLines (margin ++ ":param " ++ p.name ++ ": ") (pageLines text)) :=
        lined_fieldLines (by simp +decide [hname]) hlines
      have htyped : Lined (fieldLines (margin ++ ":param " ++ spell p.type ++ " " ++ p.name ++ ": ")
          (pageLines text)) := lined_fieldLines (by simp +decide [hname, htype]) hlines
      simp only
      split
      · simp +decide [hplain, hname, htype]
      · exact htyped

lemma lined_directive {kind text : String} (hk : IsLine kind) (ht : IsLine text) :
    Lined (directive kind text) := by simp +decide [directive, hk, ht]

lemma lined_flatMap_paramLines (doc : Comment) {params : List Parameter} (h : LineParams params) :
    Lined (params.flatMap (paramLines doc)) :=
  each_flatMap fun p hp => lined_paramLines doc (h p hp).1 (h p hp).2

lemma lined_constructorLines {className : String} (hn : IsLine className) {k : Option Constructor}
    (hk : ∀ x ∈ k, LineParams x.params) : Lined (constructorLines className k) := by
  cases k with
  | none =>
    refine each_append.2 ⟨each_append.2 ⟨each_append.2 ⟨lined_directive (by decide) ?_, ?_⟩, ?_⟩, ?_⟩
    · simp +decide [hn, joinWith]
    · simp +decide [hn]
    · simp +decide
    · simp
  | some k =>
    have hparams := (hk k rfl).inputs
    have hnames : IsLine (joinWith ", " ((inputs k.params).map (·.name))) :=
      isLine_joinWith (by decide) (List.forall_mem_map.2 fun p hp => (hparams p hp).1)
    refine each_append.2 ⟨each_append.2 ⟨each_append.2 ⟨lined_directive (by decide) ?_, ?_⟩, ?_⟩, ?_⟩
    · simp +decide [hn, hnames]
    · cases hs : k.doc.bind Comment.summary? with
      | none => simp +decide [hn, hs]
      | some summary => simpa [hs] using lined_proseLines summary
    · simp +decide
    · cases hd : k.doc with
      | none => simp [hd]
      | some doc => simpa [hd] using lined_flatMap_paramLines doc hparams

lemma lined_documentedMethod (b : BoundMethod) {m : Method} (hparams : LineParams m.params)
    (hreturns : IsLine m.returns) : Lined (documentedMethod b m) := by
  refine each_append.2 ⟨each_append.2 ⟨each_append.2 ⟨each_append.2 ⟨?_, ?_⟩, by simp +decide⟩, ?_⟩,
    by simp +decide [isLine_spell hreturns]⟩
  · split
    · exact lined_proseLines _
    · simp
  · split
    · rename_i doc _
      have hfiltered : LineParams ((inputs m.params).filter fun p => (doc.param? p.name).isSome) :=
        fun p hp => hparams.inputs p (List.mem_of_mem_filter hp)
      unfold describedInputs
      simp only
      split
      · simpa +decide using lined_flatMap_paramLines doc hfiltered
      · simp
    · simp
  · split
    · exact lined_fieldLines (by decide) fun l hl => isLine_pageLines hl
    · simp

section
variable {s : Surface} {o : Options} (h : LineNames s o)
include h

lemma lined_attributeLines (className : String) {name : String} (hn : IsLine name) :
    Lined (attributeLines s className name) := by
  refine each_append.2 ⟨lined_directive (by decide) hn, ?_⟩
  cases hp : s.property? className name with
  | none => simp
  | some p =>
    simp only
    cases hs : p.doc.bind Comment.summary? with
    | none => simp
    | some summary =>
      have hlines : Lined (pageLines summary) := fun l hl => isLine_pageLines hl
      simp only
      cases hl : pageLines summary with
      | nil => simp
      | cons line rest =>
        obtain ⟨hline, hlines⟩ := each_cons.1 (hl ▸ hlines)
        have hrest : Lined (rest.map (margin ++ ·)) :=
          each_map fun l hm => by simp +decide [hlines l hm]
        simp +decide [isLine_spell (h.property? hp), hline, hrest]

lemma lined_methodLines (className : String) {b : BoundMethod} (hb : IsLine b.name)
    (hargs : ∀ a ∈ b.args, IsLine a) : Lined (methodLines s className b) := by
  have hhead : IsLine (b.name ++ "(" ++ joinWith ", " b.args ++ ")") := by
    simp +decide [hb, isLine_joinWith _ hargs]
  refine each_append.2 ⟨lined_directive (by cases b.isStatic <;> decide) hhead, ?_⟩
  cases hm : s.method? .python className b with
  | none => simp +decide
  | some m => exact lined_documentedMethod b (h.method? hm).1 (h.method? hm).2

lemma lined_page {c : BoundClass} (hc : LineClass c) : Lined (page s o c) := by
  have hheader : Lined (pageHeader o.moduleName c.name) := by
    simp +decide [pageHeader, hc.name, h.moduleName]
  have hconstructors : Lined ((s.constructors c).flatMap fun k => constructorLines c.name k.2) :=
    each_flatMap fun k hk => lined_constructorLines hc.name (h.constructors hk)
  have hproperties := each_flatMap fun p hp => lined_attributeLines h c.name (hc.properties p hp)
  have hmethods := each_flatMap fun m hm =>
    lined_methodLines h c.name (hc.methods m hm).1 (hc.methods m hm).2
  exact each_append.2 ⟨each_append.2 ⟨each_append.2 ⟨hheader, hconstructors⟩, hproperties⟩, hmethods⟩

end
end Pages

lemma LineNames.basesFirst {s : Surface} {o : Options} (h : LineNames s o) {d : Dialect}
    {c : BoundClass} (hc : c ∈ Inheritance.basesFirst (s.bindings.classes d)) : LineClass c :=
  h.classes d c ((Inheritance.basesFirst_perm _).mem_iff.1 hc)

namespace Skeleton

lemma isLine_spell {type : String} (h : IsLine type) : IsLine (spell type) :=
  Output.isLine_spell spellsLines_pageDoc h

@[simp] lemma isLine_pad (level : Nat) : IsLine (pad level) := by
  simp [pad, isLine_ofList, List.mem_replicate]

@[simp] lemma isLine_quotes : IsLine quotes := by decide

@[simp] lemma isLine_placeholder : IsLine placeholder := by decide

lemma lined_headedLines {head rest : String} (hh : IsLine head) (hr : IsLine rest) (text : String) :
    Lined (headedLines head rest text) := by
  have hlines : Lined (textLines text) := fun l hl => isLine_textLines hl
  unfold headedLines
  split
  · simp
  · rename_i line lines heq
    obtain ⟨hline, hlines⟩ := each_cons.1 (heq ▸ hlines)
    have hrest : Lined (lines.map (rest ++ ·)) := each_map fun l hl => by simp [hr, hlines l hl]
    simp [hh, hline, hrest]

lemma lined_paramLines (level : Nat) (doc : Comment) {p : Parameter} (hname : IsLine p.name)
    (htype : IsLine p.type) : Lined (paramLines level doc p) := by
  unfold paramLines
  split
  · exact lined_headedLines
      (by simp +decide [isLine_safeName hname, isLine_spell htype]) (by simp) _
  · simp

lemma lined_flatMap_paramLines (level : Nat) (doc : Comment) {params : List Parameter}
    (h : LineParams params) : Lined (params.flatMap (paramLines level doc)) :=
  each_flatMap fun p hp => lined_paramLines level doc (h p hp).1 (h p hp).2

lemma lined_docLines (level : Nat) (doc : Comment) {params : List Parameter} (h : LineParams params)
    {returns : Option String} (hr : ∀ type ∈ returns, IsLine type) :
    Lined (docLines level doc params returns) := by
  have houts : Lined ((outputs params).flatMap (paramLines (level + 1) doc)) :=
    lined_flatMap_paramLines _ _ fun p hp => h p (List.mem_of_mem_filter hp)
  refine each_append.2 ⟨each_append.2 ⟨each_append.2 ⟨each_append.2 ⟨each_append.2
    ⟨by simp, ?_⟩, ?_⟩, ?_⟩, houts⟩, by simp⟩
  · split
    · exact lined_map_textLines _ fun l hl => by simp [hl]
    · simp
  · split
    · simpa +decide using lined_flatMap_paramLines (level + 1) doc h.inputs
    · simp
  · split
    · rename_i type text _
      have htype := isLine_spell (hr type rfl)
      simpa +decide using lined_headedLines (by simp +decide [htype]) (by simp) text
    · simp

lemma lined_docOrPlaceholder (level : Nat) (doc : Option Comment) :
    Lined (docOrPlaceholder level doc) := by
  cases doc with
  | none => simp [docOrPlaceholder]
  | some doc =>
    have hdoc : Lined (docLines level doc [] none) :=
      lined_docLines level doc (fun p hp => by cases hp) (fun type ht => by cases ht)
    exact hdoc

lemma isLine_defLine {name : String} (hn : IsLine name) (isStatic : Bool) {names : List String}
    (hnames : ∀ a ∈ names, IsLine a) : IsLine (defLine name isStatic names) := by
  have hargs : IsLine (argList isStatic names) := by
    refine isLine_joinWith (by decide) (List.forall_mem_append.2 ⟨?_, hnames⟩)
    cases isStatic <;> decide
  simp +decide [defLine, hn, hargs]

lemma isLine_inputNames {params : List Parameter} (h : LineParams params) :
    ∀ a ∈ (inputs params).map (safeName ·.name), IsLine a :=
  List.forall_mem_map.2 fun p hp => isLine_safeName (h.inputs p hp).1

lemma lined_constructorLines {k : Constructor} (h : LineParams k.params) :
    Lined (constructorLines k) := by
  have hdef := isLine_defLine (by decide : IsLine "__init__") false (isLine_inputNames h)
  unfold constructorLines
  cases k.doc with
  | none => simp +decide [hdef]
  | some doc => simp +decide [hdef, lined_docLines 2 doc h (by simp : ∀ type ∈ none, IsLine type)]

section
variable {s : Surface} {o : Options} (h : LineNames s o)
include h

lemma lined_methodLines (className : String) {b : BoundMethod} (hb : IsLine b.name)
    (hargs : ∀ a ∈ b.args, IsLine a) : Lined (methodLines s className b) := by
  have hmark : Lined (if b.isStatic then [pad 1 ++ "@staticmethod"] else []) := by
    split <;> simp +decide
  refine each_append.2 ⟨each_append.2 ⟨hmark, ?_⟩, by simp +decide⟩
  cases hm : s.method? .python className b with
  | none =>
    have hdef := isLine_defLine hb b.isStatic
      (List.forall_mem_map.2 fun a ha => isLine_safeName (hargs a ha))
    simp [hdef]
  | some m =>
    obtain ⟨hparams, hreturns⟩ := h.method? hm
    have hdef := isLine_defLine hb b.isStatic (isLine_inputNames hparams)
    refine each_append.2 ⟨by simpa using hdef, ?_⟩
    split
    · exact lined_docLines 2 _ hparams (by simpa using hreturns)
    · simp

lemma lined_classLines {c : BoundClass} (hc : LineClass c) : Lined (classLines s c) := by
  have hheader : IsLine (classHeader c) := by
    unfold classHeader
    cases hb : namedBase? c.base with
    | none => simp +decide [hc.name]
    | some b => simp +decide [hc.name, isLine_namedBase hc.base b hb]
  have hmethods := each_flatMap fun m hm =>
    lined_methodLines h c.name (hc.methods m hm).1 (hc.methods m hm).2
  have hproperties : Lined (c.properties.flatMap (propertyLines s c.name)) :=
    each_flatMap fun p hp => by
      simp +decide [propertyLines, hc.properties p hp, lined_docOrPlaceholder]
  unfold classLines
  cases hk : s.firstConstructor? c with
  | none => simp +decide [hheader, lined_docOrPlaceholder, hmethods, hproperties]
  | some k =>
    simp +decide [hheader, lined_docOrPlaceholder, hmethods, hproperties,
      lined_constructorLines (h.firstConstructor? hk)]

lemma lined_fileLines : Lined (fileLines s) :=
  each_flatMap fun _ hc => lined_classLines h (h.basesFirst hc)

end
end Skeleton

namespace Hints

lemma isLine_spell {type : String} (h : IsLine type) : IsLine (spell type) :=
  Output.isLine_spell spellsLines_hint h

lemma isLine_typedArgs (isStatic : Bool) {params : List Parameter} (h : LineParams params) :
    IsLine (typedArgs isStatic params) := by
  have htyped : ∀ a ∈ (inputs params).map fun p => safeName p.name ++ ": " ++ spell p.type, IsLine a :=
    List.forall_mem_map.2 fun p hp => by
      simp +decide [isLine_safeName (h.inputs p hp).1, isLine_spell (h.inputs p hp).2]
  refine isLine_joinWith (by decide) (List.forall_mem_append.2 ⟨?_, htyped⟩)
  cases isStatic <;> decide

section
variable {s : Surface} {o : Options} (h : LineNames s o)
include h

lemma lined_bodyLines {c : BoundClass} (hc : LineClass c) : Lined (bodyLines s c) := by
  have hconstructor : Lined (constructorLines s c) := by
    unfold constructorLines
    cases hk : s.firstConstructor? c with
    | none => simp
    | some k => simp +decide [isLine_typedArgs false (h.firstConstructor? hk)]
  have hproperties : Lined (c.properties.flatMap (propertyLines s c.name)) := by
    refine each_flatMap fun name hn => ?_
    unfold propertyLines
    cases hp : s.property? c.name name with
    | none => simp
    | some p => simp +decide [hc.properties name hn, isLine_spell (h.property? hp)]
  have hmethods : Lined (c.methods.flatMap (methodLines s c.name)) := by
    refine each_flatMap fun b hb => ?_
    unfold methodLines
    cases hm : s.method? .python c.name b with
    | none => simp
    | some m =>
      obtain ⟨hparams, hreturns⟩ := h.method? hm
      cases b.isStatic <;>
        simp +decide [(hc.methods b hb).1, isLine_typedArgs _ hparams, isLine_spell hreturns]
  exact each_append.2 ⟨each_append.2 ⟨hconstructor, hproperties⟩, hmethods⟩

lemma lined_fileLines : Lined (fileLines s) := by
  have hclasses : Lined ((Inheritance.basesFirst (s.bindings.classes .python)).flatMap (classLines s)) := by
    refine each_flatMap fun c hc => ?_
    have hc := h.basesFirst hc
    have hbody := lined_bodyLines h hc
    unfold classLines
    split
    · simp +decide [hc.name]
    · simp +decide [hc.name, hbody]
  simp +decide [fileLines, hclasses]

end
end Hints
end Output
end BindingDocs
