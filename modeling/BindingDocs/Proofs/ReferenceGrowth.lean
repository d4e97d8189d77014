import BindingDocs.Matching
import BindingDocs.Proofs.ExtractionFlattening

/-! Matches in a growing reference model. Whatever is added to a model, its classes keep their names
and comments, and their lists of members grow at the end only; so a search that takes the first
declaration that fits goes on finding the one it found. -/
namespace BindingDocs
open BindingDocs.Reference BindingDocs.Registration BindingDocs.Text

namespace Reference

/-- What can be added to a model: a class by name, a member of a class, or a source text. -/
inductive Addition where
  | entry (className : String)
  | constructor (className : String) (k : Constructor)
  | method (className : String) (m : Method)
  | property (className : String) (p : Property)
  | source (input : Input)
  deriving Repr, DecidableEq

namespace Model

def add (m : Model) : Addition → Model
  | .entry className => m.update className id
  | .constructor className k => m.update className (·.addConstructor k)
  | .method className x => m.update className (·.addMethod x)
  | .property className p => m.update className (·.addProperty p)
  | .source input => m.after input

def addAll (m : Model) (as : List Addition) : Model := as.foldl add m

end Model

/-- A class `d` that has grown out of a class `c`. -/
structure Class.GrowsTo (c d : Class) : Prop where
  qualifiedName : d.qualifiedName = c.qualifiedName
  doc : c.doc.isSome → d.doc = c.doc
  constructors : c.constructors <+: d.constructors
  methods : c.methods <+: d.methods
  properties : c.properties <+: d.properties

namespace Class.GrowsTo
variable {c d e : Class}

lemma refl (c : Class) : c.GrowsTo c where
  qualifiedName := rfl
  doc _ := rfl
  constructors := List.prefix_rfl
  methods := List.prefix_rfl
  properties := List.prefix_rfl

lemma trans (h : c.GrowsTo d) (h' : d.GrowsTo e) : c.GrowsTo e where
  qualifiedName := h'.qualifiedName.trans h.qualifiedName
  doc hc := by rw [h'.doc (by rw [h.doc hc]; exact hc), h.doc hc]
  constructors := h.constructors.trans h'.constructors
  methods := h.methods.trans h'.methods
  properties := h.properties.trans h'.properties

lemma withDoc (c : Class) (doc : Option Documentation.Comment) : c.GrowsTo (c.withDoc doc) where
  __ := refl c
  doc hc := by
    obtain ⟨x, hx⟩ := Option.isSome_iff_exists.1 hc
    simp [Class.withDoc, hx]

lemma addConstructor (c : Class) (k : Constructor) : c.GrowsTo (c.addConstructor k) where
  __ := refl c
  constructors := List.prefix_append _ _

lemma addMethod (c : Class) (m : Method) : c.GrowsTo (c.addMethod m) where
  __ := refl c
  methods := List.prefix_append _ _

lemma addProperty (c : Class) (p : Property) : c.GrowsTo (c.addProperty p) where
  __ := refl c
  properties := List.prefix_append _ _

lemma methodsNamed (h : c.GrowsTo d) (name : String) : c.methodsNamed name <+: d.methodsNamed name :=
  h.methods.filter _

end Class.GrowsTo

/-- A model `m'` that has grown out of a model `m`: no class is lost, and each has grown. -/
def Model.GrowsTo (m m' : Model) : Prop :=
  ∀ key c, m.classes.get? key = some c → ∃ d, m'.classes.get? key = some d ∧ c.GrowsTo d

namespace Model.GrowsTo
variable {m m' m'' : Model}

lemma refl (m : Model) : m.GrowsTo m := fun _ c hc => ⟨c, hc, .refl c⟩

lemma trans (h : m.GrowsTo m') (h' : m'.GrowsTo m'') : m.GrowsTo m'' := by
  intro key c hc
  obtain ⟨d, hd, hcd⟩ := h key c hc
  obtain ⟨e, he, hde⟩ := h' key d hd
  exact ⟨e, he, hcd.trans hde⟩

/-- Changing one entry so that it grows. -/
lemma update (m : Model) (className : String) {f : Class → Class} (h : ∀ c : Class, c.GrowsTo (f c)) :
    m.GrowsTo (m.update className f) := by
  intro key c hc
  rw [Model.get?_update, hc]
  split
  · exact ⟨_, rfl, h c⟩
  · exact ⟨c, rfl, .refl c⟩

lemma record (m : Model) (f : Finding) : m.GrowsTo (m.record f) := by
  cases f with
  | declared name doc => exact update m name (.withDoc · doc)
  | constructor owner k => exact update m owner (.addConstructor · k)
  | method owner x => exact update m owner (.addMethod · x)
  | skipped owner x => exact refl m
  | property owner p => exact update m owner (.addProperty · p)

/-- If every step of a run lets the model grow, so does the run. -/
lemma foldl {α : Type} {step : Model → α → Model} (h : ∀ (m : Model) (a : α), m.GrowsTo (step m a))
    (as : List α) (m : Model) : m.GrowsTo (as.foldl step m) := by
  induction as generalizing m with
  | nil => exact refl m
  | cons a as ih => exact (h m a).trans (ih (step m a))

lemma after (m : Model) (input : Input) : m.GrowsTo (m.after input) := by
  rw [Model.after_eq]
  refine foldl (fun m o => ?_) _ m
  exact foldl record _ m

lemma add (m : Model) (a : Addition) : m.GrowsTo (m.add a) := by
  cases a with
  | entry className => exact update m className .refl
  | constructor className k => exact update m className (.addConstructor · k)
  | method className x => exact update m className (.addMethod · x)
  | property className p => exact update m className (.addProperty · p)
  | source input => exact after m input

lemma addAll (m : Model) (as : List Addition) : m.GrowsTo (m.addAll as) := foldl add as m

end Model.GrowsTo
end Reference

lemma head?_mono {α : Type} {l l' : List α} {a : α} (h : l <+: l') (ha : l.head? = some a) :
    l'.head? = some a := by
  obtain ⟨t, rfl⟩ := h
  rw [List.head?_append, ha, Option.some_or]

namespace Surface
variable {m m' : Model} (b : BindingSet)

lemma constructor?_of_growsTo (h : m.GrowsTo m') {className : String} {types : List String}
    {k : Constructor} (hk : (⟨m, b⟩ : Surface).constructor? className types = some k) :
    (⟨m', b⟩ : Surface).constructor? className types = some k := by
  obtain ⟨c, hc, hk⟩ := Option.bind_eq_some_iff.1 hk
  obtain ⟨d, hd, hcd⟩ := h _ c hc
  exact Option.bind_eq_some_iff.2 ⟨d, hd, hcd.constructors.find?_eq_some hk⟩

lemma property?_of_growsTo (h : m.GrowsTo m') {className name : String} {p : Property}
    (hp : (⟨m, b⟩ : Surface).property? className name = some p) :
    (⟨m', b⟩ : Surface).property? className name = some p := by
  obtain ⟨c, hc, hp⟩ := Option.bind_eq_some_iff.1 hp
  obtain ⟨d, hd, hcd⟩ := h _ c hc
  exact Option.bind_eq_some_iff.2 ⟨d, hd, hcd.properties.find?_eq_some hp⟩

/-- A method whose arguments are not known matches the first declaration of its name. -/
lemma method?_of_unknown {s : Surface} {dialect : Dialect} {className : String} {bound : BoundMethod}
    (h : s.arguments? dialect className bound = none) : s.method? dialect className bound =
      (s.class? className).bind fun c => (c.methodsNamed bound.name).head? := by
  rw [method?, h]
  cases s.class? className with
  | none => rfl
  | some c =>
    change ((c.methodsNamed bound.name).head?.bind some) = (c.methodsNamed bound.name).head?
    exact Option.bind_fun_some _

/-- A declaration that can be called with some arguments. -/
def fits (args : List String) (m : Method) : Bool := (inputs m.params).length == args.length

/-- A method whose arguments are known matches the first declaration of its name that fits them, or
else the first. -/
lemma method?_of_known {s : Surface} {dialect : Dialect} {className : String} {bound : BoundMethod}
    {args : List String} (h : s.arguments? dialect className bound = some args) :
    s.method? dialect className bound = (s.class? className).bind fun c =>
      ((c.methodsNamed bound.name).find? (fits args)).or (c.methodsNamed bound.name).head? := by
  rw [method?, h]
  cases s.class? className with
  | none => rfl
  | some c =>
    change ((c.methodsNamed bound.name).head?.bind fun first =>
      some (((c.methodsNamed bound.name).find? (fits args)).getD first)) =
      ((c.methodsNamed bound.name).find? (fits args)).or (c.methodsNamed bound.name).head?
    cases c.methodsNamed bound.name with
    | nil => rfl
    | cons first rest => cases (first :: rest).find? (fits args) <;> rfl

/-- Where a match by name alone is replaced, the new one fits the arguments. -/
lemma or_head?_mono {l l' : List Method} {args : List String} {x : Method} (h : l <+: l')
    (hx : (l.find? (fits args)).or l.head? = some x) :
    ∃ y, (l'.find? (fits args)).or l'.head? = some y ∧ (fits args x = true → y = x) ∧
      (y = x ∨ fits args y = true) := by
  cases hl : l.find? (fits args) with
  | some z =>
    obtain rfl : z = x := by simpa [hl] using hx
    exact ⟨z, by rw [h.find?_eq_some hl, Option.some_or], fun _ => rfl, .inl rfl⟩
  | none =>
    have hhead : l.head? = some x := by simpa [hl] using hx
    have hmisfit : fits args x = false := by
      simpa using List.find?_eq_none.1 hl x (List.mem_of_head? hhead)
    have hhead' := head?_mono h hhead
    cases hl' : l'.find? (fits args) with
    | none => exact ⟨x, by rw [hhead', Option.none_or], fun _ => rfl, .inl rfl⟩
    | some y =>
      refine ⟨y, rfl, fun hfits => ?_, .inr (List.find?_some hl')⟩
      rw [hmisfit] at hfits
      cases hfits

lemma method?_unknown_of_growsTo (h : m.GrowsTo m') {dialect : Dialect} {className : String}
    {bound : BoundMethod} {x : Method}
    (hunknown : (⟨m, b⟩ : Surface).arguments? dialect className bound = none)
    (hx : (⟨m, b⟩ : Surface).method? dialect className bound = some x) :
    (⟨m', b⟩ : Surface).method? dialect className bound = some x := by
  have hunknown' : (⟨m', b⟩ : Surface).arguments? dialect className bound = none := hunknown
  rw [method?_of_unknown hunknown] at hx
  obtain ⟨c, hc, hx⟩ := Option.bind_eq_some_iff.1 hx
  obtain ⟨d, hd, hcd⟩ := h _ c hc
  rw [method?_of_unknown hunknown']
  exact Option.bind_eq_some_iff.2 ⟨d, hd, head?_mono (hcd.methodsNamed _) hx⟩

lemma method?_known_of_growsTo (h : m.GrowsTo m') {dialect : Dialect} {className : String}
    {bound : BoundMethod} {args : List String} {x : Method}
    (hknown : (⟨m, b⟩ : Surface).arguments? dialect className bound = some args)
    (hx : (⟨m, b⟩ : Surface).method? dialect className bound = some x) :
    ∃ y, (⟨m', b⟩ : Surface).method? dialect className bound = some y ∧
      (fits args x = true → y = x) ∧ (y = x ∨ fits args y = true) := by
  have hknown' : (⟨m', b⟩ : Surface).arguments? dialect className bound = some args := hknown
  rw [method?_of_known hknown] at hx
  obtain ⟨c, hc, hx⟩ := Option.bind_eq_some_iff.1 hx
  obtain ⟨d, hd, hcd⟩ := h _ c hc
  obtain ⟨y, hy, hsame, hfits⟩ := or_head?_mono (hcd.methodsNamed bound.name) hx
  refine ⟨y, ?_, hsame, hfits⟩
  rw [method?_of_known hknown']
  exact Option.bind_eq_some_iff.2 ⟨d, hd, hy⟩

end Surface

/-- A larger reference model never spoils a match. Whatever is added to a model, a class that was
found is found with its name and its comment, constructors and properties match the declarations they
matched, and so do methods whose arguments are unknown or whose match fits them. Any other method
keeps its match or gets one that fits. -/
theorem additions_keep_matches (m : Model) (as : List Addition) (b : BindingSet) :
    let s : Surface := ⟨m, b⟩
    let s' : Surface := ⟨m.addAll as, b⟩
    (∀ name c, s.class? name = some c → ∃ c', s'.class? name = some c' ∧
      c'.qualifiedName = c.qualifiedName ∧ (c.doc.isSome → c'.doc = c.doc)) ∧
    (∀ className types k, s.constructor? className types = some k →
      s'.constructor? className types = some k) ∧
    (∀ className name p, s.property? className name = some p →
      s'.property? className name = some p) ∧
    (∀ dialect className bound x, s.method? dialect className bound = some x →
      ∃ y, s'.method? dialect className bound = some y ∧
        (s.arguments? dialect className bound = none → y = x) ∧
        ∀ args, s.arguments? dialect className bound = some args →
          ((inputs x.params).length = args.length → y = x) ∧
          (y = x ∨ (inputs y.params).length = args.length)) := by
  intro s s'
  have hgrows : m.GrowsTo (m.addAll as) := .addAll m as
  refine ⟨?_, ?_, ?_, ?_⟩
  · intro name c hc
    obtain ⟨c', hc', h⟩ := hgrows _ c hc
    exact ⟨c', hc', h.qualifiedName, h.doc⟩
  · intro className types k hk
    exact Surface.constructor?_of_growsTo b hgrows hk
  · intro className name p hp
    exact Surface.property?_of_growsTo b hgrows hp
  · intro dialect className bound x hx
    cases hargs : s.arguments? dialect className bound with
    | none =>
      refine ⟨x, Surface.method?_unknown_of_growsTo b hgrows hargs hx, fun _ => rfl, ?_⟩
      intro args hsome
      cases hsome
    | some args =>
      obtain ⟨y, hy, hsame, hfits⟩ := Surface.method?_known_of_growsTo b hgrows hargs hx
      refine ⟨y, hy, ?_, ?_⟩
      · intro hnone
        cases hnone
      · rintro _ ⟨rfl⟩
        exact ⟨fun h => hsame (by simpa [Surface.fits] using h), by simpa [Surface.fits] using hfits⟩

example :
    let wide : Method := ⟨"Scale", "bool", [⟨"x", "double", .byValue⟩, ⟨"y", "double", .byValue⟩], false, none⟩
    let narrow : Method := ⟨"Scale", "bool", [⟨"x", "double", .byValue⟩], false, none⟩
    let bound : BoundMethod := ⟨"Scale", false, "", ["factor"]⟩
    let m := Model.empty.addAll [.method "Circle" wide]
    (⟨m, .empty⟩ : Surface).method? .python "Circle" bound = some wide ∧
    (⟨m.addAll [.method "Other.Circle" narrow], .empty⟩ : Surface).method? .python "Circle" bound =
      some narrow := by
  decide +kernel

end BindingDocs
