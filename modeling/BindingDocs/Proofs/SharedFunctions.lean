import BindingDocs.Proofs.ReferenceGrowth

/-! Native functions that both dialects bind. A script method has no argument names of its own; it
borrows them from the first method of the other dialect with the same native function, and so both are
documented by one declaration. -/
namespace BindingDocs
open BindingDocs.Reference BindingDocs.Registration BindingDocs.Text

/-- The first element of a list with a property. -/
def IsFirst {α : Type} (p : α → Prop) (l : List α) (a : α) : Prop :=
  ∃ before after, l = before ++ a :: after ∧ p a ∧ ∀ b ∈ before, ¬ p b

lemma find?_eq_some_iff_isFirst {α : Type} {q : α → Bool} {l : List α} {a : α} :
    l.find? q = some a ↔ IsFirst (q · = true) l a := by
  rw [List.find?_eq_some_iff_append]
  constructor
  · rintro ⟨ha, before, after, hl, hbefore⟩
    exact ⟨before, after, hl, ha, fun b hb => by simpa using hbefore b hb⟩
  · rintro ⟨before, after, hl, ha, hbefore⟩
    exact ⟨ha, before, after, hl, fun b hb => by simpa using hbefore b hb⟩

namespace Surface
variable (s : Surface) (className : String)

/-- Two names that differ at most in the case of the basic alphabet. -/
def SameName (a b : String) : Prop := foldAscii a = foldAscii b

instance (a b : String) : Decidable (SameName a b) :=
  inferInstanceAs (Decidable (foldAscii a = foldAscii b))

/-- The number of parameters that do not carry a result back. -/
def inputCount (m : Method) : Nat := m.params.countP (·.passing ≠ .byOut)

/-- The choice of a declaration by name: the first that fits if there is one, or else the first, and
none only if the reference class is missing or has no method of the name. -/
structure Chosen (name : String) (fit : Method → Prop) (answer : Option Method) : Prop where
  none_iff : answer = none ↔
    ∀ c, (classKey className, c) ∈ s.reference.classes.entries → ∀ m ∈ c.methods, ¬ SameName m.name name
  fitting : ∀ c, (classKey className, c) ∈ s.reference.classes.entries →
    ∀ m, IsFirst (fun x => SameName x.name name ∧ fit x) c.methods m → answer = some m
  otherwise : ∀ c, (classKey className, c) ∈ s.reference.classes.entries →
    (∀ x ∈ c.methods, SameName x.name name → ¬ fit x) →
    ∀ m, IsFirst (fun x => SameName x.name name) c.methods m → answer = some m

lemma length_inputs (m : Method) : (inputs m.params).length = inputCount m := by
  rw [inputs, inputCount, List.countP_eq_length_filter]
  congr 2
  funext p
  rw [Parameter.isOut]
  cases p.passing <;> rfl

/-- What the search for a declaration comes to, whatever it takes for a fit. -/
def searched (name : String) (q : Method → Bool) : Option Method :=
  (s.class? className).bind fun c =>
    ((c.methodsNamed name).find? q).or (c.methodsNamed name).head?

lemma mem_methodsNamed {c : Reference.Class} {name : String} {m : Method} :
    m ∈ c.methodsNamed name ↔ m ∈ c.methods ∧ SameName m.name name := by
  simp [Reference.Class.methodsNamed, sameIgnoringAsciiCase, SameName]

lemma find?_methodsNamed {c : Reference.Class} {name : String} {q : Method → Bool} {m : Method} :
    (c.methodsNamed name).find? q = some m ↔
      IsFirst (fun x => SameName x.name name ∧ q x = true) c.methods m := by
  rw [Reference.Class.methodsNamed, List.find?_filter, find?_eq_some_iff_isFirst]
  simp [sameIgnoringAsciiCase, SameName]

lemma head?_methodsNamed {c : Reference.Class} {name : String} {m : Method} :
    (c.methodsNamed name).head? = some m ↔ IsFirst (fun x => SameName x.name name) c.methods m := by
  rw [Reference.Class.methodsNamed, List.head?_filter, find?_eq_some_iff_isFirst]
  simp [sameIgnoringAsciiCase, SameName]

/-- The search makes the choice. -/
lemma chosen_searched (name : String) (q : Method → Bool) :
    s.Chosen className name (q · = true) (s.searched className name q) := by
  have hclass : ∀ c, (classKey className, c) ∈ s.reference.classes.entries ↔
      s.class? className = some c := fun c => s.reference.classes.mem_entries_iff
  refine ⟨?_, ?_, ?_⟩
  · cases hc : s.class? className with
    | none => simp [searched, hclass, hc]
    | some c =>
      have hempty : c.methodsNamed name = [] ↔ ∀ m ∈ c.methods, ¬ SameName m.name name := by
        simp [List.eq_nil_iff_forall_not_mem, mem_methodsNamed]
      simp only [searched, hclass, hc, Option.bind_some, Option.or_eq_none_iff, List.head?_eq_none_iff,
        Option.some.injEq, forall_eq', hempty]
      refine and_iff_right_of_imp fun hnone => ?_
      rw [hempty.2 hnone, List.find?_nil]
  · intro c hc m hm
    rw [searched, (hclass c).1 hc, Option.bind_some, find?_methodsNamed.2 hm, Option.some_or]
  · intro c hc hunfit m hm
    have hnone : (c.methodsNamed name).find? q = none := by
      rw [List.find?_eq_none]
      intro x hx
      exact hunfit x (mem_methodsNamed.1 hx).1 (mem_methodsNamed.1 hx).2
    rw [searched, (hclass c).1 hc, Option.bind_some, hnone, Option.none_or, head?_methodsNamed.2 hm]

/-- The first method of the other dialect that is bound to the native function of a script method. -/
def IsSibling (j p : BoundMethod) : Prop :=
  ∃ c, (keyOf className, c) ∈ s.bindings.python.entries ∧ IsFirst (·.symbol = j.symbol) c.methods p

variable {s className} {j p : BoundMethod}

lemma methodBySymbol?_eq_some_iff {c : BoundClass} (hj : j.symbol ≠ "") :
    c.methodBySymbol? j.symbol = some p ↔ IsFirst (·.symbol = j.symbol) c.methods p := by
  rw [BoundClass.methodBySymbol?, if_neg hj, find?_eq_some_iff_isFirst]
  simp

lemma arguments?_javascript (j : BoundMethod) : s.arguments? .javascript className j =
    ((s.bindings.class? .python className).bind (·.methodBySymbol? j.symbol)).map (·.args) := by
  rw [arguments?]
  cases s.bindings.class? .python className with
  | none => rfl
  | some c =>
    rw [Option.bind_some, Option.map_eq_bind]
    rfl

lemma isSibling_iff (hj : j.symbol ≠ "") : s.IsSibling className j p ↔
    (s.bindings.class? .python className).bind (·.methodBySymbol? j.symbol) = some p := by
  simp only [IsSibling, Option.bind_eq_some_iff, methodBySymbol?_eq_some_iff hj,
    s.bindings.python.mem_entries_iff]
  rfl

/-- Names that differ only in the case of the basic alphabet have the same declarations. -/
lemma searched_congr {name name' : String} (h : SameName name name') (q : Method → Bool) :
    s.searched className name q = s.searched className name' q := by
  have hnamed : ∀ c : Reference.Class, c.methodsNamed name = c.methodsNamed name' := fun c => by
    simp only [Reference.Class.methodsNamed, sameIgnoringAsciiCase,
      show foldAscii name = foldAscii name' from h]
  simp only [searched, hnamed]

end Surface

open Surface in
/-- A native function that both dialects bind has one documentation. A script method has the argument
names of its sibling, they choose its declaration, and if the two have one name then both have the same
declaration. Without a sibling it has the first declaration of its name. -/
theorem siblings_share_declarations (s : Surface) (className : String) (j : BoundMethod)
    (hj : j.symbol ≠ "") :
    (∀ p, s.IsSibling className j p →
      s.arguments? .javascript className j = some p.args ∧
      s.Chosen className j.name (fun m => inputCount m = p.args.length)
        (s.method? .javascript className j) ∧
      (SameName j.name p.name →
        s.method? .javascript className j = s.method? .python className p)) ∧
    ((∀ p, ¬ s.IsSibling className j p) →
      s.Chosen className j.name (fun _ => False) (s.method? .javascript className j)) := by
  refine ⟨?_, ?_⟩
  · intro p hp
    have hargs : s.arguments? .javascript className j = some p.args := by
      rw [arguments?_javascript, (isSibling_iff hj).1 hp, Option.map_some]
    have hfits : (fun m => fits p.args m = true) = fun m => inputCount m = p.args.length := by
      funext m
      rw [fits, length_inputs, beq_iff_eq]
    have hscript : s.method? .javascript className j = s.searched className j.name (fits p.args) :=
      method?_of_known hargs
    have hother : s.method? .python className p = s.searched className p.name (fits p.args) :=
      method?_of_known rfl
    refine ⟨hargs, ?_, ?_⟩
    · rw [hscript, ← hfits]
      exact s.chosen_searched className j.name _
    · intro hname
      rw [hscript, hother, searched_congr hname]
  · intro hnone
    have hargs : s.arguments? .javascript className j = none := by
      rw [arguments?_javascript, Option.map_eq_none_iff, Option.eq_none_iff_forall_ne_some]
      intro p hp
      exact hnone p ((isSibling_iff hj).2 hp)
    have hscript : s.method? .javascript className j = s.searched className j.name fun _ => false := by
      have hnever : ∀ l : List Method, l.find? (fun _ => false) = none := fun l =>
        List.find?_eq_none.2 (by simp)
      rw [method?_of_unknown hargs]
      simp only [searched, hnever, Option.none_or]
    rw [hscript]
    simpa using s.chosen_searched className j.name fun _ => false

/-- A curve with two methods of one name, of which the second has a result as its third parameter. -/
def trimmedCurve : Model := Model.empty.addAll
  [.method "Rhino.Geometry.Curve" ⟨"Trim", "Curve", [⟨"domain", "Interval", .byValue⟩], false, none⟩,
    .method "Rhino.Geometry.Curve" ⟨"Trim", "Curve",
      [⟨"t0", "double", .byValue⟩, ⟨"t1", "double", .byValue⟩, ⟨"side", "int", .byOut⟩], false, none⟩]

/-- The curve in both dialects, with one native function under names that differ in case. -/
def trimBindings : BindingSet :=
  (BindingSet.empty.insert (.bound .javascript ⟨"Curve", none, [], [],
    [⟨"trim", false, "&BND_Curve::Trim", []⟩]⟩)).insert (.bound .python ⟨"curve", none, [], [],
    [⟨"Trim", false, "&BND_Curve::Trim", ["t0", "t1"]⟩, ⟨"Trim", false, "&BND_Curve::Trim", ["t"]⟩]⟩)

theorem siblings_share_declarations_trim :
    let s : Surface := ⟨trimmedCurve, trimBindings⟩
    let j : BoundMethod := ⟨"trim", false, "&BND_Curve::Trim", []⟩
    let p : BoundMethod := ⟨"Trim", false, "&BND_Curve::Trim", ["t0", "t1"]⟩
    j.symbol ≠ "" ∧ s.IsSibling "Curve" j p ∧ s.arguments? .javascript "Curve" j = some ["t0", "t1"] ∧
      s.method? .javascript "Curve" j = s.method? .python "Curve" p ∧
      (s.method? .python "Curve" p).map (·.params.length) = some 3 := by
  intro s j p
  have hj : j.symbol ≠ "" := by decide
  have hp : s.IsSibling "Curve" j p := (Surface.isSibling_iff hj).2 (by decide +kernel)
  obtain ⟨hargs, -, hsame⟩ := (siblings_share_declarations s "Curve" j hj).1 p hp
  exact ⟨hj, hp, hargs, hsame (by decide), by decide +kernel⟩

end BindingDocs
