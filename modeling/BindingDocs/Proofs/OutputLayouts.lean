import BindingDocs.Proofs.OutputLineFeeds

/-! How the outputs lay out a class: the declarations of its members, the parameters they show, and the
blocks of documentation between them. -/
namespace BindingDocs.Output
open BindingDocs.Documentation BindingDocs.Reference BindingDocs.Registration BindingDocs.Text

/-- How classes and their members are declared in an output. -/
structure Layout where
  /-- The blocks of documentation that may stand between declarations. -/
  Doc : List String → Prop
  opening (c : BoundClass) (isEmpty : Bool) : List String
  closing : List String
  Constructor (className : String) (code : List String) : Prop
  Property (name : String) (code : List String) : Prop
  Method (m : BoundMethod) (code : List String) : Prop
  /-- The order of the kinds of members. -/
  arrange (constructors properties methods : List String) : List String
  constructorCount (s : Surface) (c : BoundClass) : Nat
  properties (s : Surface) (c : BoundClass) : List String
  methods (s : Surface) (c : BoundClass) : List BoundMethod

/-- The code of a class: the declarations of the members that a layout shows, each kind in its
order. -/
def Layout.IsClass (L : Layout) (s : Surface) (c : BoundClass) (code : List String) : Prop :=
  ∃ ks ps ms : List (List String), ks.length = L.constructorCount s c ∧
    (∀ k ∈ ks, L.Constructor c.name k) ∧ List.Forall₂ L.Property (L.properties s c) ps ∧
    List.Forall₂ L.Method (L.methods s c) ms ∧
    code = L.opening c (ks.isEmpty && ps.isEmpty && ms.isEmpty) ++
      L.arrange ks.flatten ps.flatten ms.flatten ++ L.closing

/-- One constructor, if any registered one matches a declaration. -/
def oneConstructor (s : Surface) (c : BoundClass) : Nat :=
  if c.constructors.any fun types => (s.constructor? c.name types).isSome then 1 else 0

section
variable (s : Surface) (c : BoundClass)

lemma length_firstConstructor (f : Constructor → List String) :
    ((s.firstConstructor? c).toList.map f).length = oneConstructor s c := by
  cases hk : s.firstConstructor? c with
  | none =>
    have hnone : oneConstructor s c = 0 := by
      simpa [oneConstructor, Surface.firstConstructor?] using hk
    exact hnone.symm
  | some k =>
    obtain ⟨types, hmem, hsome⟩ := List.exists_of_findSome?_eq_some hk
    have hone : oneConstructor s c = 1 := by
      rw [oneConstructor, if_pos (List.any_eq_true.2 ⟨types, hmem, by simp [hsome]⟩)]
    exact hone.symm

lemma documented_firstConstructor {Doc : List String → Prop} {f code : Constructor → List String}
    (h : ∀ k, s.firstConstructor? c = some k → Documented Doc (f k) (code k)) :
    Documented Doc ((s.firstConstructor? c).elim [] f)
      ((s.firstConstructor? c).toList.map code).flatten := by
  cases hk : s.firstConstructor? c with
  | none => exact Documented.nil
  | some k => simpa using h k hk

end

/-- How an output shows a list of parameters: the name of each, what is said about it, and what stands
between two of them. -/
structure ParamStyle where
  separator : String
  name : String → String
  about : Parameter → String

/-- Parameters as they are shown, behind a receiver if there is one. -/
def ParamStyle.text (f : ParamStyle) (receiver : List String) (params : List Parameter) : String :=
  joinWith f.separator (receiver ++ params.map fun p => f.name p.name ++ f.about p)

/-- How an output declares constructors and methods around the parameters it shows. -/
structure Form where
  constructorParams : ParamStyle
  methodParams : ParamStyle
  receiver (isStatic : Bool) : List String
  constructor (params : String) : List String
  method (b : BoundMethod) (m : Method) (params : String) : List String

namespace Form

def constructorCode (f : Form) (params : List Parameter) : List String :=
  f.constructor (f.constructorParams.text (f.receiver false) params)

/-- The declaration of a bound method with the inputs of the declaration that it matches. -/
def methodCode (f : Form) (b : BoundMethod) (m : Method) : List String :=
  f.method b m (f.methodParams.text (f.receiver b.isStatic) (inputs m.params))

/-- The constructor of a class, if one matches, with some of its parameters. -/
def constructors (f : Form) (shown : Constructor → List Parameter) (s : Surface) (c : BoundClass) :
    List (List String) :=
  (s.firstConstructor? c).toList.map fun k => f.constructorCode (shown k)

lemma forall_constructors {f : Form} {R : List String → Prop} (h : ∀ params, R (f.constructorCode params))
    (shown : Constructor → List Parameter) (s : Surface) (c : BoundClass) :
    ∀ k ∈ f.constructors shown s c, R k := by
  intro code hcode
  obtain ⟨k, -, rfl⟩ := List.mem_map.1 hcode
  exact h _

/-- A method that matches a declaration shows the inputs of that declaration. -/
def ShowsInputs (f : Form) (d : Dialect) (s : Surface) (className : String) (b : BoundMethod)
    (code : List String) : Prop :=
  ∀ m, s.method? d className b = some m → code = f.methodCode b m

end Form

/-- The code of a class with given constructors, and with methods of which something more is known. -/
def Layout.Shows (L : Layout) (s : Surface) (ks : List (List String))
    (M : BoundMethod → List String → Prop) (c : BoundClass) (code : List String) : Prop :=
  ∃ ps ms : List (List String), List.Forall₂ L.Property (L.properties s c) ps ∧
    List.Forall₂ (fun b code => L.Method b code ∧ M b code) (L.methods s c) ms ∧
    code = L.opening c (ks.isEmpty && ps.isEmpty && ms.isEmpty) ++
      L.arrange ks.flatten ps.flatten ms.flatten ++ L.closing

lemma Layout.Shows.isClass {L : Layout} {s : Surface} {c : BoundClass} {ks : List (List String)}
    {M : BoundMethod → List String → Prop} {code : List String} (h : L.Shows s ks M c code)
    (count : ks.length = L.constructorCount s c) (declared : ∀ k ∈ ks, L.Constructor c.name k) :
    L.IsClass s c code := by
  obtain ⟨ps, ms, hps, hms, hcode⟩ := h
  exact ⟨ks, ps, ms, count, declared, hps, hms.imp fun _ _ h => h.1, hcode⟩

/-- Lines that begin with a mark. -/
abbrev Marked (mark : String) : List String → Prop := Each fun l => mark.toList <+: l.toList

/-- Lines of prose: blank, or behind a margin. -/
abbrev Indented (margin : String) : List String → Prop :=
  Each fun l => l = "" ∨ margin.toList <+: l.toList

lemma begins_append {mark head : String} (h : mark.toList <+: head.toList) (text : String) :
    mark.toList <+: (head ++ text).toList := by
  rw [String.toList_append]
  exact h.trans (List.prefix_append _ _)

/-- A comment in a script: each of its lines is marked, or it is a placeholder. -/
inductive ScriptComment (margin : String) : List String → Prop
  | placeholder : ScriptComment margin [margin ++ "/** ... */"]
  | block {ls} (marked : Marked (margin ++ " * ") ls) :
      ScriptComment margin ([margin ++ "/**"] ++ ls ++ [margin ++ " */"])

/-- Classes with documentation comments. -/
def scriptDoc : Layout where
  Doc block := ScriptComment "" block ∨ ScriptComment "  " block
  opening c _ := ["class " ++ c.name ++ " \x7b"]
  closing := ["\x7d"]
  Constructor _ code := ∃ params, code = ["  constructor(" ++ params ++ ")\x7b\x7d"]
  Property name code := code = ["  get " ++ name ++ "() \x7b return null;\x7d"]
  Method m code := ∃ params, code =
    [(if m.isStatic then "  static " else "  ") ++ m.name ++ "(" ++ params ++ ") \x7b  \x7d"]
  arrange ks ps ms := ks ++ ms ++ ps
  constructorCount := oneConstructor
  properties _ c := c.properties
  methods _ c := c.methods

def scriptDocForm : Form where
  constructorParams := ⟨",", id, fun _ => ""⟩
  methodParams := ⟨",", id, fun _ => ""⟩
  receiver _ := []
  constructor params := ["  constructor(" ++ params ++ ")\x7b\x7d"]
  method b _ params :=
    [(if b.isStatic then "  static " else "  ") ++ b.name ++ "(" ++ params ++ ") \x7b  \x7d"]

namespace ScriptDoc

lemma marked_descriptionLines (doc : Option Comment) : Marked "   * " (descriptionLines doc) := by
  unfold descriptionLines
  split
  · simp
  · simp

lemma marked_paramLines (doc : Option Comment) (params : List Parameter) :
    Marked "   * " (paramLines doc params) := by
  refine each_map fun p _ => ?_
  unfold paramLine
  split <;> simp

lemma marked_returnsLines (m : Method) : Marked "   * " (returnsLines m) := by
  unfold returnsLines
  split
  · simp
  · simp

lemma isDoc_block {ls : List String} (h : Marked "   * " ls) :
    scriptDoc.Doc (["  /**"] ++ ls ++ ["   */"]) := .inr (ScriptComment.block h)

lemma names_eq (params : List Parameter) :
    names params = joinWith "," ([] ++ (inputs params).map fun p => id p.name ++ "") := by
  simp [names]

lemma documented_constructor (k : Constructor) :
    Documented scriptDoc.Doc (constructorLines k) (scriptDocForm.constructorCode (inputs k.params)) := by
  have hmarked : Marked "   * " (descriptionLines k.doc ++ paramLines k.doc k.params) :=
    each_append.2 ⟨marked_descriptionLines k.doc, marked_paramLines k.doc k.params⟩
  have hcode : scriptDocForm.constructorCode (inputs k.params) =
      ["  constructor(" ++ names k.params ++ ")\x7b\x7d"] := by
    rw [names_eq]
    rfl
  rw [hcode]
  simpa [constructorLines] using Documented.fenced (isDoc_block hmarked) _

lemma isDoc_methodComment (m : Option Method) : scriptDoc.Doc (methodComment m) := by
  have hplaceholder : scriptDoc.Doc ["  /** ... */"] := .inr ScriptComment.placeholder
  unfold methodComment
  split
  · rename_i m
    split
    · have hmarked : Marked "   * " (descriptionLines m.doc ++ paramLines m.doc m.params ++
          returnsLines m) :=
        each_append.2 ⟨each_append.2 ⟨marked_descriptionLines _, marked_paramLines _ _⟩,
          marked_returnsLines m⟩
      simpa using isDoc_block hmarked
    · exact hplaceholder
  · exact hplaceholder

lemma documented_method (s : Surface) (className : String) (b : BoundMethod) :
    ∃ code, (scriptDoc.Method b code ∧ scriptDocForm.ShowsInputs .javascript s className b code) ∧
      Documented scriptDoc.Doc (methodLines s className b) code := by
  refine ⟨_, ⟨⟨_, rfl⟩, ?_⟩, Documented.doc (isDoc_methodComment _) (Documented.ofCode _)⟩
  intro m hm
  rw [hm]
  simp only [names_eq]
  rfl

lemma documented_property (s : Surface) (className name : String) :
    ∃ code, scriptDoc.Property name code ∧
      Documented scriptDoc.Doc (propertyLines s className name) code := by
  refine ⟨_, rfl, Documented.fenced (isDoc_block ?_) _⟩
  split
  · exact each_append.2 ⟨marked_descriptionLines _, by simp⟩
  · simp

lemma isDoc_classComment (s : Surface) (c : BoundClass) : scriptDoc.Doc (classComment s c) := by
  have hassoc : ∀ x y z : List String, ["/**"] ++ x ++ y ++ z ++ [" */"] =
      ["" ++ "/**"] ++ (x ++ y ++ z) ++ ["" ++ " */"] := by simp
  refine .inl ?_
  unfold classComment
  simp only
  rw [hassoc]
  refine ScriptComment.block (each_append.2 ⟨each_append.2 ⟨?_, ?_⟩, ?_⟩)
  · split
    · exact each_map fun l _ => by simp
    · simp
  · split <;> simp
  · split <;> simp

lemma classLines_eq (s : Surface) (c : BoundClass) : classLines s c =
    classComment s c ++ (["class " ++ c.name ++ " \x7b"] ++
      ((s.firstConstructor? c).elim [] constructorLines ++ c.methods.flatMap (methodLines s c.name) ++
        c.properties.flatMap (propertyLines s c.name)) ++ ["\x7d"]) := by
  unfold classLines
  cases s.firstConstructor? c <;> simp

/-- The constructor and the methods of a class show the inputs of the declarations they match. -/
lemma shows_class (s : Surface) (c : BoundClass) :
    ∃ code, scriptDoc.Shows s (scriptDocForm.constructors (inputs ·.params) s c)
        (scriptDocForm.ShowsInputs .javascript s c.name) c code ∧
      Documented scriptDoc.Doc (classLines s c) code := by
  have kdoc := documented_firstConstructor s c fun k _ => documented_constructor k
  obtain ⟨ms, hms, mdoc⟩ := Documented.flatMap fun m (_ : m ∈ c.methods) => documented_method s c.name m
  obtain ⟨ps, hps, pdoc⟩ :=
    Documented.flatMap fun p (_ : p ∈ c.properties) => documented_property s c.name p
  refine ⟨_, ⟨ps, ms, hps, hms, rfl⟩, ?_⟩
  rw [classLines_eq]
  exact Documented.doc (isDoc_classComment s c)
    (((Documented.ofCode _).append ((kdoc.append mdoc).append pdoc)).append (Documented.ofCode _))

end ScriptDoc

/-- Type declarations inside a module. -/
def scriptTypes : Layout where
  Doc block := ScriptComment "\t\t" block
  opening c _ := ["", "\tclass " ++ c.name ++
    (namedBase? c.base).elim "" (" extends " ++ ·) ++ " \x7b"]
  closing := ["\t\x7d"]
  Constructor _ code := ∃ params, code = ["", "\t\tconstructor(" ++ params ++ ");"]
  Property name code := ∃ type, code = ["\t\t" ++ name ++ ": " ++ type ++ ";"]
  Method m code := ∃ signature, code =
    [(if m.isStatic then "\t\tstatic " else "\t\t") ++ m.name ++ "(" ++ signature ++ ";"]
  arrange ks ps ms := ps ++ ks ++ ms
  constructorCount := oneConstructor
  properties _ c := c.properties
  methods _ c := c.methods

def scriptTypesForm : Form where
  constructorParams := ⟨", ", id, fun p => ": " ++ ScriptTypes.spell p.type⟩
  methodParams := ⟨",", id, fun p => ":" ++ ScriptTypes.spell p.type⟩
  receiver _ := []
  constructor params := ["", "\t\tconstructor(" ++ params ++ ");"]
  method b m params := [(if b.isStatic then "\t\tstatic " else "\t\t") ++ b.name ++
    ("(" ++ params ++ "): " ++ ScriptTypes.returnType m) ++ ";"]

/-- The values of an enumeration on their lines, with commas between them. -/
def valuesCode : List String → List String
  | [] => []
  | [v] => ["\t\t" ++ v]
  | v :: w :: vs => ("\t\t" ++ v ++ ",") :: valuesCode (w :: vs)

def enumCode (e : BoundEnum) : List String :=
  ["", "\tenum " ++ e.name ++ " \x7b"] ++ valuesCode e.values ++ ["\t\x7d"]

namespace ScriptTypes

lemma isDoc_block {ls : List String} (h : Marked "\t\t * " ls) :
    scriptTypes.Doc (["\t\t/**"] ++ ls ++ ["\t\t */"]) := ScriptComment.block h

lemma enumLines_eq (e : BoundEnum) : enumLines e = enumCode e := by
  have hvalues : ∀ vs : List String, (vs.dropLast.map fun v => "\t\t" ++ v ++ ",") ++
      (vs.getLast?.toList.map fun v => "\t\t" ++ v) = valuesCode vs := by
    intro vs
    induction vs with
    | nil => rfl
    | cons v vs ih =>
      cases vs with
      | nil => rfl
      | cons w vs =>
        rw [valuesCode, ← ih]
        simp
  rw [enumLines, enumCode, ← hvalues]

/-- All parameters of a constructor are shown, not only its inputs. -/
lemma documented_constructor (k : Constructor) :
    Documented scriptTypes.Doc (constructorLines k) (scriptTypesForm.constructorCode k.params) := by
  have hcode : constructorLines k = scriptTypesForm.constructorCode k.params := by
    simp [constructorLines, Form.constructorCode, ParamStyle.text, scriptTypesForm, String.append_assoc]
  rw [hcode]
  exact Documented.ofCode _

lemma isDoc_methodComment (m : Option Method) : scriptTypes.Doc (methodComment m) := by
  have hplaceholder : scriptTypes.Doc ["\t\t/** ... */"] := ScriptComment.placeholder
  unfold methodComment
  split
  · rename_i m
    split
    · rename_i doc _
      have hparams : Marked "\t\t * " ((inputs m.params).map (paramLine doc)) := by
        refine each_map fun p _ => ?_
        unfold paramLine
        split <;> simp
      have hassoc : ∀ x y z : List String, ["\t\t/**"] ++ x ++ y ++ z ++ ["\t\t */"] =
          ["\t\t/**"] ++ (x ++ y ++ z) ++ ["\t\t */"] := by simp
      unfold documentedMethod
      simp only
      rw [hassoc]
      refine isDoc_block (each_append.2 ⟨each_append.2 ⟨?_, hparams⟩, ?_⟩)
      · split <;> simp
      · split <;> simp
    · exact hplaceholder
  · exact hplaceholder

lemma documented_method (s : Surface) (className : String) (b : BoundMethod) :
    ∃ code, (scriptTypes.Method b code ∧ scriptTypesForm.ShowsInputs .javascript s className b code) ∧
      Documented scriptTypes.Doc (methodLines s className b) code := by
  have hsignature : ∀ x : Option Method, ∃ rest, signature x = "(" ++ rest := by
    intro x
    cases x with
    | none => exact ⟨"): void", rfl⟩
    | some x => exact ⟨_, by rw [signature, String.append_assoc, String.append_assoc]⟩
  refine ⟨_, ⟨?_, ?_⟩, Documented.doc (isDoc_methodComment _) (Documented.ofCode _)⟩
  · obtain ⟨rest, hrest⟩ := hsignature (s.method? .javascript className b)
    exact ⟨rest, by rw [hrest, ← String.append_assoc]⟩
  · intro m hm
    simp [hm, signature, Form.methodCode, ParamStyle.text, scriptTypesForm, String.append_assoc]

lemma documented_property (s : Surface) (className name : String) :
    Documented scriptTypes.Doc (propertyLines s className name)
      ["\t\t" ++ name ++ ": " ++ (s.property? className name).elim "any" (spell ·.type) ++ ";"] := by
  unfold propertyLines
  cases s.property? className name with
  | none => exact Documented.fenced (isDoc_block each_nil) _
  | some p =>
    refine Documented.fenced (isDoc_block ?_) _
    split
    · exact each_map fun l _ => by simp
    · simp

lemma classLines_eq (s : Surface) (c : BoundClass) : classLines s c =
    scriptTypes.opening c false ++ (c.properties.flatMap (propertyLines s c.name) ++
      (s.firstConstructor? c).elim [] constructorLines ++ c.methods.flatMap (methodLines s c.name)) ++
        ["\t\x7d"] := by
  have hheader : ["", classHeader c] = scriptTypes.opening c false := by
    cases hb : namedBase? c.base <;> simp [classHeader, scriptTypes, hb]
  unfold classLines
  rw [hheader]
  cases s.firstConstructor? c <;> simp

lemma shows_class (s : Surface) (c : BoundClass) :
    ∃ code, scriptTypes.Shows s (scriptTypesForm.constructors (·.params) s c)
        (scriptTypesForm.ShowsInputs .javascript s c.name) c code ∧
      Documented scriptTypes.Doc (classLines s c) code := by
  have kdoc := documented_firstConstructor s c fun k _ => documented_constructor k
  obtain ⟨ms, hms, mdoc⟩ := Documented.flatMap fun m (_ : m ∈ c.methods) => documented_method s c.name m
  obtain ⟨ps, hps, pdoc⟩ :=
    Documented.flatMap fun p (_ : p ∈ c.properties) =>
      (⟨_, ⟨_, rfl⟩, documented_property s c.name p⟩ : ∃ code, scriptTypes.Property p code ∧ _)
  refine ⟨_, ⟨ps, ms, hps, hms, rfl⟩, ?_⟩
  rw [classLines_eq]
  exact ((Documented.ofCode _).append ((pdoc.append kdoc).append mdoc)).append (Documented.ofCode _)

end ScriptTypes

namespace Pages

lemma indented_fieldLines {head : String} (lines : List String) (h : margin.toList <+: head.toList) :
    Indented margin (fieldLines head lines) := by
  match lines with
  | [] => simp [fieldLines]
  | [line] => exact each_cons.2 ⟨.inr (begins_append h line), each_nil⟩
  | line :: next :: rest =>
    have hinit : Indented margin ((next :: rest).dropLast.map fun l => deepMargin ++ l ++ " \\") :=
      each_map fun l _ => .inr <| by simp [margin, deepMargin]
    have hlast : Indented margin ((next :: rest).getLast?.toList.map fun l => deepMargin ++ l) :=
      each_map fun l _ => .inr <| by simp [margin, deepMargin]
    rw [fieldLines]
    · refine each_append.2 ⟨each_cons.2 ⟨.inr ?_, hinit⟩, hlast⟩
      rw [String.append_assoc]
      exact begins_append h _
    · simp

lemma indented_paramLines (doc : Comment) (p : Parameter) : Indented margin (paramLines doc p) := by
  unfold paramLines
  split
  · simp
  · rename_i text _
    have hfield : ∀ head : String, Indented margin (fieldLines (margin ++ head) (pageLines text)) :=
      fun head => indented_fieldLines _ (by simp)
    split
    · simp
    · simp only
      split
      · refine each_append.2 ⟨?_, by simp⟩
        rw [String.append_assoc, String.append_assoc]
        exact hfield _
      · simp only [String.append_assoc]
        exact hfield _

lemma indented_proseLines (text : String) : Indented margin (proseLines text) :=
  each_map fun l _ => .inr <| by simp

lemma indented_documentedMethod (b : BoundMethod) (m : Method) : Indented margin (documentedMethod b m) := by
  refine each_append.2 ⟨each_append.2 ⟨each_append.2 ⟨each_append.2 ⟨?_, ?_⟩, by simp⟩, ?_⟩, by simp⟩
  · split
    · exact indented_proseLines _
    · simp
  · split
    · unfold describedInputs
      simp only
      split
      · simpa using each_flatMap fun p _ => indented_paramLines _ p
      · simp
    · simp
  · split
    · exact indented_fieldLines _ (by simp)
    · simp

/-- The line of a directive, between the empty ones around it. -/
def directiveLine (kind text : String) : String := "   .. " ++ kind ++ ":: " ++ text

/-- The directive of a member that is called with some parameters. -/
def callDirective (kind name params : String) : String :=
  directiveLine kind (name ++ "(" ++ params ++ ")")

def constructorDirective (className : String) (params : List Parameter) : String :=
  callDirective "py:method" className (ParamStyle.text ⟨", ", id, fun _ => ""⟩ [] params)

def propertyDirective (name : String) : String := directiveLine "py:attribute" name

def methodDirective (m : BoundMethod) : String :=
  callDirective (if m.isStatic then "py:staticmethod" else "py:method") m.name (joinWith ", " m.args)

/-- A directive between two empty lines. -/
def setApart (l : String) : List String := ["", l, ""]

end Pages

/-- The directives of a page. Its prose is indented below them. -/
def pages (o : Options) : Layout where
  Doc := Indented Pages.margin
  opening c _ := [c.name, Pages.underline c.name, "", ".. py:module:: " ++ o.moduleName, "",
    ".. py:class:: " ++ c.name]
  closing := []
  Constructor className code := ∃ params, code =
    Pages.setApart (Pages.callDirective "py:method" className params)
  Property name code := code = Pages.setApart (Pages.propertyDirective name)
  Method m code := code = Pages.setApart (Pages.methodDirective m)
  arrange ks ps ms := ks ++ ps ++ ms
  constructorCount _ c := c.constructors.length
  properties _ c := c.properties
  methods _ c := c.methods

/-- The directive of a constructor. -/
def pageConstructor (className : String) (params : List Parameter) : List String :=
  Pages.setApart (Pages.constructorDirective className params)

/-- Every registered constructor of a class, with the inputs of the declaration that it matches. -/
def pageConstructors (s : Surface) (c : BoundClass) : List (List String) :=
  (s.constructors c).map fun k => pageConstructor c.name (k.2.elim [] (inputs ·.params))

namespace Pages

/-- A directive with prose below it. -/
lemma documented_directive {o : Options} {code prose : List String} (h : Indented margin prose) :
    Documented (pages o).Doc (code ++ prose) code := by
  have hdoc : (pages o).Doc prose := h
  simpa only [List.append_nil] using (Documented.ofCode code).append (Documented.ofDoc hdoc)

lemma documented_constructor (className : String) (k : Option Constructor) (o : Options) :
    Documented (pages o).Doc (constructorLines className k)
      (pageConstructor className (k.elim [] (inputs ·.params))) := by
  have hcode : ∀ params : List Parameter, pageConstructor className params =
      directive "py:method" (className ++ "(" ++ joinWith ", " (params.map (·.name)) ++ ")") := by
    simp [pageConstructor, constructorDirective, callDirective, directiveLine, setApart, directive,
      ParamStyle.text]
  have hlines : ∃ prose, constructorLines className k =
      pageConstructor className (k.elim [] (inputs ·.params)) ++ prose ∧ Indented margin prose := by
    rw [hcode]
    unfold constructorLines
    simp only [List.append_assoc]
    cases k with
    | none => exact ⟨_, rfl, by simp⟩
    | some k =>
      refine ⟨_, rfl, each_append.2 ⟨?_, each_append.2 ⟨by simp, ?_⟩⟩⟩
      · split
        · exact indented_proseLines _
        · simp
      · split
        · exact each_flatMap fun p _ => indented_paramLines _ p
        · simp
  obtain ⟨prose, hlines, hprose⟩ := hlines
  rw [hlines]
  exact documented_directive hprose

lemma documented_attribute (s : Surface) (className name : String) (o : Options) :
    ∃ code, (pages o).Property name code ∧
      Documented (pages o).Doc (attributeLines s className name) code := by
  refine ⟨directive "py:attribute" name, rfl, documented_directive ?_⟩
  split
  · split
    · split
      · simp
      · rename_i line rest _
        exact each_cons.2 ⟨.inr (by simp), each_map fun l _ => .inr <| by simp⟩
    · simp
  · simp

lemma documented_method (s : Surface) (className : String) (m : BoundMethod) (o : Options) :
    ∃ code, (pages o).Method m code ∧ Documented (pages o).Doc (methodLines s className m) code := by
  refine ⟨_, rfl, documented_directive ?_⟩
  split
  · exact indented_documentedMethod m _
  · simp

lemma shows_page (s : Surface) (o : Options) (c : BoundClass) :
    ∃ code, (pages o).Shows s (pageConstructors s c) (fun _ _ => True) c code ∧
      Documented (pages o).Doc (page s o c) code := by
  have kdoc : Documented (pages o).Doc ((s.constructors c).flatMap fun k => constructorLines c.name k.2)
      (pageConstructors s c).flatten := by
    rw [pageConstructors, ← List.flatMap_def]
    exact Documented.flatMapCode fun k _ => documented_constructor c.name k.2 o
  obtain ⟨ps, hps, pdoc⟩ :=
    Documented.flatMap fun p (_ : p ∈ c.properties) => documented_attribute s c.name p o
  obtain ⟨ms, hms, mdoc⟩ :=
    Documented.flatMap fun m (_ : m ∈ c.methods) => documented_method s c.name m o
  refine ⟨_, ⟨ps, ms, hps, hms.imp fun _ _ h => ⟨h, trivial⟩, rfl⟩, ?_⟩
  have hpage := (((Documented.ofCode (pageHeader o.moduleName c.name)).append kdoc).append pdoc).append mdoc
  simpa [pages, page, pageHeader] using hpage

end Pages

/-- The comments of a class and of its members. -/
def comments (r : Reference.Class) : List Comment :=
  r.doc.toList ++ r.constructors.filterMap (·.doc) ++ r.methods.filterMap (·.doc) ++
    r.properties.filterMap (·.doc)

/-- A comment of the reference. -/
def IsComment (s : Surface) (doc : Comment) : Prop := ∃ r ∈ s.reference.list, doc ∈ comments r

/-- Some summary has a line that would end a documentation string. -/
def QuotesInText (s : Surface) : Prop :=
  ∃ doc, IsComment s doc ∧ ∃ text ∈ doc.summary?, "\"\"\"" ∈ textLines text

/-- A line inside a documentation string: it does not end the string, unless the text has such a
line. -/
structure DocstringLine (s : Surface) (margin l : String) : Prop where
  indented : l = "" ∨ margin.toList <+: l.toList
  inside : l = margin ++ "\"\"\"" → QuotesInText s

/-- A documentation string, or a placeholder for one. -/
inductive Docstring (s : Surface) (margin : String) : List String → Prop
  | placeholder : Docstring s margin [margin ++ "\"\"\" ... \"\"\""]
  | block {ls} (inside : Each (DocstringLine s margin) ls) :
      Docstring s margin ([margin ++ "\"\"\""] ++ ls ++ [margin ++ "\"\"\""])

/-- Classes with empty members. -/
def skeleton (s : Surface) : Layout where
  Doc block := Docstring s "    " block ∨ Docstring s "        " block
  opening c _ := ["class " ++ c.name ++ (namedBase? c.base).elim "" ("(" ++ · ++ ")") ++ ":"]
  closing := [""]
  Constructor _ code := ∃ params, code =
    ["    def __init__(" ++ joinWith ", " ("self" :: params) ++ "):", "        pass"]
  Property name code := code =
    ["    @property", "    def " ++ name ++ "(self):", "        return None", ""]
  Method m code := ∃ params, code = (if m.isStatic then ["    @staticmethod"] else []) ++
    ["    def " ++ m.name ++ "(" ++ joinWith ", " ((if m.isStatic then [] else ["self"]) ++ params) ++
      "):", "        pass", ""]
  arrange ks ps ms := ks ++ ms ++ ps
  constructorCount := oneConstructor
  properties _ c := c.properties
  methods _ c := c.methods

def skeletonForm : Form where
  constructorParams := ⟨", ", safeName, fun _ => ""⟩
  methodParams := ⟨", ", safeName, fun _ => ""⟩
  receiver isStatic := if isStatic then [] else ["self"]
  constructor params := ["    def __init__(" ++ params ++ "):", "        pass"]
  method b _ params := (if b.isStatic then ["    @staticmethod"] else []) ++
    ["    def " ++ b.name ++ "(" ++ params ++ "):", "        pass", ""]

namespace Skeleton
variable {s : Surface}

lemma pad_one : pad 1 = "    " := by decide

lemma pad_two : pad 2 = "        " := by decide

lemma toList_pad_succ (level : Nat) :
    (pad (level + 1)).toList = (pad level).toList ++ List.replicate 4 ' ' := by
  simp only [pad, String.toList_ofList]
  rw [List.replicate_append_replicate, Nat.mul_succ]

/-- A line with a deeper margin never ends a documentation string. -/
lemma docstringLine_of_deeper {level : Nat} {l : String} (h : (pad (level + 1)).toList <+: l.toList) :
    DocstringLine s (pad level) l where
  indented := .inr ((toList_pad_succ level ▸ List.prefix_append _ _).trans h)
  inside := by
    rintro rfl
    have hlength := h.length_le
    rw [toList_pad_succ, String.toList_append, List.length_append, List.length_append] at hlength
    simp at hlength

lemma docstringLine_heading {text : String} (level : Nat) (h : text ≠ quotes) :
    DocstringLine s (pad level) (pad level ++ text) :=
  ⟨.inr (by simp), fun heq => absurd ((String.append_right_inj _).1 heq) h⟩

lemma docstringLine_blank (level : Nat) : DocstringLine s (pad level) "" :=
  ⟨.inl rfl, fun h => absurd (congrArg String.toList h) (by simp)⟩

lemma marked_headedLines {margin head rest : String} (text : String)
    (hh : margin.toList <+: head.toList) (hr : margin.toList <+: rest.toList) :
    Marked margin (headedLines head rest text) := by
  unfold headedLines
  split
  · simp
  · rename_i line lines _
    exact each_cons.2 ⟨begins_append hh line, each_map fun l _ => begins_append hr l⟩

lemma marked_paramLines (level : Nat) (doc : Comment) (p : Parameter) :
    Marked (pad level) (paramLines level doc p) := by
  unfold paramLines
  split
  · refine marked_headedLines _ ?_ (toList_pad_succ level ▸ List.prefix_append _ _)
    simp only [String.append_assoc]
    exact begins_append (List.prefix_refl _) _
  · simp

lemma docstring_docLines {doc : Comment} (hdoc : IsComment s doc) (level : Nat)
    (params : List Parameter) (returns : Option String) :
    Docstring s (pad level) (docLines level doc params returns) := by
  have hdeeper : ∀ {ls : List String}, Marked (pad (level + 1)) ls →
      Each (DocstringLine s (pad level)) ls := fun h l hl => docstringLine_of_deeper (h l hl)
  have hparams : ∀ ps : List Parameter,
      Each (DocstringLine s (pad level)) (ps.flatMap (paramLines (level + 1) doc)) :=
    fun ps => each_flatMap fun p _ => hdeeper (marked_paramLines (level + 1) doc p)
  have hassoc : ∀ x y z w : List String,
      [pad level ++ quotes] ++ x ++ y ++ z ++ w ++ [pad level ++ quotes] =
        [pad level ++ quotes] ++ (x ++ y ++ z ++ w) ++ [pad level ++ quotes] := by simp
  unfold docLines
  simp only
  rw [hassoc]
  refine Docstring.block (each_append.2 ⟨each_append.2 ⟨each_append.2 ⟨?_, ?_⟩, ?_⟩, hparams _⟩)
  · split
    · rename_i text htext
      refine each_map fun l hl => ⟨.inr (by simp), fun heq => ?_⟩
      obtain rfl := (String.append_right_inj _).1 heq
      exact ⟨doc, hdoc, text, htext, hl⟩
    · simp
  · split
    · exact each_append.2 ⟨each_cons.2 ⟨docstringLine_blank level,
        each_cons.2 ⟨docstringLine_heading level (by decide), each_nil⟩⟩, hparams _⟩
    · simp
  · split
    · refine each_append.2 ⟨each_cons.2 ⟨docstringLine_blank level,
        each_cons.2 ⟨docstringLine_heading level (by decide), each_nil⟩⟩, hdeeper ?_⟩
      refine marked_headedLines _ ?_ (List.prefix_refl _)
      rw [String.append_assoc]
      exact begins_append (List.prefix_refl _) _
    · simp

lemma isDoc_classDoc {block : List String} (h : Docstring s (pad 1) block) : (skeleton s).Doc block :=
  .inl (pad_one ▸ h)

lemma isDoc_memberDoc {block : List String} (h : Docstring s (pad 2) block) : (skeleton s).Doc block :=
  .inr (pad_two ▸ h)

lemma docstring_docOrPlaceholder {doc : Option Comment} (h : ∀ d ∈ doc, IsComment s d) (level : Nat) :
    Docstring s (pad level) (docOrPlaceholder level doc) := by
  cases doc with
  | none => exact Docstring.placeholder
  | some doc => exact docstring_docLines (h doc rfl) level [] none

lemma isComment_class (s : Surface) (name : String) :
    ∀ d ∈ (s.class? name).bind (·.doc), IsComment s d := by
  intro d hd
  obtain ⟨r, hr, hd⟩ := Option.bind_eq_some_iff.1 hd
  exact ⟨r, Surface.class?_mem hr, by simp [comments, hd]⟩

lemma isComment_constructor {c : BoundClass} {k : Constructor} {doc : Comment}
    (hk : s.firstConstructor? c = some k) (hdoc : k.doc = some doc) : IsComment s doc := by
  obtain ⟨r, hr, hk⟩ := Surface.firstConstructor?_mem hk
  have hmem : doc ∈ r.constructors.filterMap (·.doc) := List.mem_filterMap.2 ⟨k, hk, hdoc⟩
  exact ⟨r, hr, by simp only [comments, List.mem_append, hmem, or_true, true_or]⟩

lemma isComment_method {className : String} {b : BoundMethod} {m : Method} {doc : Comment}
    (hm : s.method? .python className b = some m) (hdoc : m.doc = some doc) : IsComment s doc := by
  obtain ⟨r, hr, hm⟩ := Surface.method?_mem hm
  have hmem : doc ∈ r.methods.filterMap (·.doc) := List.mem_filterMap.2 ⟨m, hm, hdoc⟩
  exact ⟨r, hr, by simp only [comments, List.mem_append, hmem, or_true, true_or]⟩

lemma isComment_property (s : Surface) (className name : String) :
    ∀ d ∈ (s.property? className name).bind (·.doc), IsComment s d := by
  intro d hd
  obtain ⟨p, hp, hd⟩ := Option.bind_eq_some_iff.1 hd
  obtain ⟨r, hr, hp⟩ := Surface.property?_mem hp
  have hmem : d ∈ r.properties.filterMap (·.doc) := List.mem_filterMap.2 ⟨p, hp, hd⟩
  exact ⟨r, hr, by simp only [comments, List.mem_append, hmem, or_true]⟩

lemma defLine_eq (name : String) (isStatic : Bool) (names : List String) :
    defLine name isStatic names = "    def " ++ name ++ "(" ++
      joinWith ", " ((if isStatic then [] else ["self"]) ++ names) ++ "):" := by
  simp [defLine, argList, pad_one]

lemma inputNames_eq (params : List Parameter) :
    (inputs params).map (safeName ·.name) = (inputs params).map fun p => safeName p.name ++ "" := by
  simp

lemma documented_constructor {c : BoundClass} {k : Constructor} (hk : s.firstConstructor? c = some k) :
    Documented (skeleton s).Doc (constructorLines k) (skeletonForm.constructorCode (inputs k.params)) := by
  have hcode : skeletonForm.constructorCode (inputs k.params) =
      [defLine "__init__" false ((inputs k.params).map (safeName ·.name)), pad 2 ++ "pass"] := by
    rw [defLine_eq, inputNames_eq, pad_two]
    rfl
  rw [hcode]
  unfold constructorLines
  cases hd : k.doc with
  | none => exact Documented.ofCode _
  | some doc =>
    have hdoc := isDoc_memberDoc (docstring_docLines (isComment_constructor hk hd) 2 k.params none)
    exact Documented.code _ (Documented.doc hdoc (Documented.ofCode _))

lemma documented_method (s : Surface) (className : String) (b : BoundMethod) :
    ∃ code, ((skeleton s).Method b code ∧ skeletonForm.ShowsInputs .python s className b code) ∧
      Documented (skeleton s).Doc (methodLines s className b) code := by
  have hmark : (if b.isStatic then [pad 1 ++ "@staticmethod"] else []) =
      if b.isStatic then ["    @staticmethod"] else [] := by simp [pad_one]
  have hend : [pad 2 ++ "pass", ""] = ["        pass", ""] := by simp [pad_two]
  unfold methodLines
  rw [hmark, hend]
  cases hm : s.method? .python className b with
  | none =>
    refine ⟨_, ⟨⟨b.args.map safeName, rfl⟩, fun m h => absurd (hm.symm.trans h) (by simp)⟩, ?_⟩
    rw [List.append_assoc]
    refine (Documented.ofCode _).append ?_
    rw [defLine_eq]
    exact Documented.code _ (Documented.doc (isDoc_memberDoc Docstring.placeholder) (Documented.ofCode _))
  | some x =>
    refine ⟨_, ⟨⟨(inputs x.params).map (safeName ·.name), rfl⟩, fun m h => ?_⟩, ?_⟩
    · obtain rfl : x = m := Option.some.inj (hm.symm.trans h)
      rw [inputNames_eq]
      rfl
    · rw [List.append_assoc]
      refine (Documented.ofCode _).append ?_
      simp only [defLine_eq]
      cases hd : x.doc with
      | none => exact Documented.ofCode _
      | some doc =>
        have hdoc := isDoc_memberDoc
          (docstring_docLines (isComment_method hm hd) 2 x.params (some x.returns))
        exact Documented.code _ (Documented.doc hdoc (Documented.ofCode _))

lemma documented_property (s : Surface) (className name : String) :
    ∃ code, (skeleton s).Property name code ∧
      Documented (skeleton s).Doc (propertyLines s className name) code := by
  have hdoc := isDoc_memberDoc (docstring_docOrPlaceholder (isComment_property s className name) 2)
  refine ⟨_, rfl, ?_⟩
  simpa [propertyLines, pad_one, pad_two] using
    Documented.code _ (Documented.code _ (Documented.doc hdoc (Documented.ofCode _)))

lemma opening_eq (s : Surface) (c : BoundClass) (isEmpty : Bool) :
    (skeleton s).opening c isEmpty = [classHeader c] := by
  cases hb : namedBase? c.base <;> simp [classHeader, skeleton, hb, String.append_assoc]

lemma classLines_eq (s : Surface) (c : BoundClass) : classLines s c =
    (skeleton s).opening c false ++ (docOrPlaceholder 1 ((s.class? c.name).bind (·.doc)) ++
      ((s.firstConstructor? c).elim [] constructorLines ++ c.methods.flatMap (methodLines s c.name) ++
        c.properties.flatMap (propertyLines s c.name)) ++ [""]) := by
  unfold classLines
  rw [opening_eq]
  cases s.firstConstructor? c <;> simp

lemma shows_class (s : Surface) (c : BoundClass) :
    ∃ code, (skeleton s).Shows s (skeletonForm.constructors (inputs ·.params) s c)
        (skeletonForm.ShowsInputs .python s c.name) c code ∧
      Documented (skeleton s).Doc (classLines s c) code := by
  have hdoc := isDoc_classDoc (docstring_docOrPlaceholder (isComment_class s c.name) 1)
  have kdoc := documented_firstConstructor s c fun k hk => documented_constructor hk
  obtain ⟨ms, hms, mdoc⟩ := Documented.flatMap fun m (_ : m ∈ c.methods) => documented_method s c.name m
  obtain ⟨ps, hps, pdoc⟩ :=
    Documented.flatMap fun p (_ : p ∈ c.properties) => documented_property s c.name p
  refine ⟨_, ⟨ps, ms, hps, hms, rfl⟩, ?_⟩
  rw [classLines_eq, List.append_assoc ((skeleton s).opening c _)]
  refine (Documented.ofCode _).append ?_
  rw [List.append_assoc (docOrPlaceholder 1 _)]
  exact Documented.doc hdoc (((kdoc.append mdoc).append pdoc).append (Documented.ofCode _))

end Skeleton

/-- The members that match a declaration, without documentation. -/
def hints : Layout where
  Doc _ := False
  opening c isEmpty := ["", "class " ++ c.name ++ if isEmpty then ": ..." else ":"]
  closing := []
  Constructor _ code := ∃ args, code = ["    def __init__(" ++ args ++ "): ..."]
  Property name code := ∃ type, code =
    ["    @property", "    def " ++ name ++ "(self) -> " ++ type ++ ": ..."]
  Method m code := ∃ args type, code = (if m.isStatic then ["    @staticmethod"] else []) ++
    ["    def " ++ m.name ++ "(" ++ args ++ ") -> " ++ type ++ ": ..."]
  arrange ks ps ms := ks ++ ps ++ ms
  constructorCount := oneConstructor
  properties s c := c.properties.filter fun p => (s.property? c.name p).isSome
  methods s c := c.methods.filter fun m => (s.method? .python c.name m).isSome

def hintsForm : Form where
  constructorParams := ⟨", ", safeName, fun p => ": " ++ Hints.spell p.type⟩
  methodParams := ⟨", ", safeName, fun p => ": " ++ Hints.spell p.type⟩
  receiver isStatic := if isStatic then [] else ["self"]
  constructor params := ["    def __init__(" ++ params ++ "): ..."]
  method b m params := (if b.isStatic then ["    @staticmethod"] else []) ++
    ["    def " ++ b.name ++ "(" ++ params ++ ") -> " ++ Hints.spell m.returns ++ ": ..."]

namespace Hints

lemma typedArgs_eq (isStatic : Bool) (params : List Parameter) : typedArgs isStatic params =
    hintsForm.methodParams.text (hintsForm.receiver isStatic) (inputs params) := by
  simp [typedArgs, ParamStyle.text, hintsForm, String.append_assoc]

/-- Items without lines can be left out. -/
lemma flatMap_filter_of_nil {α : Type} {f : α → List String} {p : α → Bool} (items : List α)
    (h : ∀ a, p a = false → f a = []) : items.flatMap f = (items.filter p).flatMap f := by
  induction items with
  | nil => rfl
  | cons a items ih =>
    cases hp : p a with
    | false => simp [hp, h a hp, ih]
    | true => simp [hp, ih]

lemma documented_property (s : Surface) {className name : String}
    (h : (s.property? className name).isSome) : ∃ code, hints.Property name code ∧
      Documented hints.Doc (propertyLines s className name) code := by
  obtain ⟨p, hp⟩ := Option.isSome_iff_exists.1 h
  refine ⟨_, ⟨spell p.type, rfl⟩, ?_⟩
  simpa [propertyLines, hp] using Documented.ofCode _

lemma documented_method (s : Surface) {className : String} {b : BoundMethod}
    (h : (s.method? .python className b).isSome) :
    ∃ code, (hints.Method b code ∧ hintsForm.ShowsInputs .python s className b code) ∧
      Documented hints.Doc (methodLines s className b) code := by
  obtain ⟨x, hx⟩ := Option.isSome_iff_exists.1 h
  refine ⟨_, ⟨⟨typedArgs b.isStatic x.params, spell x.returns, rfl⟩, fun m hm => ?_⟩, ?_⟩
  · obtain rfl : x = m := Option.some.inj (hx.symm.trans hm)
    rw [typedArgs_eq]
    rfl
  · simpa [methodLines, hx] using Documented.ofCode _

lemma eq_of_documented {ls code : List String} (h : Documented hints.Doc ls code) : ls = code := by
  induction h with
  | nil => rfl
  | doc isDoc => exact absurd isDoc id
  | code line _ ih => rw [ih]

/-- Only the members that match a declaration have lines. -/
lemma bodyLines_eq (s : Surface) (c : BoundClass) : bodyLines s c =
    (s.firstConstructor? c).elim []
      (fun k => ["    def __init__(" ++ typedArgs false k.params ++ "): ..."]) ++
    (hints.properties s c).flatMap (propertyLines s c.name) ++
    (hints.methods s c).flatMap (methodLines s c.name) := by
  have hp : c.properties.flatMap (propertyLines s c.name) =
      (hints.properties s c).flatMap (propertyLines s c.name) :=
    flatMap_filter_of_nil _ fun p hp => by
      have hnone : s.property? c.name p = none := by simpa using hp
      simp [propertyLines, hnone]
  have hm : c.methods.flatMap (methodLines s c.name) =
      (hints.methods s c).flatMap (methodLines s c.name) :=
    flatMap_filter_of_nil _ fun m hm => by
      have hnone : s.method? .python c.name m = none := by simpa using hm
      simp [methodLines, hnone]
  rw [bodyLines, hp, hm, constructorLines]
  cases s.firstConstructor? c <;> rfl

lemma flatten_eq_nil_iff {codes : List (List String)} (h : ∀ code ∈ codes, code ≠ []) :
    codes.flatten = [] ↔ codes = [] := by
  rw [List.flatten_eq_nil_iff]
  constructor
  · intro hnil
    exact List.eq_nil_iff_forall_not_mem.2 fun code hc => h code hc (hnil code hc)
  · rintro rfl
    simp

/-- Every declaration has a line, so only a class without members has an empty body. -/
lemma isEmpty_members {s : Surface} {c : BoundClass} {ks ps ms : List (List String)}
    (hks : ∀ k ∈ ks, hints.Constructor c.name k)
    (hps : List.Forall₂ hints.Property (hints.properties s c) ps)
    (hms : List.Forall₂ hints.Method (hints.methods s c) ms) :
    (ks.flatten ++ ps.flatten ++ ms.flatten).isEmpty = (ks.isEmpty && ps.isEmpty && ms.isEmpty) := by
  have hkn : ∀ code ∈ ks, code ≠ [] := by
    intro code hcode
    obtain ⟨args, rfl⟩ := hks code hcode
    simp
  have hpn : ∀ code ∈ ps, code ≠ [] := forall_of_forall₂ (hps.imp fun p code h => by
    obtain ⟨type, rfl⟩ := h
    simp)
  have hmn : ∀ code ∈ ms, code ≠ [] := forall_of_forall₂ (hms.imp fun m code h => by
    obtain ⟨args, type, rfl⟩ := h
    simp)
  rw [Bool.eq_iff_iff]
  simp only [Bool.and_eq_true, List.isEmpty_iff, List.append_eq_nil_iff, flatten_eq_nil_iff hkn,
    flatten_eq_nil_iff hpn, flatten_eq_nil_iff hmn]

lemma shows_class (s : Surface) (c : BoundClass) :
    ∃ code, hints.Shows s (hintsForm.constructors (inputs ·.params) s c)
        (hintsForm.ShowsInputs .python s c.name) c code ∧
      Documented hints.Doc (classLines s c) code := by
  have hconstructor : ∀ k : Constructor, Documented hints.Doc
      ["    def __init__(" ++ typedArgs false k.params ++ "): ..."]
      (hintsForm.constructorCode (inputs k.params)) := by
    intro k
    rw [typedArgs_eq]
    exact Documented.ofCode _
  have kdoc := documented_firstConstructor s c fun k _ => hconstructor k
  obtain ⟨ps, hps, pdoc⟩ := Documented.flatMap fun p (hp : p ∈ hints.properties s c) =>
    documented_property s (List.mem_filter.1 hp).2
  obtain ⟨ms, hms, mdoc⟩ := Documented.flatMap fun m (hm : m ∈ hints.methods s c) =>
    documented_method s (List.mem_filter.1 hm).2
  refine ⟨_, ⟨ps, ms, hps, hms, rfl⟩, ?_⟩
  have hbody : bodyLines s c =
      (hintsForm.constructors (inputs ·.params) s c).flatten ++ ps.flatten ++ ms.flatten := by
    rw [bodyLines_eq, eq_of_documented kdoc, eq_of_documented pdoc, eq_of_documented mdoc]
    rfl
  have hlines : classLines s c = hints.opening c (bodyLines s c).isEmpty ++ bodyLines s c := by
    unfold classLines
    cases bodyLines s c <;> simp [hints]
  rw [← isEmpty_members (Form.forall_constructors (fun _ => ⟨_, rfl⟩) _ s c) hps
    (hms.imp fun _ _ h => h.1), hlines, hbody]
  simpa [hints] using Documented.ofCode _

end Hints

end BindingDocs.Output
