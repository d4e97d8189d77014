import BindingDocs.Proofs.ScannerFailure

/-! Registration code as it is written for given declarations, and what each of its lines is read as. -/
namespace BindingDocs.Registration
open BindingDocs.Text Scanner

/-- Letters, digits and the underscore; beyond the basic alphabet, anything that is not blank. -/
def isWordChar (c : Char) : Bool := c.isAlphanum || c == '_' || (128 ≤ c.toNat && !isBlank c)

def IsIdentifier (s : String) : Prop := s ≠ "" ∧ ∀ c ∈ s.toList, isWordChar c = true

instance (s : String) : Decidable (IsIdentifier s) :=
  decidable_of_iff (s ≠ "" ∧ s.toList.all isWordChar = true) (by rw [IsIdentifier, List.all_eq_true])

/-- A reference to a native function: identifiers with double colons between them. -/
def IsSymbol (s : String) : Prop :=
  ∃ parts, parts ≠ [] ∧ (∀ p ∈ parts, IsIdentifier p) ∧ s = "&" ++ joinWith "::" parts

/-- A line with a name in quotes. -/
def quoting (before name after : String) : String := before ++ "\"" ++ name ++ "\"" ++ after

def classStart : Dialect → String
  | .javascript => "class_<BND_"
  | .python => "py::class_<BND_"

/-- The base that a declaration names, up to the name of the class in quotes. -/
def baseCode : Dialect → Option String → String
  | .javascript, none => ">("
  | .javascript, some b => ", base<BND_" ++ b ++ ">>("
  | .python, none => ">(m, "
  | .python, some b => ", BND_" ++ b ++ ">(m, "

def classHead (d : Dialect) (c : BoundClass) : String := classStart d ++ c.name ++ baseCode d c.base

def classLine (d : Dialect) (c : BoundClass) : String := quoting (classHead d c) c.name ")"

def enumLine (x : BoundEnum) : String := quoting ("enum_<" ++ x.name ++ ">(") x.name ")"

/-- A member of a class as code registers it. A property is bound to a symbol that is not kept. -/
inductive MemberCode where
  | constructor (types : List String)
  | property (name symbol : String)
  | method (m : BoundMethod)
  deriving Repr, DecidableEq

def constructorStart : Dialect → String
  | .javascript => ".constructor<"
  | .python => ".def(py::init<"

def constructorEnd : Dialect → String
  | .javascript => ">()"
  | .python => ">())"

def propertyHead : Dialect → String
  | .javascript => ".property("
  | .python => ".def_property("

/-- What stands before the name of a method. -/
def methodHead : Dialect → Bool → String
  | .javascript, false => ".function("
  | .javascript, true => ".class_function("
  | .python, false => ".def("
  | .python, true => ".def_static("

/-- The argument names of a method and the end of its line. -/
def argsCode : List String → String
  | [] => ")"
  | a :: as => quoting ", py::arg(" a (")" ++ argsCode as)

/-- The arguments that code names: only one dialect has names for them. -/
def namedArgs : Dialect → BoundMethod → List String
  | .javascript, _ => []
  | .python, m => m.args

/-- The line that registers a member. -/
def MemberCode.line (d : Dialect) : MemberCode → String
  | constructor types => constructorStart d ++ joinWith ", " types ++ constructorEnd d
  | property name symbol => quoting (propertyHead d) name (", " ++ symbol ++ ")")
  | method m =>
    quoting (methodHead d m.isStatic) m.name (", " ++ m.symbol ++ argsCode (namedArgs d m))

def valueLine (enumName value : String) : String :=
  quoting ".value(" value (", " ++ enumName ++ "::" ++ value ++ ")")

lemma isBlank_of_isWordChar {c : Char} (h : isWordChar c = true) : isBlank c = false := by
  by_contra hblank
  rw [Bool.not_eq_false] at hblank
  have hrange : c.isAlphanum = true ∨ c = '_' := by simpa [isWordChar, hblank] using h
  rcases hrange with halnum | rfl
  · rw [not_isBlank_of_isAlphanum halnum] at hblank
    cases hblank
  · exact absurd hblank (by decide)

namespace IsIdentifier
variable {s : String}

lemma not_mem (h : IsIdentifier s) {c : Char} (hc : isWordChar c = false) : c ∉ s.toList := by
  intro hm
  rw [h.2 c hm] at hc
  cases hc

lemma isBlank_eq_false (h : IsIdentifier s) {c : Char} (hc : c ∈ s.toList) : isBlank c = false :=
  isBlank_of_isWordChar (h.2 c hc)

/-- An identifier holds no mark with punctuation in it. -/
lemma unmarked (h : IsIdentifier s) (mark : List Char) {c : Char} (hm : c ∈ mark)
    (hc : isWordChar c = false) : contains mark s.toList = false :=
  contains_eq_false hm (h.not_mem hc)

end IsIdentifier

lemma mem_joinWith_colons {parts : List String} {c : Char} (h : c ∈ (joinWith "::" parts).toList) :
    c = ':' ∨ ∃ p ∈ parts, c ∈ p.toList := by
  induction parts with
  | nil => simp [joinWith] at h
  | cons p parts ih =>
    cases parts with
    | nil => exact .inr ⟨p, by simp, h⟩
    | cons q parts =>
      rw [joinWith, String.toList_append, String.toList_append, List.append_assoc] at h
      rcases List.mem_append.1 h with h | h
      · exact .inr ⟨p, by simp, h⟩
      · rcases List.mem_append.1 h with h | h
        · exact .inl (by simpa using h)
        · rcases ih h with h | ⟨r, hr, h⟩
          · exact .inl h
          · exact .inr ⟨r, List.mem_cons_of_mem _ hr, h⟩

namespace IsSymbol
variable {s : String}

/-- A symbol consists of an ampersand, word characters and colons. -/
lemma mem (h : IsSymbol s) {c : Char} (hc : c ∈ s.toList) :
    c = '&' ∨ c = ':' ∨ isWordChar c = true := by
  obtain ⟨parts, -, hparts, rfl⟩ := h
  rcases List.mem_append.1 (String.toList_append ▸ hc) with hc | hc
  · exact .inl (by simpa using hc)
  · rcases mem_joinWith_colons hc with hc | ⟨p, hp, hc⟩
    · exact .inr (.inl hc)
    · exact .inr (.inr ((hparts p hp).2 c hc))

lemma not_mem (h : IsSymbol s) {c : Char} (hc : isWordChar c = false) (hmark : c ∉ ['&', ':']) :
    c ∉ s.toList := by
  intro hm
  have := h.mem hm
  simp_all

lemma toList_eq (h : IsSymbol s) : ∃ body, s.toList = '&' :: body := by
  obtain ⟨parts, -, -, rfl⟩ := h
  exact ⟨(joinWith "::" parts).toList, by simp⟩

lemma trim_eq (h : IsSymbol s) : trim s.toList = s.toList := by
  refine trim_of_no_blanks fun c hc => ?_
  rcases h.mem hc with rfl | rfl | hw
  · decide
  · decide
  · exact isBlank_of_isWordChar hw

end IsSymbol

/-- A line that neither begins nor ends with a blank is classified as it stands. -/
lemma classify_eq {line : String} (p q : Char) (hp : line.toList.head? = some p)
    (hq : line.toList.getLast? = some q) (np : isBlank p = false) (nq : isBlank q = false) :
    classify line = kindOfTrimmed line.toList := by
  rw [classify, trim_eq_self]
  · simpa [hp] using np
  · simpa [hq] using nq

section
variable {before name after : String}

lemma toList_quoting (before name after : String) : (quoting before name after).toList =
    before.toList ++ '"' :: (name.toList ++ '"' :: after.toList) := by simp [quoting]

lemma classify_quoting (p q : Char) (hp : before.toList.head? = some p)
    (hq : after.toList.getLast? = some q) (np : isBlank p = false) (nq : isBlank q = false) :
    classify (quoting before name after) = kindOfTrimmed (quoting before name after).toList := by
  refine classify_eq p q ?_ ?_ np nq
  · simp [toList_quoting, List.head?_append, hp]
  · simp [toList_quoting, List.getLast?_append, List.getLast?_cons, hq]

lemma firstQuoted_quoting (hb : '"' ∉ before.toList) (hn : '"' ∉ name.toList) :
    firstQuoted (quoting before name after) = .ok name := by
  rw [firstQuoted, quotedIn, toList_quoting, cutOr, cutAt_append _ hb]
  simp [cutOr, cutAt_append _ hn, bind, Except.bind, pure, Except.pure]

/-- A mark without quotes stands before the name, in it or after it. -/
lemma contains_quoting {mark : List Char} (hm : '"' ∉ mark) :
    contains mark (quoting before name after).toList = (contains mark before.toList ||
      (contains mark name.toList || contains mark after.toList)) := by
  rw [toList_quoting, contains_append_cons hm, contains_append_cons hm]

end

section
variable {d : Dialect} {c : BoundClass}

lemma classify_classLine (d : Dialect) (c : BoundClass) : classify (classLine d c) = .classOpen d := by
  cases d with
  | javascript =>
    rw [classLine, classify_quoting 'c' ')' (by simp [classHead, classStart]) (by simp) (by decide)
      (by decide), toList_quoting]
    simp [classHead, classStart, kindOfTrimmed, starts]
  | python =>
    rw [classLine, classify_quoting 'p' ')' (by simp [classHead, classStart]) (by simp) (by decide)
      (by decide), toList_quoting]
    simp [classHead, classStart, kindOfTrimmed, starts]

lemma firstQuoted_classLine (hname : IsIdentifier c.name)
    (hbase : ∀ b, c.base = some b → IsIdentifier b) : firstQuoted (classLine d c) = .ok c.name := by
  have hn : '"' ∉ c.name.toList := hname.not_mem (by decide)
  refine firstQuoted_quoting ?_ hn
  cases hb : c.base with
  | none => cases d <;> simp [classHead, classStart, baseCode, hb, hn]
  | some b =>
    have hb' : '"' ∉ b.toList := (hbase b hb).not_mem (by decide)
    cases d <;> simp [classHead, classStart, baseCode, hb, hn, hb']

/-- A declaration without a base has no mark of one. -/
lemma contains_base (rest : List Char) {name : List Char} (hn : '<' ∉ name) (hr : '<' ∉ rest) :
    contains "base<BND_".toList ("class_<BND_".toList ++ name ++ rest) = false := by
  have hrest : contains "base<BND_".toList ("BND_".toList ++ name ++ rest) = false :=
    contains_eq_false (c := '<') (by decide) (by simp [hn, hr])
  simp [contains_cons, List.isPrefixOf] at hrest ⊢
  exact hrest

lemma baseClass_javascript (hname : IsIdentifier c.name)
    (hbase : ∀ b, c.base = some b → IsIdentifier b) :
    baseClass .javascript (classLine .javascript c) = .ok c.base := by
  rw [baseClass, classLine, toList_quoting]
  cases hb : c.base with
  | none =>
    have hn : '<' ∉ c.name.toList := hname.not_mem (by decide)
    have hnone := contains_base (">(".toList ++ '"' :: (c.name.toList ++ '"' :: ")".toList)) hn
      (by simp [hn])
    have hcut := cut_eq_none_iff.2 hnone
    simp only [classHead, classStart, baseCode, hb, String.toList_append, List.append_assoc] at hcut ⊢
    rw [hcut]
  | some b =>
    have hopen : contains "base<BND_".toList ("class_<BND_".toList ++ c.name.toList) = false := by
      simpa using contains_base [] (hname.not_mem (by decide)) (by simp)
    have hend : '>' ∉ b.toList := (hbase b hb).not_mem (by decide)
    have hline : (classHead .javascript c).toList ++ '"' :: (c.name.toList ++ '"' :: ")".toList) =
        ("class_<BND_".toList ++ c.name.toList) ++ ',' :: ([] ++ ' ' :: ("base<BND_".toList ++
          (b.toList ++ '>' :: (">(".toList ++ '"' :: (c.name.toList ++ '"' :: ")".toList))))) := by
      simp [classHead, classStart, baseCode, hb]
    rw [hline, cut_append_cons (by decide) _ _ hopen, cut_append_cons (by decide) _ _ (by decide),
      cut_self_append (by decide)]
    simp [cutOr, cutAt_append _ hend, bind, Except.bind, pure, Except.pure]

lemma baseClass_python (hname : IsIdentifier c.name)
    (hbase : ∀ b, c.base = some b → IsIdentifier b) :
    baseClass .python (classLine .python c) = .ok c.base := by
  have hn : ',' ∉ c.name.toList := hname.not_mem (by decide)
  rw [baseClass, classLine, toList_quoting]
  cases hb : c.base with
  | none =>
    have hline : (classHead .python c).toList ++ '"' :: (c.name.toList ++ '"' :: ")".toList) =
        ("py::class_<BND_".toList ++ c.name.toList ++ ">(m".toList) ++
          ',' :: (' ' :: '"' :: (c.name.toList ++ '"' :: ")".toList)) := by
      simp [classHead, classStart, baseCode, hb]
    have hend : '>' ∉ ' ' :: '"' :: (c.name.toList ++ '"' :: ")".toList) := by
      simp [hname.not_mem (c := '>') (by decide)]
    rw [hline, cutAt_append _ (by simp [hn])]
    simp only [Option.bind_eq_bind, Option.bind_some]
    cases hcut : cut "BND_".toList (' ' :: '"' :: (c.name.toList ++ '"' :: ")".toList)) with
    | none => rfl
    | some r =>
      have hafter : '>' ∉ r.2 := fun hm => hend (by rw [cut_eq_some hcut]; simp [hm])
      simp only [Option.bind_some, cutAt_eq_none_iff.2 hafter, Option.bind_none]
  | some b =>
    have hend : '>' ∉ b.toList := (hbase b hb).not_mem (by decide)
    have hline : (classHead .python c).toList ++ '"' :: (c.name.toList ++ '"' :: ")".toList) =
        ("py::class_<BND_".toList ++ c.name.toList) ++ ',' :: ([] ++ ' ' :: ("BND_".toList ++
          (b.toList ++ '>' :: ("(m, ".toList ++ '"' :: (c.name.toList ++ '"' :: ")".toList))))) := by
      simp [classHead, classStart, baseCode, hb]
    rw [hline, cutAt_append _ (by simp [hn])]
    simp only [Option.bind_eq_bind, Option.bind_some]
    rw [cut_append_cons (by decide) _ _ (by decide), cut_self_append (by decide)]
    simp [cutAt_append _ hend]

lemma declaration?_classLine (hname : IsIdentifier c.name)
    (hbase : ∀ b, c.base = some b → IsIdentifier b) :
    declaration? (classify (classLine d c)) (classLine d c) =
      some (.ok (.bound d ⟨c.name, c.base, [], [], []⟩)) := by
  have hb : baseClass d (classLine d c) = .ok c.base := by
    cases d with
    | javascript => exact baseClass_javascript hname hbase
    | python => exact baseClass_python hname hbase
  rw [classify_classLine, declaration?, firstQuoted_classLine hname hbase, hb]
  rfl

lemma declaration?_enumLine {x : BoundEnum} (hname : IsIdentifier x.name) :
    declaration? (classify (enumLine x)) (enumLine x) = some (.ok (.enumeration ⟨x.name, []⟩)) := by
  have hn : '"' ∉ x.name.toList := hname.not_mem (by decide)
  have hkind : classify (enumLine x) = .enumOpen := by
    rw [enumLine, classify_quoting 'e' ')' (by simp) (by simp) (by decide) (by decide),
      toList_quoting]
    simp [kindOfTrimmed, starts]
  rw [hkind, declaration?, enumLine, firstQuoted_quoting (by simp [hn]) hn]
  rfl

end

/-- A blank in front of a piece is trimmed away. -/
lemma map_trim_splitAt_cons {d c : Char} (s : List Char) (hblank : isBlank c = true) (hne : c ≠ d) :
    (splitAt d (c :: s)).map trim = (splitAt d s).map trim := by
  rw [splitAt, if_neg hne]
  cases h : splitAt d s with
  | nil => exact absurd h (splitAt_ne_nil d s)
  | cons p ps => simp [trim_cons_blank p hblank]

/-- The pieces of a list of identifiers. -/
lemma map_trim_splitAt_joinWith {ts : List String} (h : ∀ t ∈ ts, IsIdentifier t) (hne : ts ≠ []) :
    (splitAt ',' (joinWith ", " ts).toList).map trim = ts.map String.toList := by
  induction ts with
  | nil => exact absurd rfl hne
  | cons t ts ih =>
    have hcomma : ',' ∉ t.toList := (h t (by simp)).not_mem (by decide)
    have htrim : trim t.toList = t.toList :=
      trim_of_no_blanks fun c hc => (h t (by simp)).isBlank_eq_false hc
    cases ts with
    | nil => simp [joinWith, splitAt_of_not_mem hcomma, htrim]
    | cons u ts =>
      have hrest := ih (fun v hv => h v (List.mem_cons_of_mem _ hv)) (by simp)
      have hjoin : (joinWith ", " (t :: u :: ts)).toList =
          t.toList ++ ',' :: ' ' :: (joinWith ", " (u :: ts)).toList := by simp [joinWith]
      rw [hjoin, splitAt_append_cons _ hcomma, List.map_cons, htrim,
        map_trim_splitAt_cons _ (by decide) (by decide), hrest]
      rfl

lemma joinWith_ne_nil {t : String} (ts : List String) (h : IsIdentifier t) :
    (joinWith ", " (t :: ts)).toList ≠ [] := by
  cases ts with
  | nil => simpa [joinWith] using h.1
  | cons u ts => simp [joinWith]

/-- A list of identifiers neither begins nor ends with a blank. -/
lemma trim_joinWith {ts : List String} (h : ∀ t ∈ ts, IsIdentifier t) :
    trim (joinWith ", " ts).toList = (joinWith ", " ts).toList := by
  refine trim_eq_self ?_ ?_
  · cases ts with
    | nil => simp [joinWith]
    | cons t ts =>
      have ht := h t (by simp)
      obtain ⟨c, s, hs⟩ := List.exists_cons_of_ne_nil (l := t.toList) (by simpa using ht.1)
      have hc : isBlank c = false := ht.isBlank_eq_false (by simp [hs])
      cases ts <;> simp [joinWith, hs, hc]
  · induction ts with
    | nil => simp [joinWith]
    | cons t ts ih =>
      cases ts with
      | nil => exact fun c hc => (h t (by simp)).isBlank_eq_false (List.mem_of_getLast? hc)
      | cons u ts =>
        have hjoin : (joinWith ", " (t :: u :: ts)).toList =
            (t.toList ++ ", ".toList) ++ (joinWith ", " (u :: ts)).toList := by simp [joinWith]
        rw [hjoin, List.getLast?_append_of_ne_nil _ (joinWith_ne_nil ts (h u (by simp)))]
        exact ih fun v hv => h v (List.mem_cons_of_mem _ hv)

lemma not_mem_joinWith {ts : List String} {c : Char} (hc : isWordChar c = false)
    (hsep : c ∉ ", ".toList) (h : ∀ t ∈ ts, IsIdentifier t) : c ∉ (joinWith ", " ts).toList := by
  induction ts with
  | nil => simp [joinWith]
  | cons t ts ih =>
    have ht := (h t (by simp)).not_mem hc
    cases ts with
    | nil => exact ht
    | cons u ts =>
      have hrest := ih fun v hv => h v (List.mem_cons_of_mem _ hv)
      rw [joinWith, String.toList_append, String.toList_append]
      exact fun hm => (List.mem_append.1 hm).elim
        (fun hm => (List.mem_append.1 hm).elim ht hsep) hrest

/-- The tokens that name types: all but those with another reference name. -/
def IsTypeToken (t : String) : Prop := IsIdentifier t ∧ t ≠ "ON_3dPoint" ∧ t ≠ "ON_3dVector"

instance (t : String) : Decidable (IsTypeToken t) := inferInstanceAs (Decidable (_ ∧ _))

lemma normalizeType_eq {t : String} (h : IsTypeToken t) : normalizeType t = t := by
  obtain ⟨-, hpoint, hvector⟩ := h
  unfold normalizeType
  split <;> simp_all

/-- A list of type tokens behind its mark. -/
lemma constructorTypes_of_cut {line : String} {before rest : List Char} {ts : List String}
    (hcut : cut (typesMark line.toList) line.toList =
      some (before, (joinWith ", " ts).toList ++ '>' :: rest)) (h : ∀ t ∈ ts, IsTypeToken t) :
    constructorTypes line = .ok ts := by
  have hid : ∀ t ∈ ts, IsIdentifier t := fun t ht => (h t ht).1
  have hangle : '>' ∉ (joinWith ", " ts).toList := not_mem_joinWith (by decide) (by decide) hid
  rw [constructorTypes, typeListStart_eq, hcut]
  simp only [bind, Except.bind, cutOr, cutAt_append _ hangle, trim_joinWith hid]
  cases ts with
  | nil => rfl
  | cons t ts =>
    have hne := joinWith_ne_nil ts (hid t (by simp))
    have hpieces := map_trim_splitAt_joinWith hid (by simp)
    rw [if_neg (by simpa using hne)]
    have hnorm : ∀ u ∈ (t :: ts).map String.toList, normalizeType (String.ofList u) = String.ofList u := by
      intro u hu
      obtain ⟨v, hv, rfl⟩ := List.mem_map.1 hu
      simpa using normalizeType_eq (h v hv)
    calc pure ((splitAt ',' (joinWith ", " (t :: ts)).toList).map
          fun p => normalizeType (String.ofList (trim p)))
        = (.ok (((splitAt ',' (joinWith ", " (t :: ts)).toList).map trim).map
            fun p => normalizeType (String.ofList p)) : Found (List String)) := by
          rw [List.map_map]; rfl
      _ = .ok (((t :: ts).map String.toList).map String.ofList) := by
          rw [hpieces, List.map_congr_left hnorm]
      _ = .ok (t :: ts) := by simp [Function.comp_def]

/-- Where a line lacks an argument's mark, no argument name is found. -/
lemma argNamesIn_append_cons {sep : Char} (hsep : sep ∉ "py::arg".toList) (a b : List Char)
    (ha : contains "py::arg".toList a = false) : argNamesIn (a ++ sep :: b) = argNamesIn b := by
  induction a with
  | nil =>
    have hstart := isPrefixOf_append_cons hsep [] b
    rw [List.nil_append] at hstart ⊢
    rw [argNamesIn, starts, hstart]
    rfl
  | cons c a ih =>
    rw [contains_cons, Bool.or_eq_false_iff] at ha
    have hstart := isPrefixOf_append_cons hsep (c :: a) b
    rw [List.cons_append] at hstart ⊢
    rw [argNamesIn, starts, hstart, ha.1, ih ha.2]
    rfl

lemma argNamesIn_mark (rest : List Char) :
    argNamesIn ("py::arg".toList ++ rest) = (do
      let name ← quotedIn ("py::arg".toList ++ rest)
      pure (name :: (← argNamesIn ("y::arg".toList ++ rest)))) := by
  have hsplit : "py::arg".toList ++ rest = 'p' :: ("y::arg".toList ++ rest) := rfl
  have hstart : starts "py::arg" ('p' :: ("y::arg".toList ++ rest)) = true := by simp [starts]
  rw [hsplit, argNamesIn, if_pos hstart]

section
variable {args : List String}

lemma toList_argsCode_cons (a : String) (as : List String) : (argsCode (a :: as)).toList =
    ", ".toList ++ ("py::arg".toList ++ '(' :: '"' :: (a.toList ++ '"' :: ')' :: (argsCode as).toList)) := by
  simp [argsCode, toList_quoting]

lemma argNamesIn_argsCode (h : ∀ a ∈ args, IsIdentifier a) :
    argNamesIn (argsCode args).toList = .ok args := by
  induction args with
  | nil => rfl
  | cons a as ih =>
    have hrest := ih fun b hb => h b (List.mem_cons_of_mem _ hb)
    have ha := h a (by simp)
    have hq : '"' ∉ a.toList := ha.not_mem (by decide)
    have hname : quotedIn ("py::arg".toList ++ '(' :: '"' ::
        (a.toList ++ '"' :: ')' :: (argsCode as).toList)) = .ok a := by
      simp [quotedIn, cutOr, cutAt, cutAt_append _ hq, bind, Except.bind, pure, Except.pure]
    have hskip : argNamesIn ("y::arg".toList ++ '(' :: '"' ::
        (a.toList ++ '"' :: ')' :: (argsCode as).toList)) = .ok as := by
      rw [argNamesIn_append_cons (by decide) _ _ (by decide), ← List.nil_append ('"' :: _),
        argNamesIn_append_cons (by decide) _ _ (by decide),
        argNamesIn_append_cons (by decide) _ _ (ha.unmarked _ (c := ':') (by decide) (by decide)),
        ← List.nil_append (')' :: _), argNamesIn_append_cons (by decide) _ _ (by decide), hrest]
    have hfirst := argNamesIn_append_cons (by decide : ' ' ∉ "py::arg".toList) [','] ("py::arg".toList ++
      '(' :: '"' :: (a.toList ++ '"' :: ')' :: (argsCode as).toList)) (by decide)
    rw [toList_argsCode_cons]
    refine hfirst.trans ?_
    rw [argNamesIn_mark, hname, hskip]
    rfl

lemma contains_self_argsCode (h : ∀ a ∈ args, IsIdentifier a) :
    contains "py::self".toList (argsCode args).toList = false := by
  induction args with
  | nil => decide
  | cons a as ih =>
    have hrest := ih fun b hb => h b (List.mem_cons_of_mem _ hb)
    have hname := (h a (by simp)).unmarked "py::self".toList (c := ':') (by decide) (by decide)
    have hend : (")" ++ argsCode as).toList = [] ++ ')' :: (argsCode as).toList := by simp
    rw [argsCode, contains_quoting (by decide), hname, hend, contains_append_cons (by decide), hrest]
    decide

lemma not_mem_argsCode {c : Char} (hc : isWordChar c = false) (hmark : c ∉ ", py::arg(\")".toList)
    (h : ∀ a ∈ args, IsIdentifier a) : c ∉ (argsCode args).toList := by
  simp only [String.reduceToList, List.mem_cons, not_or] at hmark
  induction args with
  | nil => simp [argsCode, hmark]
  | cons a as ih =>
    have hrest := ih fun b hb => h b (List.mem_cons_of_mem _ hb)
    simp [toList_argsCode_cons, hmark, (h a (by simp)).not_mem hc, hrest]

lemma getLast?_argsCode (args : List String) : (argsCode args).toList.getLast? = some ')' := by
  induction args with
  | nil => rfl
  | cons a as ih => simp [toList_argsCode_cons, List.getLast?_append, List.getLast?_cons, ih]

/-- After its symbol a line ends with a parenthesis, or else goes on with a comma. -/
lemma argsCode_head (args : List String) :
    (argsCode args).toList = [')'] ∨ ∃ rest, (argsCode args).toList = ',' :: rest := by
  cases args with
  | nil => exact .inl rfl
  | cons a as => exact .inr ⟨_, toList_argsCode_cons a as⟩

lemma contains_self_symbol {symbol : String} (hs : contains "py::self".toList symbol.toList = false)
    (h : ∀ a ∈ args, IsIdentifier a) :
    contains "py::self".toList (", " ++ symbol ++ argsCode args).toList = false := by
  have hargs := contains_self_argsCode h
  have hline : (", " ++ symbol ++ argsCode args).toList =
      [','] ++ ' ' :: (symbol.toList ++ (argsCode args).toList) := by simp
  rw [hline, contains_append_cons (by decide)]
  rcases argsCode_head args with hend | ⟨rest, hrest⟩
  · rw [hend, contains_append_cons (by decide), hs]
    decide
  · rw [hrest, ← List.nil_append (',' :: rest), contains_append_cons (by decide)] at hargs
    rw [hrest, contains_append_cons (by decide), hs]
    exact hargs

end

/-- A name of a native function without the mark of an operator or of an argument. -/
structure IsPlainSymbol (s : String) : Prop where
  symbol : IsSymbol s
  operator : holds "py::self" s.toList = false
  argument : holds "py::arg" s.toList = false

structure IsPlainMethod (d : Dialect) (m : BoundMethod) : Prop where
  name : IsIdentifier m.name
  symbol : IsPlainSymbol m.symbol
  args : ∀ a ∈ m.args, IsIdentifier a
  named : namedArgs d m = m.args

namespace IsPlainMethod
variable {d : Dialect} {m : BoundMethod} (h : IsPlainMethod d m)
include h

lemma line_eq : (MemberCode.method m).line d =
    quoting (methodHead d m.isStatic) m.name (", " ++ m.symbol ++ argsCode m.args) := by
  rw [MemberCode.line, h.named]

lemma classify_line : classify ((MemberCode.method m).line d) = .method m.isStatic := by
  have hinit : holds "py::init<" ((MemberCode.method m).line d).toList = false := by
    have hname : '<' ∉ m.name.toList := h.name.not_mem (by decide)
    have hsymbol : '<' ∉ m.symbol.toList := h.symbol.symbol.not_mem (by decide) (by decide)
    have hargs : '<' ∉ (argsCode m.args).toList := not_mem_argsCode (by decide) (by decide) h.args
    refine contains_eq_false (c := '<') (by decide) ?_
    rw [h.line_eq, toList_quoting]
    cases d <;> cases m.isStatic <;> simp [methodHead, hname, hsymbol, hargs]
  have hself : holds "py::self" ((MemberCode.method m).line d).toList = false := by
    have hhead : contains "py::self".toList (methodHead d m.isStatic).toList = false := by
      cases d <;> cases m.isStatic <;> decide
    rw [h.line_eq, holds, contains_quoting (by decide), hhead,
      h.name.unmarked _ (c := ':') (by decide) (by decide),
      contains_self_symbol h.symbol.operator h.args]
    rfl
  rw [h.line_eq] at hinit hself ⊢
  rw [classify_quoting '.' ')' _ _ (by decide) (by decide)]
  · rw [kindOfTrimmed, hinit, hself, toList_quoting]
    cases d <;> cases m.isStatic <;> simp [methodHead, starts]
  · cases d <;> cases m.isStatic <;> rfl
  · rw [String.toList_append, List.getLast?_append, getLast?_argsCode]
    rfl

lemma firstQuoted_line : firstQuoted ((MemberCode.method m).line d) = .ok m.name := by
  rw [h.line_eq]
  refine firstQuoted_quoting ?_ (h.name.not_mem (by decide))
  cases d <;> cases m.isStatic <;> decide

lemma nativeSymbol_line : nativeSymbol ((MemberCode.method m).line d) = .ok m.symbol := by
  have hsymbol := h.symbol.symbol
  obtain ⟨body, hbody⟩ := hsymbol.toList_eq
  have hinner {c : Char} (hc : c ∉ m.symbol.toList) : c ∉ body := fun hm => hc (by simp [hbody, hm])
  have hcomma : ',' ∉ body := hinner (hsymbol.not_mem (by decide) (by decide))
  have hparen : ')' ∉ body := hinner (hsymbol.not_mem (by decide) (by decide))
  have hname : '&' ∉ m.name.toList := h.name.not_mem (by decide)
  have hline : ((MemberCode.method m).line d).toList = ((methodHead d m.isStatic).toList ++
      '"' :: (m.name.toList ++ "\", ".toList)) ++ '&' :: (body ++ (argsCode m.args).toList) := by
    simp [h.line_eq, toList_quoting, hbody]
  have hbefore : '&' ∉ (methodHead d m.isStatic).toList ++ '"' :: (m.name.toList ++ "\", ".toList) := by
    cases d <;> cases m.isStatic <;> simp [methodHead, hname]
  have hread : String.ofList (trim ('&' :: body)) = m.symbol := by simp [← hbody, hsymbol.trim_eq]
  rw [nativeSymbol, hline, cutAt_append _ hbefore]
  rcases argsCode_head m.args with hend | ⟨rest, hrest⟩
  · have hnone : cutAt ',' (body ++ [')']) = none := cutAt_eq_none_iff.2 (by simp [hcomma])
    simp [hend, hnone, cutOr, cutAt_append _ hparen, hread, bind, Except.bind, pure, Except.pure]
  · simp [hrest, cutAt_append _ hcomma, hread, bind, Except.bind, pure, Except.pure]

lemma argNames_line : argNames ((MemberCode.method m).line d) = .ok m.args := by
  have hhead : contains "py::arg".toList (methodHead d m.isStatic).toList = false := by
    cases d <;> cases m.isStatic <;> decide
  have hline : (", " ++ m.symbol ++ argsCode m.args).toList =
      [','] ++ ' ' :: (m.symbol.toList ++ (argsCode m.args).toList) := by simp
  have hargs := argNamesIn_argsCode h.args
  rw [argNames, h.line_eq, toList_quoting, argNamesIn_append_cons (by decide) _ _ hhead,
    argNamesIn_append_cons (by decide) _ _ (h.name.unmarked _ (c := ':') (by decide) (by decide)),
    hline, argNamesIn_append_cons (by decide) _ _ (by decide)]
  rcases argsCode_head m.args with hend | ⟨rest, hrest⟩
  · rw [hend] at hargs ⊢
    rw [argNamesIn_append_cons (by decide) _ _ h.symbol.argument]
    exact hargs
  · rw [hrest, ← List.nil_append (',' :: rest), argNamesIn_append_cons (by decide) _ _ (by decide)] at hargs
    rw [hrest, argNamesIn_append_cons (by decide) _ _ h.symbol.argument, hargs]

end IsPlainMethod

section
variable {d : Dialect}

lemma toList_constructorLine_javascript (types : List String) :
    ((MemberCode.constructor types).line .javascript).toList =
      ".constructor".toList ++ '<' :: ((joinWith ", " types).toList ++ '>' :: "()".toList) := by
  simp [MemberCode.line, constructorStart, constructorEnd]

lemma toList_constructorLine_python (types : List String) :
    ((MemberCode.constructor types).line .python).toList = ".def".toList ++
      '(' :: ("py::init<".toList ++ ((joinWith ", " types).toList ++ '>' :: "())".toList)) := by
  simp [MemberCode.line, constructorStart, constructorEnd]

lemma cut_init_constructorLine (types : List String) :
    cut "py::init<".toList ((MemberCode.constructor types).line .python).toList =
      some (".def(".toList, (joinWith ", " types).toList ++ '>' :: "())".toList) := by
  rw [toList_constructorLine_python, cut_append_cons (by decide) _ _ (by decide),
    cut_self_append (by decide)]
  rfl

lemma classify_constructorLine (d : Dialect) (types : List String) :
    classify ((MemberCode.constructor types).line d) = .constructor := by
  cases d with
  | javascript =>
    have hline := toList_constructorLine_javascript types
    rw [classify_eq '.' ')' (by simp [hline])
      (by simp [hline, List.getLast?_append, List.getLast?_cons]) (by decide) (by decide), hline]
    simp [kindOfTrimmed, starts]
  | python =>
    have hline := toList_constructorLine_python types
    have hinit : holds "py::init<" ((MemberCode.constructor types).line .python).toList = true := by
      rw [holds, contains, cut_init_constructorLine]
      rfl
    rw [classify_eq '.' ')' (by simp [hline])
      (by simp [hline, List.getLast?_append, List.getLast?_cons]) (by decide) (by decide),
      kindOfTrimmed, hinit, hline]
    simp [starts]

lemma constructorTypes_line {types : List String} (h : ∀ t ∈ types, IsTypeToken t) :
    constructorTypes ((MemberCode.constructor types).line d) = .ok types := by
  cases d with
  | javascript =>
    have hline := toList_constructorLine_javascript types
    have hmark : typesMark ((MemberCode.constructor types).line .javascript).toList = ['<'] := by
      simp [typesMark, hline, starts]
    have hcut : cut ['<'] ((MemberCode.constructor types).line .javascript).toList =
        some (".constructor".toList, (joinWith ", " types).toList ++ '>' :: "()".toList) := by
      rw [cut_singleton, hline, cutAt_append _ (by decide)]
    exact constructorTypes_of_cut (hmark ▸ hcut) h
  | python =>
    have hline := toList_constructorLine_python types
    have hcut := cut_init_constructorLine types
    have hstarts : starts ".constructor" ((MemberCode.constructor types).line .python).toList = false := by
      simp [hline, starts, List.isPrefixOf]
    have hmark : typesMark ((MemberCode.constructor types).line .python).toList =
        "py::init<".toList := by
      rw [typesMark, holds, contains, hcut, hstarts]
      rfl
    exact constructorTypes_of_cut (hmark ▸ hcut) h

lemma classify_propertyLine {name symbol : String} (hn : IsIdentifier name) (hs : IsSymbol symbol) :
    classify ((MemberCode.property name symbol).line d) = .property := by
  have hname : '<' ∉ name.toList := hn.not_mem (by decide)
  have hsymbol : '<' ∉ symbol.toList := hs.not_mem (by decide) (by decide)
  have hinit : holds "py::init<" ((MemberCode.property name symbol).line d).toList = false := by
    refine contains_eq_false (c := '<') (by decide) ?_
    cases d <;> simp [MemberCode.line, propertyHead, toList_quoting, hname, hsymbol]
  have hlast : (", " ++ symbol ++ ")").toList.getLast? = some ')' := by
    rw [String.toList_append, List.getLast?_append]
    rfl
  rw [MemberCode.line] at hinit ⊢
  rw [classify_quoting '.' ')' (by cases d <;> rfl) hlast (by decide) (by decide), kindOfTrimmed,
    hinit, toList_quoting]
  cases d <;> simp [propertyHead, starts, List.isPrefixOf]

lemma firstQuoted_propertyLine {name symbol : String} (hn : IsIdentifier name) :
    firstQuoted ((MemberCode.property name symbol).line d) = .ok name := by
  rw [MemberCode.line]
  exact firstQuoted_quoting (by cases d <;> decide) (hn.not_mem (by decide))

end

/-- Whether an enumeration and a value of it spell the mark of an operator together. -/
def readsAsOperator (enumName value : String) : Bool :=
  "py".toList.isSuffixOf enumName.toList && "self".toList.isPrefixOf value.toList

lemma isPrefixOf_self_qualified {e : List Char} (v : List Char) (he : ':' ∉ e) :
    "py::self".toList.isPrefixOf (e ++ "::".toList ++ v) = true ↔
      "py".toList = e ∧ "self".toList.isPrefixOf v = true := by
  rcases e with _ | ⟨c, _ | ⟨d, _ | ⟨f, e⟩⟩⟩
  · simp
  · simp
  · simp [List.isPrefixOf, and_assoc]
  · have hf : f ≠ ':' := fun h => he (by simp [h])
    simp [List.isPrefixOf, Ne.symm hf]

/-- The mark of an operator can only stand across the double colon of a qualified value. -/
lemma contains_self_qualified {e v : List Char} (he : ':' ∉ e) (hv : ':' ∉ v) :
    contains "py::self".toList (e ++ "::".toList ++ v) = true ↔
      "py".toList <:+ e ∧ "self".toList.isPrefixOf v = true := by
  induction e with
  | nil =>
    have hrest : contains "py::self".toList v = false := contains_eq_false (c := ':') (by decide) hv
    simp [contains_cons, List.isPrefixOf] at hrest ⊢
    exact hrest
  | cons c e ih =>
    have hstart := isPrefixOf_self_qualified v he
    have he' : ':' ∉ e := fun hm => he (List.mem_cons_of_mem _ hm)
    rw [List.cons_append, List.cons_append] at hstart ⊢
    rw [contains_cons, Bool.or_eq_true, hstart, ih he', List.suffix_cons_iff, or_and_right]

lemma classify_valueLine {e v : String} (he : IsIdentifier e) (hv : IsIdentifier v) :
    classify (valueLine e v) = if readsAsOperator e v then .operator else .value := by
  have hinit : holds "py::init<" (valueLine e v).toList = false := by
    have hev : '<' ∉ e.toList ∧ '<' ∉ v.toList := ⟨he.not_mem (by decide), hv.not_mem (by decide)⟩
    refine contains_eq_false (c := '<') (by decide) ?_
    simp [valueLine, toList_quoting, hev]
  have hself : holds "py::self" (valueLine e v).toList = readsAsOperator e v := by
    have hqual := contains_self_qualified (he.not_mem (c := ':') (by decide))
      (hv.not_mem (c := ':') (by decide))
    have hafter : (", " ++ e ++ "::" ++ v ++ ")").toList =
        [','] ++ ' ' :: ((e.toList ++ "::".toList ++ v.toList) ++ ')' :: []) := by simp
    rw [holds, valueLine, contains_quoting (by decide), hv.unmarked _ (c := ':') (by decide) (by decide),
      hafter, contains_append_cons (by decide), contains_append_cons (by decide),
      show contains "py::self".toList ".value(".toList = false by decide,
      show contains "py::self".toList [','] = false by decide,
      show contains "py::self".toList [] = false by decide]
    simp only [Bool.false_or, Bool.or_false]
    rw [Bool.eq_iff_iff, hqual, readsAsOperator, Bool.and_eq_true, List.isSuffixOf_iff_suffix]
  rw [valueLine] at hinit hself ⊢
  rw [classify_quoting '.' ')' (by simp) _ (by decide) (by decide), kindOfTrimmed, hinit,
    hself, toList_quoting]
  · simp [starts, List.isPrefixOf]
  · rw [String.toList_append, List.getLast?_append]
    rfl

lemma firstQuoted_valueLine {e v : String} (hv : IsIdentifier v) :
    firstQuoted (valueLine e v) = .ok v :=
  firstQuoted_quoting (by decide) (hv.not_mem (by decide))

end BindingDocs.Registration
