import BindingDocs.Markup.Tree
import BindingDocs.Proofs.TextSearch

/-! Written markup: texts and values whose marks are written by reference, tags around them, and the
pieces that are read from them again. -/
namespace BindingDocs
open BindingDocs.Text

namespace Reader
variable {α β : Type}

section
variable {s r : List Char} {a : α}

lemma bind_of_some {x : Reader α} (h : x s = some (a, r)) (f : α → Reader β) : (x >>= f) s = f a r := by
  change (x s).bind _ = _
  rw [h]
  rfl

lemma bind_of_none {x : Reader α} (h : x s = none) (f : α → Reader β) : (x >>= f) s = none := by
  change (x s).bind _ = _
  rw [h]
  rfl

lemma orElse_of_some {x : Reader α} (h : x s = some (a, r)) (y : Reader α) :
    (x <|> y) s = some (a, r) := by
  change (x s <|> y s) = _
  rw [h]
  rfl

lemma orElse_of_none {x : Reader α} (h : x s = none) (y : Reader α) : (x <|> y) s = y s := by
  change (x s <|> y s) = _
  rw [h]
  rfl

lemma guard_of_true {p : Prop} [Decidable p] (h : p) : (guard p : Reader Unit) s = some ((), s) := by
  rw [guard, if_pos h]
  rfl

lemma guard_of_false {p : Prop} [Decidable p] (h : ¬ p) : (guard p : Reader Unit) s = none := by
  rw [guard, if_neg h]
  rfl

lemma lift_of_some {o : Option α} (h : o = some a) : (liftM o : Reader α) s = some (a, s) := by
  rw [h]
  rfl

end

/-- A reader takes items off the front of a text, at least one character for each, until it fails. -/
inductive Takes (p : Reader α) : List Char → List α → List Char → Prop
  | done {s} (fails : p s = none) : Takes p s [] s
  | step {s a r as rest} (first : p s = some (a, r)) (shorter : r.length < s.length)
      (more : Takes p r as rest) : Takes p s (a :: as) rest

/-- The length of a text is enough for the items in it. -/
lemma Takes.upTo_eq {p : Reader α} {s rest : List Char} {as : List α} (h : Takes p s as rest) {n : Nat}
    (hn : s.length ≤ n) : upTo p n s = some (as, rest) := by
  induction h generalizing n with
  | done fails =>
    cases n with
    | zero => rfl
    | succ n => exact orElse_of_none (bind_of_none fails _) _
  | step first shorter _ ih =>
    obtain ⟨n, rfl⟩ : ∃ m, n = m + 1 := ⟨n - 1, by omega⟩
    refine orElse_of_some ?_ _
    rw [bind_of_some first, bind_of_some (ih (by omega))]
    rfl

lemma Takes.many_eq {p : Reader α} {s rest : List Char} {as : List α} (h : Takes p s as rest) :
    many p s = some (as, rest) :=
  h.upTo_eq (Nat.le_refl _)

end Reader

namespace Markup
open Reader

/-- The characters that are written by reference, with their names. -/
def references : List (Char × String) :=
  [('&', "amp"), ('<', "lt"), ('>', "gt"), ('"', "quot"), ('\'', "apos")]

def escapeChar (c : Char) : List Char :=
  match references.find? (·.1 = c) with
  | some (_, name) => '&' :: name.toList ++ [';']
  | none => [c]

def escape (s : List Char) : List Char := s.flatMap escapeChar

lemma escapeChar_cases (c : Char) :
    (∃ name, (c, name) ∈ references ∧ escapeChar c = '&' :: name.toList ++ [';']) ∨
      (c ∉ references.map Prod.fst ∧ escapeChar c = [c]) := by
  cases h : references.find? (·.1 = c) with
  | some entry =>
    obtain ⟨d, name⟩ := entry
    obtain rfl : d = c := by simpa using List.find?_some h
    exact .inl ⟨name, List.mem_of_find?_eq_some h, by simp only [escapeChar, h]⟩
  | none =>
    refine .inr ⟨fun hmem => ?_, by simp only [escapeChar, h]⟩
    obtain ⟨entry, hentry, rfl⟩ := List.mem_map.1 hmem
    simpa using List.find?_eq_none.1 h entry hentry

lemma reference?_name {c : Char} {name : String} (h : (c, name) ∈ references) (r : List Char) :
    reference? (name.toList ++ ';' :: r) = some (c, r) := by
  simp only [references, List.mem_cons, Prod.mk.injEq, List.not_mem_nil, or_false] at h
  rcases h with ⟨rfl, rfl⟩ | ⟨rfl, rfl⟩ | ⟨rfl, rfl⟩ | ⟨rfl, rfl⟩ | ⟨rfl, rfl⟩ <;> rfl

/-- What is written for a character is read as the character. -/
lemma expandText_escapeChar {c : Char} (hc : c ≠ '\r') (n : Nat) (r : List Char) :
    expandText (n + 1) (escapeChar c ++ r) = (expandText n r).map (c :: ·) := by
  rcases escapeChar_cases c with ⟨name, hname, hwritten⟩ | ⟨hplain, hwritten⟩
  · have hstart : escapeChar c ++ r = '&' :: (name.toList ++ ';' :: r) := by simp [hwritten]
    rw [hstart, expandText, reference?_name hname]
    rfl
  · have hamp : c ≠ '&' := by
      rintro rfl
      exact hplain (by decide)
    rw [hwritten, List.singleton_append, expandText]
    · simp [hc]
    · exact hamp
    · intro r' h
      exact absurd h hc

lemma expandValue_escapeChar {c : Char} (hc : c ∉ ['\t', '\n', '\r']) (n : Nat) (r : List Char) :
    expandValue (n + 1) (escapeChar c ++ r) = (expandValue n r).map (c :: ·) := by
  rcases escapeChar_cases c with ⟨name, hname, hwritten⟩ | ⟨hplain, hwritten⟩
  · have hstart : escapeChar c ++ r = '&' :: (name.toList ++ ';' :: r) := by simp [hwritten]
    rw [hstart, expandValue, reference?_name hname]
    rfl
  · have hamp : c ≠ '&' := by
      rintro rfl
      exact hplain (by decide)
    have hspace : isSpace c = true → c = ' ' := by
      simp only [List.mem_cons, List.not_mem_nil, or_false, not_or] at hc
      simp [isSpace, hc]
    rw [hwritten, List.singleton_append, expandValue]
    · by_cases h : isSpace c = true
      · rw [if_pos h, hspace h]
      · rw [if_neg h]
    · exact hamp
    · rintro r' rfl
      simp at hc

lemma expandText_escape {s : List Char} (h : '\r' ∉ s) {n : Nat} (hn : s.length ≤ n) :
    expandText n (escape s) = some s := by
  induction s generalizing n with
  | nil => cases n <;> rfl
  | cons c s ih =>
    obtain ⟨hc, hs⟩ := not_or.1 (mt List.mem_cons.2 h)
    cases n with
    | zero => simp at hn
    | succ n =>
      rw [escape, List.flatMap_cons, expandText_escapeChar (Ne.symm hc)]
      change (expandText n (escape s)).map _ = _
      rw [ih hs (Nat.le_of_succ_le_succ hn)]
      rfl

lemma expandValue_escape {s : List Char} (h : ∀ c ∈ s, c ∉ ['\t', '\n', '\r']) {n : Nat}
    (hn : s.length ≤ n) : expandValue n (escape s) = some s := by
  induction s generalizing n with
  | nil => cases n <;> rfl
  | cons c s ih =>
    obtain ⟨hc, hs⟩ := List.forall_mem_cons.1 h
    cases n with
    | zero => simp at hn
    | succ n =>
      rw [escape, List.flatMap_cons, expandValue_escapeChar hc]
      change (expandValue n (escape s)).map _ = _
      rw [ih hs (Nat.le_of_succ_le_succ hn)]
      rfl

/-- A character that ends neither a run of text nor a value. -/
def isInner (c : Char) : Bool := isAllowed c && decide (c ∉ ['<', '>', '"'])

lemma isInner_of_mem_escape {s : List Char} (h : ∀ c ∈ s, isAllowed c = true) {d : Char}
    (hd : d ∈ escape s) : isInner d = true := by
  obtain ⟨c, hc, hd⟩ := List.mem_flatMap.1 hd
  rcases escapeChar_cases c with ⟨name, hname, hwritten⟩ | ⟨hplain, hwritten⟩
  · have hall : references.all (fun e => ('&' :: e.2.toList ++ [';']).all isInner) = true := by decide
    rw [hwritten] at hd
    exact List.all_eq_true.1 (List.all_eq_true.1 hall _ hname) d hd
  · rw [hwritten, List.mem_singleton] at hd
    subst hd
    have hmarks : d ∉ ['<', '>', '"'] := by
      simp only [references, List.map_cons, List.mem_cons, not_or] at hplain
      simp [hplain]
    simp only [isInner, h d hc, hmarks, not_false_eq_true, decide_true, Bool.and_self]

lemma length_le_length_escape (s : List Char) : s.length ≤ (escape s).length := by
  induction s with
  | nil => simp
  | cons c s ih =>
    have hone : 1 ≤ (escapeChar c).length := by
      rcases escapeChar_cases c with ⟨name, -, hwritten⟩ | ⟨-, hwritten⟩ <;> simp [hwritten]
    rw [escape, List.flatMap_cons, List.length_append, List.length_cons]
    change _ ≤ _ + (escape s).length
    omega

/-- A text of characters that markup allows, but for some of them. -/
structure TextWithout (excluded : List Char) where
  chars : List Char
  allowed : ∀ c ∈ chars, isAllowed c = true
  kept : ∀ c ∈ chars, c ∉ excluded

/-- A run of text. A carriage return in it would be read as a line feed. -/
abbrev Run := TextWithout ['\r']

/-- The value of an attribute. Other blanks in it would be read as spaces. -/
abbrev Value := TextWithout ['\t', '\n', '\r']

/-- The name of an element or an attribute, without a colon. -/
structure TagName where
  chars : List Char
  starts : chars.head?.any isNameStart = true
  plain : ∀ c ∈ chars, isNameChar c = true ∧ c ≠ ':'

lemma isAllowed_of_isNameChar {c : Char} (h : isNameChar c = true) : isAllowed c = true := by
  have hcontrol : ∀ n < 0x20, isNameChar (Char.ofNat n) = false := by decide
  have hc : c = Char.ofNat c.toNat := (Char.ofNat_toNat c).symm
  rw [isAllowed]
  split
  · rename_i hlt
    rw [hc, hcontrol _ hlt] at h
    cases h
  · simp only [Bool.and_eq_true, decide_eq_true_eq]
    constructor
    · intro heq
      rw [hc, heq] at h
      exact absurd h (by decide)
    · intro heq
      rw [hc, heq] at h
      exact absurd h (by decide)

lemma isSpace_of_isNameStart {c : Char} (h : isNameStart c = true) : isSpace c = false := by
  by_contra hspace
  simp only [isSpace, Bool.not_eq_false, Bool.or_eq_true, beq_iff_eq] at hspace
  rcases hspace with ((rfl | rfl) | rfl) | rfl <;> exact absurd h (by decide)

namespace TagName

def qname (name : TagName) : QName := ⟨"", String.ofList name.chars⟩

lemma exists_cons (name : TagName) : ∃ c r, name.chars = c :: r ∧ isNameStart c = true := by
  obtain ⟨chars, starts, plain⟩ := name
  cases chars with
  | nil => simp at starts
  | cons c r => exact ⟨c, r, rfl, by simpa using starts⟩

/-- A name ends before the first character that no name has. -/
lemma qname_append (name : TagName) {rest : List Char} (h : ∀ c ∈ rest.head?, isNameChar c = false) :
    Markup.qname (name.chars ++ rest) = some (name.qname, rest) := by
  have hrun : (name.chars ++ rest).takeWhile isNameChar = name.chars :=
    takeWhile_append (fun c hc => (name.plain c hc).1) h
  have hcolon : ':' ∉ name.chars := fun hmem => (name.plain _ hmem).2 rfl
  obtain ⟨c, r, hchars, hstart⟩ := name.exists_cons
  have hc : c ≠ ':' := fun heq => hcolon (by simp [hchars, heq])
  rw [Markup.qname, bind_of_some rfl, hrun, bind_of_some rfl, splitAt_of_not_mem hcolon, List.drop_left,
    qname, hchars]
  exact bind_of_some (guard_of_true (by simp [hstart, hc])) _

end TagName

lemma spaces_of_head {s : List Char} (h : ∀ c ∈ s.head?, isSpace c = false) :
    spaces s = some ((), s) := by
  have hdrop : s.dropWhile isSpace = s := by
    cases s with
    | nil => rfl
    | cons c s => exact List.dropWhile_cons_of_neg (by simp [h c rfl])
  change some ((), s.dropWhile isSpace) = _
  rw [hdrop]

lemma spaces_cons_space (s : List Char) : spaces (' ' :: s) = spaces s := rfl

lemma symbol_append (t : String) (r : List Char) : symbol t (t.toList ++ r) = some ((), r) := by
  rw [symbol, dropStart?_eq_some_iff.2 rfl]
  rfl

def writeAttribute (a : TagName × Value) : List Char :=
  a.1.chars ++ "=\"".toList ++ escape a.2.chars ++ ['"']

def attributeOf (a : TagName × Value) : Attribute := ⟨a.1.qname, String.ofList a.2.chars⟩

lemma attribute?_append (a : TagName × Value) (rest : List Char) :
    attribute? (writeAttribute a ++ rest) = some (attributeOf a, rest) := by
  obtain ⟨name, value⟩ := a
  have hinner : ∀ c ∈ escape value.chars, isInner c = true :=
    fun c hc => isInner_of_mem_escape value.allowed hc
  have hquote : '"' ∉ escape value.chars := fun h => absurd (hinner _ h) (by decide)
  have hangle : (!(escape value.chars).contains '<') = true := by
    simpa using fun h : '<' ∈ escape value.chars => absurd (hinner _ h) (by decide)
  have hwritten : writeAttribute (name, value) ++ rest =
      name.chars ++ ("=".toList ++ '"' :: (escape value.chars ++ '"' :: rest)) := by
    simp [writeAttribute]
  rw [hwritten, attribute?, bind_of_some (name.qname_append (by simp; decide)),
    bind_of_some (spaces_of_head (by simp; decide)), bind_of_some (symbol_append "=" _),
    bind_of_some (spaces_of_head (by simp; decide)), bind_of_some rfl]
  refine (bind_of_some (guard_of_true (by decide)) _).trans ?_
  rw [bind_of_some (lift_of_some (cutAt_append rest hquote))]
  refine (bind_of_some (guard_of_true hangle) _).trans ?_
  rw [bind_of_some (lift_of_some (expandValue_escape value.kept (length_le_length_escape _)))]
  rfl

def writeAttributes (as : List (TagName × Value)) : List Char :=
  as.flatMap fun a => ' ' :: writeAttribute a

/-- Attributes are read one after the other, up to the end of their tag. -/
lemma attributes_append (as : List (TagName × Value)) {rest : List Char}
    (h : ∀ c ∈ rest.head?, isSpace c = false) :
    attributes (writeAttributes as ++ rest) = some (as.map attributeOf, rest) := by
  refine Takes.many_eq ?_
  induction as with
  | nil =>
    refine Takes.done ?_
    rw [writeAttributes, List.flatMap_nil, List.nil_append, bind_of_some rfl]
    refine bind_of_none (guard_of_false ?_) _
    cases rest with
    | nil => simp
    | cons c r => simp [h c rfl]
  | cons a as ih =>
    obtain ⟨c, r, hchars, hstart⟩ := a.1.exists_cons
    have hname : ∀ d ∈ (writeAttribute a ++ (writeAttributes as ++ rest)).head?, isSpace d = false := by
      simpa [writeAttribute, hchars] using isSpace_of_isNameStart hstart
    have hwritten : writeAttributes (a :: as) ++ rest =
        ' ' :: (writeAttribute a ++ (writeAttributes as ++ rest)) := by simp [writeAttributes]
    rw [hwritten]
    refine Takes.step ?_ ?_ ih
    · rw [bind_of_some rfl, bind_of_some (guard_of_true (by simp [isSpace])),
        bind_of_some ((spaces_cons_space _).trans (spaces_of_head hname)), attribute?_append]
    · simp only [List.length_cons, List.length_append]
      omega

/-- A text in which no further character can belong to the run of text before it. -/
def EndsText (rest : List Char) : Prop := ∀ c ∈ rest.head?, c = '<'

lemma piece_tag {c : Char} (hc : c ≠ '!' ∧ c ≠ '?') (r : List Char) :
    piece ('<' :: c :: r) = (closeTag <|> (do symbol "<"; openTag)) ('<' :: c :: r) := by
  have htext : plainText ('<' :: c :: r) = none := by
    rw [plainText, bind_of_some rfl]
    exact bind_of_none (guard_of_false (by simp)) _
  have hsymbol : ∀ t : String, dropStart? t.toList ('<' :: c :: r) = none →
      symbol t ('<' :: c :: r) = none := by
    intro t ht
    rw [symbol, ht]
    rfl
  have hcomment : comment ('<' :: c :: r) = none :=
    bind_of_none (hsymbol _ (by simp [dropStart?, List.isPrefixOf, Ne.symm hc.1])) _
  have hliteral : literalText ('<' :: c :: r) = none :=
    bind_of_none (hsymbol _ (by simp [dropStart?, List.isPrefixOf, Ne.symm hc.1])) _
  have hinstruction : instruction ('<' :: c :: r) = none := by
    rw [instruction, bind_of_some rfl,
      bind_of_some (guard_of_true (by simp [List.isPrefixOf, Ne.symm hc.2]))]
    exact bind_of_none (hsymbol _ (by simp [dropStart?, List.isPrefixOf, Ne.symm hc.2])) _
  rw [piece, orElse_of_none htext, orElse_of_none hcomment, orElse_of_none hliteral,
    orElse_of_none hinstruction]

/-- A part of written markup: a run of text, or a tag. -/
inductive Token where
  | chars (run : Run)
  | opening (name : TagName) (attributes : List (TagName × Value)) (selfClosing : Bool)
  | closing (name : TagName)

def tagEnd (selfClosing : Bool) : String := if selfClosing then "/>" else ">"

def Token.write : Token → List Char
  | .chars run => escape run.chars
  | .opening name attributes selfClosing =>
    '<' :: (name.chars ++ writeAttributes attributes ++ (tagEnd selfClosing).toList)
  | .closing name => "</".toList ++ name.chars ++ ">".toList

lemma openTag_append (name : TagName) (as : List (TagName × Value)) (selfClosing : Bool)
    (rest : List Char) :
    openTag (name.chars ++ (writeAttributes as ++ ((tagEnd selfClosing).toList ++ rest))) =
      some (.openTag name.qname (as.map attributeOf) selfClosing, rest) := by
  have hend : ∀ c ∈ ((tagEnd selfClosing).toList ++ rest).head?,
      isSpace c = false ∧ isNameChar c = false := by
    cases selfClosing <;> simp [tagEnd] <;> decide
  have hattributes : ∀ c ∈ (writeAttributes as ++ ((tagEnd selfClosing).toList ++ rest)).head?,
      isNameChar c = false := by
    cases as with
    | nil => exact fun c hc => (hend c hc).2
    | cons a as => simp [writeAttributes]; decide
  rw [openTag, bind_of_some (name.qname_append hattributes),
    bind_of_some (attributes_append as fun c hc => (hend c hc).1),
    bind_of_some (spaces_of_head fun c hc => (hend c hc).1)]
  cases selfClosing with
  | true =>
    refine orElse_of_some ?_ _
    rw [tagEnd, if_pos rfl, bind_of_some (symbol_append "/>" rest)]
    rfl
  | false =>
    have hfails : symbol "/>" ((tagEnd false).toList ++ rest) = none := by
      simp [symbol, tagEnd, dropStart?, List.isPrefixOf]
    rw [orElse_of_none (bind_of_none hfails _), tagEnd, if_neg (by simp),
      bind_of_some (symbol_append ">" rest)]
    rfl

lemma piece_opening (name : TagName) (as : List (TagName × Value)) (selfClosing : Bool)
    (rest : List Char) : piece ((Token.opening name as selfClosing).write ++ rest) =
      some (.openTag name.qname (as.map attributeOf) selfClosing, rest) := by
  obtain ⟨c, r, hchars, hstart⟩ := name.exists_cons
  have hmark : c ≠ '!' ∧ c ≠ '?' ∧ c ≠ '/' := by
    refine ⟨?_, ?_, ?_⟩ <;> rintro rfl <;> exact absurd hstart (by decide)
  have hopen := openTag_append name as selfClosing rest
  have hwritten : (Token.opening name as selfClosing).write ++ rest =
      '<' :: (name.chars ++ (writeAttributes as ++ ((tagEnd selfClosing).toList ++ rest))) := by
    simp [Token.write]
  rw [hwritten]
  rw [hchars, List.cons_append] at hopen ⊢
  have hclose : closeTag ('<' :: c :: (r ++ (writeAttributes as ++
      ((tagEnd selfClosing).toList ++ rest)))) = none := by
    refine bind_of_none ?_ _
    simp [symbol, dropStart?, List.isPrefixOf, Ne.symm hmark.2.2]
  rw [piece_tag ⟨hmark.1, hmark.2.1⟩, orElse_of_none hclose]
  exact (bind_of_some (symbol_append "<" _) _).trans hopen

lemma piece_closing (name : TagName) (rest : List Char) :
    piece ((Token.closing name).write ++ rest) = some (.closeTag name.qname, rest) := by
  have hwritten : (Token.closing name).write ++ rest =
      "</".toList ++ (name.chars ++ (">".toList ++ rest)) := by simp [Token.write]
  have hclose : closeTag ("</".toList ++ (name.chars ++ (">".toList ++ rest))) =
      some (.closeTag name.qname, rest) := by
    rw [closeTag, bind_of_some (symbol_append "</" _), bind_of_some (name.qname_append (by simp; decide)),
      bind_of_some (spaces_of_head (by simp; decide)), bind_of_some (symbol_append ">" _)]
    rfl
  rw [hwritten]
  refine (piece_tag (by decide) _).trans ?_
  exact orElse_of_some hclose _

/-- Text is read up to the next tag. -/
lemma piece_text {s rest t : List Char} (hne : s ≠ []) (hangle : '<' ∉ s)
    (hmark : contains "]]>".toList s = false) (ht : expandText s.length s = some t)
    (hrest : EndsText rest) : piece (s ++ rest) = some (.text t, rest) := by
  have hrun : (s ++ rest).takeWhile (· ≠ '<') = s := by
    refine takeWhile_append (fun c hc => ?_) fun c hc => by simp [hrest c hc]
    exact decide_eq_true fun heq => hangle (heq ▸ hc)
  have hguard : (!s.isEmpty && !contains "]]>".toList s) = true := by
    rw [hmark]
    simpa using hne
  refine orElse_of_some ?_ _
  rw [plainText, bind_of_some rfl, hrun, bind_of_some (guard_of_true hguard),
    bind_of_some (lift_of_some ht), bind_of_some rfl, List.drop_left]
  rfl

/-- The piece that is read from a run of text, if the run is not empty. -/
def textPieces (run : List Char) : List Piece := if run.isEmpty then [] else [.text run]

/-- The pieces that are read from tokens behind a run of text. Runs next to each other are read as
one. -/
def piecesOf (pending : List Char) : List Token → List Piece
  | [] => textPieces pending
  | .chars run :: ts => piecesOf (pending ++ run.chars) ts
  | .opening name attributes selfClosing :: ts =>
    textPieces pending ++ .openTag name.qname (attributes.map attributeOf) selfClosing :: piecesOf [] ts
  | .closing name :: ts => textPieces pending ++ .closeTag name.qname :: piecesOf [] ts

lemma takes_text {run rest : List Char} {ps : List Piece} (hallowed : ∀ c ∈ run, isAllowed c = true)
    (hreturn : '\r' ∉ run) (hrest : EndsText rest) (h : Takes piece rest ps []) :
    Takes piece (escape run ++ rest) (textPieces run ++ ps) [] := by
  cases run with
  | nil => exact h
  | cons c run =>
    have hinner : ∀ d ∈ escape (c :: run), isInner d = true :=
      fun d hd => isInner_of_mem_escape hallowed hd
    have hlength := length_le_length_escape (c :: run)
    have hne : escape (c :: run) ≠ [] := by
      intro hnil
      simp [hnil] at hlength
    have hangle : ∀ d ∈ ['<', '>'], d ∉ escape (c :: run) := by
      intro d hd hmem
      have := hinner d hmem
      simp only [List.mem_cons, List.not_mem_nil, or_false] at hd
      rcases hd with rfl | rfl <;> exact absurd this (by decide)
    refine Takes.step (piece_text hne (hangle _ (by simp)) ?_ ?_ hrest) ?_ h
    · exact contains_eq_false (by decide) (hangle '>' (by simp))
    · exact expandText_escape hreturn hlength
    · have := List.length_pos_iff.2 hne
      simp only [List.length_append]
      omega

/-- What is written for tokens is read as their pieces. The run of text before the tokens is what has
been written since the last tag. -/
lemma takes_tokens (ts : List Token) {pending rest : List Char} {ps : List Piece}
    (hallowed : ∀ c ∈ pending, isAllowed c = true) (hreturn : '\r' ∉ pending) (hrest : EndsText rest)
    (h : Takes piece rest ps []) :
    Takes piece (escape pending ++ (ts.flatMap Token.write ++ rest)) (piecesOf pending ts ++ ps) [] := by
  induction ts generalizing pending with
  | nil => exact takes_text hallowed hreturn hrest h
  | cons t ts ih =>
    have htag : ∀ {p : Piece} {s : List Char}, piece (t.write ++ (ts.flatMap Token.write ++ rest)) =
        some (p, ts.flatMap Token.write ++ rest) → t.write = '<' :: s →
        Takes piece (escape pending ++ ((t :: ts).flatMap Token.write ++ rest))
          (textPieces pending ++ p :: (piecesOf [] ts ++ ps)) [] := by
      intro p s hpiece hstart
      have hmore := @ih [] (by simp) (by simp)
      rw [List.flatMap_cons, List.append_assoc]
      refine takes_text hallowed hreturn (by simp [EndsText, hstart]) (Takes.step hpiece ?_ hmore)
      simp only [hstart, List.length_append, List.length_cons]
      omega
    cases t with
    | chars run =>
      have hmore := @ih (pending ++ run.chars)
        (List.forall_mem_append.2 ⟨hallowed, run.allowed⟩)
        (fun hmem => (List.mem_append.1 hmem).elim hreturn fun hrun => run.kept _ hrun (by simp))
      simpa [piecesOf, escape, Token.write] using hmore
    | opening name as selfClosing =>
      simpa [piecesOf] using htag (piece_opening name as selfClosing _) rfl
    | closing name => simpa [piecesOf] using htag (piece_closing name _) rfl

lemma allowed_write (t : Token) : ∀ c ∈ t.write, isAllowed c = true := by
  have hname : ∀ name : TagName, ∀ c ∈ name.chars, isAllowed c = true :=
    fun name c hc => isAllowed_of_isNameChar (name.plain c hc).1
  have hescape : ∀ s : List Char, (∀ c ∈ s, isAllowed c = true) → ∀ c ∈ escape s, isAllowed c = true := by
    intro s hs c hc
    exact (Bool.and_eq_true_iff.1 (isInner_of_mem_escape hs hc)).1
  cases t with
  | chars run => exact hescape _ run.allowed
  | closing name =>
    refine List.forall_mem_append.2 ⟨List.forall_mem_append.2 ⟨?_, hname name⟩, ?_⟩
    · exact List.all_eq_true.1 (by decide)
    · exact List.all_eq_true.1 (by decide)
  | opening name as selfClosing =>
    have hattributes : ∀ c ∈ writeAttributes as, isAllowed c = true := by
      intro c hc
      obtain ⟨a, -, hc⟩ := List.mem_flatMap.1 hc
      rcases List.mem_cons.1 hc with rfl | hc
      · decide
      · rw [writeAttribute, List.mem_append, List.mem_append, List.mem_append] at hc
        rcases hc with ((hc | hc) | hc) | hc
        · exact hname _ c hc
        · exact List.all_eq_true.1 (by decide : "=\"".toList.all isAllowed = true) c hc
        · exact hescape _ a.2.allowed c hc
        · exact List.all_eq_true.1 (by decide : ['"'].all isAllowed = true) c hc
    have hend : ∀ c ∈ (tagEnd selfClosing).toList, isAllowed c = true := by
      cases selfClosing <;> exact List.all_eq_true.1 (by decide)
    refine List.forall_mem_cons.2 ⟨by decide, List.forall_mem_append.2 ⟨?_, hend⟩⟩
    exact List.forall_mem_append.2 ⟨hname name, hattributes⟩

/-- Blank text, as it may stand between elements. -/
structure Gap where
  chars : List Char
  allowed : ∀ c ∈ chars, isAllowed c = true
  blank : ∀ c ∈ chars, isBlank c = true

lemma expandText_of_not_mem {s : List Char} (h : '&' ∉ s) {n : Nat} (hn : s.length ≤ n) :
    ∃ t, expandText n s = some t := by
  induction n generalizing s with
  | zero =>
    rw [List.length_eq_zero_iff.1 (Nat.le_zero.1 hn)]
    exact ⟨[], rfl⟩
  | succ n ih =>
    unfold expandText
    split
    · exact ⟨[], rfl⟩
    · simp at h
    · rename_i r
      obtain ⟨t, ht⟩ := @ih r (fun hmem => h (by simp [hmem])) (by simp at hn; omega)
      exact ⟨_, by rw [ht]; rfl⟩
    · rename_i r _ _
      obtain ⟨t, ht⟩ := @ih r (fun hmem => h (by simp [hmem])) (by simp at hn; omega)
      exact ⟨_, by rw [ht]; rfl⟩

/-- From a gap a text is read, or nothing. -/
lemma takes_gap (gap : Gap) {rest : List Char} {ps : List Piece} (hrest : EndsText rest)
    (h : Takes piece rest ps []) :
    ∃ texts : List (List Char), Takes piece (gap.chars ++ rest) (texts.map .text ++ ps) [] := by
  have hmark : ∀ c, isBlank c = false → c ∉ gap.chars := by
    intro c hc hmem
    exact Bool.false_ne_true (hc.symm.trans (gap.blank c hmem))
  by_cases hne : gap.chars = []
  · exact ⟨[], by simpa [hne] using h⟩
  · obtain ⟨t, ht⟩ := expandText_of_not_mem (hmark '&' (by decide)) (Nat.le_refl gap.chars.length)
    have hpiece := piece_text hne (hmark '<' (by decide))
      (contains_eq_false (by decide) (hmark '>' (by decide))) ht hrest
    refine ⟨[t], Takes.step hpiece ?_ h⟩
    have := List.length_pos_iff.2 hne
    simp only [List.length_append]
    omega

lemma takes_end : Takes piece [] [] [] := Takes.done rfl

lemma pieces?_eq {s : List Char} {ps : List Piece} (hallowed : ∀ c ∈ s, isAllowed c = true)
    (h : Takes piece s ps []) : pieces? s = some ps := by
  have hread : (many piece).run s = some (ps, []) := h.many_eq
  rw [pieces?, hread, List.all_eq_true.2 hallowed]
  rfl

/-- A closing tag ends the run of text before it. -/
lemma piecesOf_append_closing (pending : List Char) (ts : List Token) (name : TagName) :
    piecesOf pending (ts ++ [.closing name]) = piecesOf pending ts ++ [.closeTag name.qname] := by
  induction ts generalizing pending with
  | nil => rfl
  | cons t ts ih => cases t <;> simp [piecesOf, ih]

/-- Attributes as they stand in a tree. -/
def ownAttributes (as : List (TagName × Value)) : List (String × String) :=
  as.map fun a => (String.ofList a.1.chars, String.ofList a.2.chars)

/-- Attributes that an element may have and that bind no prefix. -/
def PlainAttributes (as : List (TagName × Value)) : Prop :=
  ∀ (outer : Spaces) (name : TagName),
    enter? outer name.qname (as.map attributeOf) = some (ownAttributes as, outer)

lemma plainAttributes_nil : PlainAttributes [] := by
  intro outer name
  rfl

lemma plainAttributes_singleton {name : TagName} (h : name.chars ≠ "xmlns".toList) (value : Value) :
    PlainAttributes [(name, value)] := by
  intro outer element
  have hname : String.ofList name.chars ≠ "xmlns" := fun heq => h (by rw [← heq, String.toList_ofList])
  have hown : declaredSpaces ([(name, value)].map attributeOf) = [] := by
    simp [declaredSpaces, attributeOf, TagName.qname, hname]
  have hproper : ([(name, value)].map attributeOf).filter (!isDeclaration ·) =
      [attributeOf (name, value)] := by
    simp [isDeclaration, attributeOf, TagName.qname, hname]
  rw [enter?, hown, hproper]
  rfl

/-- More children of an open element. -/
def OpenElement.add (top : OpenElement) (nodes : List Node) : OpenElement :=
  { top with children := nodes.reverse ++ top.children }

@[simp] lemma OpenElement.add_add (top : OpenElement) (nodes nodes' : List Node) :
    (top.add nodes).add nodes' = top.add (nodes ++ nodes') := by simp [OpenElement.add]

def textNodes (run : List Char) : List Node := if run.isEmpty then [] else [.text run]

lemma build?_texts (texts : List (List Char)) (ps : List Piece) (top : OpenElement) (outer : List OpenElement) :
    build? (texts.map .text ++ ps) top outer = build? ps (top.add (texts.map .text)) outer := by
  induction texts generalizing top with
  | nil => rfl
  | cons t texts ih =>
    have hstep := ih (top.add [.text t])
    rw [OpenElement.add_add] at hstep
    exact hstep

lemma build?_textPieces (run : List Char) (ps : List Piece) (top : OpenElement) (outer : List OpenElement) :
    build? (textPieces run ++ ps) top outer = build? ps (top.add (textNodes run)) outer := by
  cases run with
  | nil => rfl
  | cons c run => exact build?_texts [c :: run] ps top outer

lemma build?_closing (name : TagName) (own : List (String × String)) (spaces : Spaces) (nodes : List Node)
    (ps : List Piece) (parent : OpenElement) (outer : List OpenElement) :
    build? (.closeTag name.qname :: ps) (OpenElement.add ⟨name.qname, own, spaces, []⟩ nodes)
        (parent :: outer) =
      build? ps (parent.add [.element (String.ofList name.chars) own nodes]) outer := by
  rw [build?]
  refine (if_pos rfl).trans ?_
  simp [OpenElement.add, TagName.qname]

/-- Tokens behind a run of text make nodes and leave a run of text that has not ended. -/
def Builds (ts : List Token) (pending : List Char) (nodes : List Node) (left : List Char) : Prop :=
  ∀ (more : List Token) (ps : List Piece) (top : OpenElement) (outer : List OpenElement),
    build? (piecesOf pending (ts ++ more) ++ ps) top outer =
      build? (piecesOf left more ++ ps) (top.add nodes) outer

namespace Builds

lemma nil (pending : List Char) : Builds [] pending [] pending := fun _ _ _ _ => rfl

lemma chars (run : Run) (pending : List Char) : Builds [.chars run] pending [] (pending ++ run.chars) :=
  fun _ _ _ _ => rfl

lemma append {ts ts' : List Token} {pending middle left : List Char} {nodes nodes' : List Node}
    (h : Builds ts pending nodes middle) (h' : Builds ts' middle nodes' left) :
    Builds (ts ++ ts') pending (nodes ++ nodes') left := by
  intro more ps top outer
  rw [List.append_assoc, h, h', OpenElement.add_add]

lemma selfClosing (name : TagName) {as : List (TagName × Value)} (has : PlainAttributes as)
    (pending : List Char) : Builds [.opening name as true] pending
      (textNodes pending ++ [.element (String.ofList name.chars) (ownAttributes as) []]) [] := by
  intro more ps top outer
  rw [List.singleton_append, piecesOf, List.append_assoc, build?_textPieces, List.cons_append, build?,
    has, ← OpenElement.add_add]
  rfl

/-- The tags of an element around what its content makes. -/
lemma element (name : TagName) {as : List (TagName × Value)} (has : PlainAttributes as) {ts : List Token}
    {nodes : List Node} {left : List Char} (h : Builds ts [] nodes left) (pending : List Char) :
    Builds (.opening name as false :: (ts ++ [.closing name])) pending
      (textNodes pending ++
        [.element (String.ofList name.chars) (ownAttributes as) (nodes ++ textNodes left)]) [] := by
  intro more ps top outer
  rw [List.cons_append, List.append_assoc, piecesOf, List.append_assoc, build?_textPieces,
    List.cons_append, build?, has]
  simp only [Bool.false_eq_true, if_false]
  rw [h, List.singleton_append, piecesOf, List.append_assoc, build?_textPieces, List.cons_append,
    OpenElement.add_add, build?_closing, OpenElement.add_add]

end Builds

end Markup
end BindingDocs
