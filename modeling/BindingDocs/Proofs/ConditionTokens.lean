import BindingDocs.Condition
import Mathlib.Tactic.Lemma

/-! How the text of a condition splits into tokens. -/
namespace BindingDocs.Condition

/-- The characters between tokens. -/
def isGap (c : Char) : Bool := c = ' ' || c = '\t' || c = '\r' || c = '\n'

/-- Tokens of one spelling, apart from the negation. -/
inductive Sign : Token → List Char → Prop
  | and : Sign .and ['&', '&']
  | or : Sign .or ['|', '|']
  | eq : Sign .eq ['=', '=']
  | ne : Sign .ne ['!', '=']
  | left : Sign .left ['(']
  | right : Sign .right [')']

/-- Nothing that would make a name longer stands first. -/
def NameEnds (s : List Char) : Prop := ∀ c, s.head? = some c → isNameChar c = false

/-- A text that consists of some tokens with gaps between them. Tokens are as long as possible. -/
inductive Splits : List Char → List Token → Prop
  | nil : Splits [] []
  | gap {c s ts} (gap : isGap c = true) (rest : Splits s ts) : Splits (c :: s) ts
  | name {w s ts} (nonempty : w ≠ []) (chars : ∀ c ∈ w, isNameChar c = true) (ends : NameEnds s)
      (rest : Splits s ts) : Splits (w ++ s) (.name (String.ofList w) :: ts)
  | not {s ts} (ends : s.head? ≠ some '=') (rest : Splits s ts) : Splits ('!' :: s) (.not :: ts)
  | sign {t w s ts} (sign : Sign t w) (rest : Splits s ts) : Splits (w ++ s) (t :: ts)

/-- What may stand behind the last token: nothing, or a comment. -/
inductive Trailer : List Char → Prop
  | nil : Trailer []
  | comment (s : List Char) : Trailer ('/' :: '/' :: s)

/-- A text whose part before its comment, if it has one, consists of some tokens. -/
def Lexes (s : List Char) (ts : List Token) : Prop :=
  ∃ code trailer, s = code ++ trailer ∧ Splits code ts ∧ Trailer trailer

variable (seen : List Char)

lemma tokensFrom_nameChar {c : Char} (h : isNameChar c = true) (s : List Char) :
    tokensFrom seen (c :: s) = tokensFrom (c :: seen) s := by
  have other : ∀ d, isNameChar d = false → c ≠ d := by
    rintro d hd rfl
    simp [hd] at h
  rw [tokensFrom]
  · simp [h]
  all_goals
    intro tail hc
    exact absurd hc (other _ (by decide))

lemma tokensFrom_word {w : List Char} (h : ∀ c ∈ w, isNameChar c = true) (s : List Char) :
    tokensFrom seen (w ++ s) = tokensFrom (w.reverse ++ seen) s := by
  induction w generalizing seen with
  | nil => rfl
  | cons c w ih =>
    rw [List.cons_append, tokensFrom_nameChar _ (h c (by simp)), ih _ (fun x hx => h x (by simp [hx]))]
    simp

lemma tokensFrom_trailer {s : List Char} (h : Trailer s) :
    tokensFrom seen s = some (tokensFrom.flush seen []) := by
  cases h <;> rfl

lemma tokensFrom_sign {t : Token} {w : List Char} (h : Sign t w) (s : List Char) :
    tokensFrom seen (w ++ s) = (tokensFrom [] s).map fun ts => tokensFrom.flush seen (t :: ts) := by
  cases h <;> rfl

lemma tokensFrom_not {s : List Char} (h : s.head? ≠ some '=') :
    tokensFrom seen ('!' :: s) = (tokensFrom [] s).map fun ts => tokensFrom.flush seen (.not :: ts) := by
  rw [tokensFrom]
  · rfl
  case x_2 =>
    rintro tail - rfl
    exact h rfl
  all_goals simp

lemma tokensFrom_gap {c : Char} (h : isGap c = true) (s : List Char) :
    tokensFrom seen (c :: s) = (tokensFrom [] s).map (tokensFrom.flush seen) := by
  simp only [isGap, Bool.or_eq_true, decide_eq_true_eq] at h
  obtain ((rfl | rfl) | rfl) | rfl := h <;> rfl

lemma Trailer.nameEnds {s : List Char} (h : Trailer s) : NameEnds s := by
  cases h <;> simp [NameEnds, isNameChar]

lemma NameEnds.append {s trailer : List Char} (hs : NameEnds s) (ht : NameEnds trailer) :
    NameEnds (s ++ trailer) := by
  cases s with
  | nil => exact ht
  | cons c s => simpa [NameEnds] using hs

lemma Trailer.head?_ne {s : List Char} (h : Trailer s) : s.head? ≠ some '=' := by
  cases h <;> simp

lemma tokensFrom_of_splits {code trailer : List Char} {ts : List Token} (h : Splits code ts)
    (ht : Trailer trailer) (hseen : seen = [] ∨ NameEnds (code ++ trailer)) :
    tokensFrom seen (code ++ trailer) = some (tokensFrom.flush seen ts) := by
  induction h generalizing seen with
  | nil => exact tokensFrom_trailer seen ht
  | gap gap rest ih => rw [List.cons_append, tokensFrom_gap seen gap, ih [] (.inl rfl)]; rfl
  | @name w s ts nonempty chars ends rest ih =>
    obtain ⟨c, w, rfl⟩ := List.exists_cons_of_ne_nil nonempty
    obtain rfl : seen = [] := by
      refine hseen.resolve_right fun h => ?_
      have hc := chars c (by simp)
      simp [h c (by simp)] at hc
    rw [List.append_assoc, tokensFrom_word [] chars, List.append_nil,
      ih _ (.inr (ends.append ht.nameEnds))]
    simp [tokensFrom.flush]
  | @not s ts ends rest ih =>
    have hne : (s ++ trailer).head? ≠ some '=' := by
      cases s with
      | nil => exact ht.head?_ne
      | cons c s => exact ends
    rw [List.cons_append, tokensFrom_not seen hne, ih [] (.inl rfl)]
    rfl
  | sign sign rest ih =>
    rw [List.append_assoc, tokensFrom_sign seen sign, ih [] (.inl rfl)]
    rfl

/-- A name in front of a text that does not go on with it. -/
lemma Lexes.word {s : List Char} {ts : List Token} (h : Lexes s ts) (ends : NameEnds s)
    (chars : ∀ c ∈ seen, isNameChar c = true) :
    Lexes (seen.reverse ++ s) (tokensFrom.flush seen ts) := by
  obtain ⟨code, trailer, rfl, hs, ht⟩ := h
  cases seen with
  | nil => exact ⟨code, trailer, rfl, hs, ht⟩
  | cons c w =>
    refine ⟨(c :: w).reverse ++ code, trailer, by simp, ?_, ht⟩
    refine Splits.name (by simp) (fun x hx => chars x (List.mem_reverse.1 hx)) ?_ hs
    intro x hx
    exact ends x (by simp [List.head?_append, hx])

lemma Sign.nameEnds {t : Token} {w : List Char} (h : Sign t w) (s : List Char) : NameEnds (w ++ s) := by
  cases h <;> simp [NameEnds, isNameChar]

/-- A sign, perhaps behind a name, in front of a text that splits. -/
lemma lexes_sign {t : Token} {w s : List Char} {ts : List Token} (sign : Sign t w)
    (chars : ∀ c ∈ seen, isNameChar c = true)
    (ih : ∀ {us}, tokensFrom [] s = some us → Lexes s us)
    (h : ((tokensFrom [] s).map fun us => tokensFrom.flush seen (t :: us)) = some ts) :
    Lexes (seen.reverse ++ (w ++ s)) ts := by
  obtain ⟨us, hus, rfl⟩ := Option.map_eq_some_iff.1 h
  obtain ⟨code, trailer, rfl, hs, ht⟩ := ih hus
  have hl : Lexes (w ++ (code ++ trailer)) (t :: us) :=
    ⟨w ++ code, trailer, by simp, Splits.sign sign hs, ht⟩
  exact hl.word seen (sign.nameEnds _) chars

lemma lexes_of_tokensFrom {s : List Char} {ts : List Token}
    (chars : ∀ c ∈ seen, isNameChar c = true) (h : tokensFrom seen s = some ts) :
    Lexes (seen.reverse ++ s) ts := by
  fun_induction tokensFrom seen s generalizing ts with
  | case1 seen s =>
    cases h
    have hl : Lexes ('/' :: '/' :: s) [] := ⟨[], _, rfl, Splits.nil, Trailer.comment s⟩
    exact hl.word seen (Trailer.comment s).nameEnds chars
  | case2 seen s ih => exact lexes_sign seen Sign.ne chars (ih (by simp)) h
  | case3 seen s ih => exact lexes_sign seen Sign.and chars (ih (by simp)) h
  | case4 seen s ih => exact lexes_sign seen Sign.or chars (ih (by simp)) h
  | case5 seen s ih => exact lexes_sign seen Sign.eq chars (ih (by simp)) h
  | case6 seen =>
    cases h
    have hl : Lexes [] [] := ⟨[], [], rfl, Splits.nil, Trailer.nil⟩
    exact hl.word seen Trailer.nil.nameEnds chars
  | case7 seen c s _ _ _ _ _ hc ih =>
    have hl := ih (by simpa [hc] using chars) h
    simpa using hl
  | case8 seen s _ heq _ _ _ _ ih =>
    obtain ⟨us, hus, rfl⟩ := Option.map_eq_some_iff.1 h
    obtain ⟨code, trailer, rfl, hs, ht⟩ := ih (by simp) hus
    have hne : code.head? ≠ some '=' := by
      intro hc
      obtain ⟨rest, rfl⟩ := List.head?_eq_some_iff.1 hc
      exact heq _ rfl rfl
    have hl : Lexes ('!' :: (code ++ trailer)) (.not :: us) :=
      ⟨'!' :: code, trailer, rfl, Splits.not hne hs, ht⟩
    exact hl.word seen (by simp [NameEnds, isNameChar]) chars
  | case9 seen s _ _ _ _ _ _ _ ih => exact lexes_sign seen Sign.left chars (ih (by simp)) h
  | case10 seen s _ _ _ _ _ _ _ _ ih => exact lexes_sign seen Sign.right chars (ih (by simp)) h
  | case11 seen c s _ _ _ _ _ hname _ _ _ hgap ih =>
    obtain ⟨us, hus, rfl⟩ := Option.map_eq_some_iff.1 h
    obtain ⟨code, trailer, rfl, hs, ht⟩ := ih (by simp) hus
    have hl : Lexes (c :: (code ++ trailer)) us := ⟨c :: code, trailer, rfl, Splits.gap hgap hs, ht⟩
    exact hl.word seen (by simpa [NameEnds] using hname) chars
  | case12 => cases h

/-- The tokens of a condition are those that its text before any comment splits into. -/
theorem tokens?_eq_some_iff {s : String} {ts : List Token} :
    tokens? s = some ts ↔ Lexes s.toList ts := by
  constructor
  · exact lexes_of_tokensFrom [] (by simp)
  · rintro ⟨code, trailer, hs, hcode, ht⟩
    rw [tokens?, hs]
    exact tokensFrom_of_splits [] hcode ht (.inl rfl)

end BindingDocs.Condition
