import BindingDocs.Proofs.ConditionTokens
import Mathlib.Logic.Basic

/-! The grammar of conditions, and the proof that evaluation reads exactly its sentences and gives
them their values. -/
namespace BindingDocs.Condition

/-- The phrases of each level. A chain of operators is built from the left:

* a disjunction is a conjunction, or a disjunction, `||` and a conjunction;
* a conjunction is an equality, or a conjunction, `&&` and an equality;
* an equality is an operand, or an equality, `==` or `!=`, and an operand;
* an operand is a name, a negated operand, or a disjunction in parentheses. -/
inductive Phrase : Level → Type
  | name (s : String) : Phrase .operand
  | not (p : Phrase .operand) : Phrase .operand
  | group (p : Phrase .disjunction) : Phrase .operand
  | operand (p : Phrase .operand) : Phrase .equality
  | eq (p : Phrase .equality) (q : Phrase .operand) : Phrase .equality
  | ne (p : Phrase .equality) (q : Phrase .operand) : Phrase .equality
  | equality (p : Phrase .equality) : Phrase .conjunction
  | and (p : Phrase .conjunction) (q : Phrase .equality) : Phrase .conjunction
  | conjunction (p : Phrase .conjunction) : Phrase .disjunction
  | or (p : Phrase .disjunction) (q : Phrase .conjunction) : Phrase .disjunction

namespace Phrase

/-- The tokens of a phrase, in order. -/
def tokens : {level : Level} → Phrase level → List Token
  | _, name s => [.name s]
  | _, not p => .not :: p.tokens
  | _, group p => .left :: p.tokens ++ [.right]
  | _, operand p => p.tokens
  | _, eq p q => p.tokens ++ .eq :: q.tokens
  | _, ne p q => p.tokens ++ .ne :: q.tokens
  | _, equality p => p.tokens
  | _, and p q => p.tokens ++ .and :: q.tokens
  | _, conjunction p => p.tokens
  | _, or p q => p.tokens ++ .or :: q.tokens

/-- The value of a phrase. Names other than `true` and `false` hold if they are defined. -/
def value (defined : List String) : {level : Level} → Phrase level → Bool
  | _, name s => s = "true" || (s ≠ "false" && s ∈ defined)
  | _, not p => !p.value defined
  | _, group p => p.value defined
  | _, operand p => p.value defined
  | _, eq p q => p.value defined == q.value defined
  | _, ne p q => p.value defined != q.value defined
  | _, equality p => p.value defined
  | _, and p q => p.value defined && q.value defined
  | _, conjunction p => p.value defined
  | _, or p q => p.value defined || q.value defined

end Phrase

variable (defined : List String)

lemma nameValue_eq (s : String) :
    nameValue defined s = (s = "true" || (s ≠ "false" && s ∈ defined) : Bool) := by
  unfold nameValue
  split <;> simp_all

/-- A level of chains, and the level of their parts. -/
inductive Below : Level → Level → Prop
  | disjunction : Below .disjunction .conjunction
  | conjunction : Below .conjunction .equality
  | equality : Below .equality .operand

/-- The operators of a level, with what they compute. -/
inductive Joins : Level → Level → Token → (Bool → Bool → Bool) → Prop
  | or : Joins .disjunction .conjunction .or (· || ·)
  | and : Joins .conjunction .equality .and (· && ·)
  | eq : Joins .equality .operand .eq (· == ·)
  | ne : Joins .equality .operand .ne (· != ·)

lemma Joins.below {level part : Level} {op : Token} {f : Bool → Bool → Bool}
    (h : Joins level part op f) : Below level part := by
  cases h <;> constructor

lemma operand_or_below (level : Level) : level = .operand ∨ ∃ part, Below level part := by
  cases level with
  | operand => exact .inl rfl
  | equality => exact .inr ⟨_, .equality⟩
  | conjunction => exact .inr ⟨_, .conjunction⟩
  | disjunction => exact .inr ⟨_, .disjunction⟩

/-- No operator of a level stands first. -/
def Stops (level : Level) (ts : List Token) : Prop :=
  ∀ part op f, Joins level part op f → ts.head? ≠ some op

variable {defined}

lemma value?_chain {level part : Level} (h : Below level part) (n : Nat) (ts : List Token) :
    value? defined (n + 1) level ts =
      (value? defined n part ts).bind fun r => more? defined n level r.1 r.2 := by
  cases h <;> rfl

lemma more?_join {level part : Level} {op : Token} {f : Bool → Bool → Bool}
    (h : Joins level part op f) (n : Nat) (v : Bool) (ts : List Token) :
    more? defined (n + 1) level v (op :: ts) =
      (value? defined n part ts).bind fun r => more? defined n level (f v r.1) r.2 := by
  cases h <;> rfl

lemma more?_stop {level : Level} {ts : List Token} (h : Stops level ts) (n : Nat) (v : Bool) :
    more? defined (n + 1) level v ts = some (v, ts) := by
  rw [more?.eq_def]
  split
  · contradiction
  · exact absurd rfl (h _ _ _ .or)
  · exact absurd rfl (h _ _ _ .and)
  · exact absurd rfl (h _ _ _ .eq)
  · exact absurd rfl (h _ _ _ .ne)
  · simp_all

lemma joins_or_stops (level : Level) (ts : List Token) :
    (∃ part op f rest, Joins level part op f ∧ ts = op :: rest) ∨ Stops level ts := by
  by_cases h : Stops level ts
  · exact .inr h
  · simp only [Stops, not_forall, not_not] at h
    obtain ⟨part, op, f, hj, hh⟩ := h
    obtain ⟨rest, rfl⟩ := List.head?_eq_some_iff.1 hh
    exact .inl ⟨part, op, f, rest, hj, rfl⟩

lemma value?_not {n : Nat} {ts rest : List Token} {v : Bool}
    (h : value? defined n .operand ts = some (v, rest)) :
    value? defined (n + 1) .operand (.not :: ts) = some (!v, rest) := by
  rw [value?, h]
  rfl

lemma value?_group {n : Nat} {ts rest : List Token} {v : Bool}
    (h : value? defined n .disjunction ts = some (v, .right :: rest)) :
    value? defined (n + 1) .operand (.left :: ts) = some (v, rest) := by
  rw [value?, h]
  rfl

lemma value?_name (n : Nat) (s : String) (ts : List Token) :
    value? defined (n + 1) .operand (.name s :: ts) = some (nameValue defined s, ts) := rfl

/-- How an operand begins. -/
lemma value?_operand {n : Nat} {ts rest : List Token} {v : Bool}
    (h : value? defined (n + 1) .operand ts = some (v, rest)) :
    (∃ us w, ts = .not :: us ∧ value? defined n .operand us = some (w, rest) ∧ v = !w) ∨
    (∃ us, ts = .left :: us ∧ value? defined n .disjunction us = some (v, .right :: rest)) ∨
    (∃ s, ts = .name s :: rest ∧ v = nameValue defined s) := by
  rw [value?.eq_def] at h
  simp only at h
  split at h
  · obtain ⟨⟨w, _⟩, hw, hv⟩ := Option.map_eq_some_iff.1 h
    cases hv
    exact .inl ⟨_, w, rfl, hw, rfl⟩
  · obtain ⟨⟨w, us⟩, hw, hv⟩ := Option.bind_eq_some_iff.1 h
    split at hv
    · rename_i hr
      cases hv
      cases hr
      exact .inr (.inl ⟨_, rfl, hw⟩)
    · cases hv
  · cases h
    exact .inr (.inr ⟨_, rfl, rfl⟩)
  · cases h

lemma Below.phrase {level part : Level} (h : Below level part) (defined : List String)
    (p : Phrase part) :
    ∃ q : Phrase level, q.tokens = p.tokens ∧ q.value defined = p.value defined := by
  cases h with
  | disjunction => exact ⟨.conjunction p, rfl, rfl⟩
  | conjunction => exact ⟨.equality p, rfl, rfl⟩
  | equality => exact ⟨.operand p, rfl, rfl⟩

lemma Joins.phrase {level part : Level} {op : Token} {f : Bool → Bool → Bool}
    (h : Joins level part op f) (defined : List String) (p : Phrase level) (q : Phrase part) :
    ∃ r : Phrase level, r.tokens = p.tokens ++ op :: q.tokens ∧
      r.value defined = f (p.value defined) (q.value defined) := by
  cases h with
  | or => exact ⟨.or p q, rfl, rfl⟩
  | and => exact ⟨.and p q, rfl, rfl⟩
  | eq => exact ⟨.eq p q, rfl, rfl⟩
  | ne => exact ⟨.ne p q, rfl, rfl⟩

/-- What is read is a phrase with its value, and a chain goes on from a phrase to a longer one. -/
lemma sound (n : Nat) :
    (∀ level ts v rest, value? defined n level ts = some (v, rest) →
      ∃ p : Phrase level, ts = p.tokens ++ rest ∧ p.value defined = v) ∧
    (∀ level (p : Phrase level) ts v rest,
      more? defined n level (p.value defined) ts = some (v, rest) →
      ∃ q : Phrase level, p.tokens ++ ts = q.tokens ++ rest ∧ q.value defined = v) := by
  induction n with
  | zero => exact ⟨fun _ _ _ _ h => by simp [value?] at h, fun _ _ _ _ _ h => by simp [more?] at h⟩
  | succ n ih =>
    constructor
    · intro level ts v rest h
      obtain rfl | ⟨part, hb⟩ := operand_or_below level
      · obtain ⟨us, w, rfl, hw, rfl⟩ | ⟨us, rfl, hw⟩ | ⟨s, rfl, rfl⟩ := value?_operand h
        · obtain ⟨p, rfl, rfl⟩ := ih.1 _ _ _ _ hw
          exact ⟨.not p, rfl, rfl⟩
        · obtain ⟨p, rfl, rfl⟩ := ih.1 _ _ _ _ hw
          exact ⟨.group p, by simp [Phrase.tokens], rfl⟩
        · exact ⟨.name s, rfl, (nameValue_eq defined s).symm⟩
      · rw [value?_chain hb] at h
        obtain ⟨⟨w, us⟩, hw, hm⟩ := Option.bind_eq_some_iff.1 h
        obtain ⟨p, rfl, rfl⟩ := ih.1 _ _ _ _ hw
        obtain ⟨q, hq, hv⟩ := hb.phrase defined p
        rw [← hv] at hm
        obtain ⟨r, hr, rfl⟩ := ih.2 _ q _ _ _ hm
        exact ⟨r, by rw [← hr, hq], rfl⟩
    · intro level p ts v rest h
      obtain ⟨part, op, f, us, hj, rfl⟩ | hs := joins_or_stops level ts
      · rw [more?_join hj] at h
        obtain ⟨⟨w, xs⟩, hw, hm⟩ := Option.bind_eq_some_iff.1 h
        obtain ⟨q, rfl, rfl⟩ := ih.1 _ _ _ _ hw
        obtain ⟨r, hr, hv⟩ := hj.phrase defined p q
        rw [← hv] at hm
        obtain ⟨t, ht, rfl⟩ := ih.2 _ r _ _ _ hm
        exact ⟨t, by rw [← ht, hr]; simp, rfl⟩
      · rw [more?_stop hs] at h
        cases h
        exact ⟨p, rfl, rfl⟩

/-- The steps from a level down to a token. -/
def depth : Level → Nat
  | .operand => 1
  | .equality => 2
  | .conjunction => 3
  | .disjunction => 4

lemma Below.depth {level part : Level} (h : Below level part) :
    depth level = depth part + 1 ∧ depth part ≤ 3 := by
  cases h <;> decide

/-- A phrase takes at least one token, and is read with every number of steps that is large enough for
the tokens. -/
def Yields (defined : List String) (level : Level) (ts : List Token) (r : Bool × List Token) : Prop :=
  r.2.length < ts.length ∧ ∀ m, 5 * ts.length + depth level ≤ m → value? defined m level ts = some r

/-- A chain is read on with every number of steps that is large enough for the tokens. -/
def Continues (defined : List String) (level : Level) (v : Bool) (ts : List Token)
    (r : Bool × List Token) : Prop :=
  r.2.length ≤ ts.length ∧ ∀ m, 5 * ts.length + 1 ≤ m → more? defined m level v ts = some r

lemma Yields.name (s : String) (ts : List Token) :
    Yields defined .operand (.name s :: ts) (nameValue defined s, ts) := by
  refine ⟨by simp, ?_⟩
  intro m hm
  obtain ⟨k, rfl⟩ : ∃ k, m = k + 1 := ⟨m - 1, by simp [depth] at hm; omega⟩
  exact value?_name k s ts

lemma Yields.not {ts rest : List Token} {v : Bool} (h : Yields defined .operand ts (v, rest)) :
    Yields defined .operand (.not :: ts) (!v, rest) := by
  obtain ⟨hlt, hvalue⟩ := h
  simp only [Yields, List.length_cons, depth] at hlt hvalue ⊢
  refine ⟨by omega, ?_⟩
  intro m hm
  obtain ⟨k, rfl⟩ : ∃ k, m = k + 1 := ⟨m - 1, by omega⟩
  exact value?_not (hvalue k (by omega))

lemma Yields.group {ts rest : List Token} {v : Bool}
    (h : Yields defined .disjunction ts (v, .right :: rest)) :
    Yields defined .operand (.left :: ts) (v, rest) := by
  obtain ⟨hlt, hvalue⟩ := h
  simp only [Yields, List.length_cons, depth] at hlt hvalue ⊢
  refine ⟨by omega, ?_⟩
  intro m hm
  obtain ⟨k, rfl⟩ : ∃ k, m = k + 1 := ⟨m - 1, by omega⟩
  exact value?_group (hvalue k (by omega))

lemma Yields.chain {level part : Level} (hb : Below level part) {ts us : List Token} {v : Bool}
    {r : Bool × List Token} (h : Yields defined part ts (v, us)) (hm : Continues defined level v us r) :
    Yields defined level ts r := by
  obtain ⟨hlt : us.length < ts.length, hvalue⟩ := h
  obtain ⟨hle, hmore⟩ := hm
  have hd := hb.depth
  refine ⟨by omega, ?_⟩
  intro m hm
  obtain ⟨k, rfl⟩ : ∃ k, m = k + 1 := ⟨m - 1, by omega⟩
  rw [value?_chain hb, hvalue k (by omega)]
  exact hmore k (by omega)

lemma Continues.stop {level : Level} {ts : List Token} (h : Stops level ts) (v : Bool) :
    Continues defined level v ts (v, ts) := by
  refine ⟨Nat.le_refl _, ?_⟩
  intro m hm
  obtain ⟨k, rfl⟩ : ∃ k, m = k + 1 := ⟨m - 1, by omega⟩
  exact more?_stop h k v

lemma Continues.join {level part : Level} {op : Token} {f : Bool → Bool → Bool}
    (hj : Joins level part op f) {ts us : List Token} {u v : Bool} {r : Bool × List Token}
    (h : Yields defined part ts (v, us)) (hm : Continues defined level (f u v) us r) :
    Continues defined level u (op :: ts) r := by
  obtain ⟨hlt : us.length < ts.length, hvalue⟩ := h
  obtain ⟨hle, hmore⟩ := hm
  have hd := hj.below.depth
  simp only [Continues, List.length_cons]
  refine ⟨by omega, ?_⟩
  intro m hm
  obtain ⟨k, rfl⟩ : ∃ k, m = k + 1 := ⟨m - 1, by omega⟩
  rw [more?_join hj, hvalue k (by omega)]
  exact hmore k (by omega)

/-- No operator that binds tighter than a level stands first. -/
def Loose (level : Level) (ts : List Token) : Prop :=
  ∀ inner, depth inner < depth level → Stops inner ts

lemma Joins.loose {level part : Level} {op : Token} {f : Bool → Bool → Bool}
    (h : Joins level part op f) (ts : List Token) : Loose level (op :: ts) := by
  intro inner hd _ _ _ hj hh
  cases Option.some.inj hh
  cases h <;> cases hj <;> simp [depth] at hd

lemma stops_of_not_operator {level : Level} {t : Token} (ts : List Token)
    (h : ∀ level part f, ¬ Joins level part t f) : Stops level (t :: ts) := by
  intro part op f hj hh
  cases Option.some.inj hh
  exact h _ _ _ hj

/-- However a chain may go on behind a phrase, it is read after the phrase. -/
def Reads (defined : List String) {level : Level} (p : Phrase level) : Prop :=
  ∀ rest r, Loose level rest → Continues defined level (p.value defined) rest r →
    Yields defined level (p.tokens ++ rest) r

/-- The parts of a chain end where the chain goes on. -/
lemma Reads.part {level part : Level} (hb : Below level part) {p : Phrase part} (hp : Reads defined p)
    {rest : List Token} (hl : Loose level rest) :
    Yields defined part (p.tokens ++ rest) (p.value defined, rest) := by
  have hd := hb.depth
  refine hp rest _ (fun inner hi => hl inner (by omega)) (Continues.stop (hl part (by omega)) _)

lemma Reads.lift {level part : Level} (hb : Below level part) {p : Phrase part} (hp : Reads defined p)
    {q : Phrase level} (ht : q.tokens = p.tokens) (hv : q.value defined = p.value defined) :
    Reads defined q := by
  intro rest r hl hc
  rw [ht]
  rw [hv] at hc
  exact Yields.chain hb (hp.part hb hl) hc

lemma Reads.join {level part : Level} {op : Token} {f : Bool → Bool → Bool}
    (hj : Joins level part op f) {p : Phrase level} {q : Phrase part} (hp : Reads defined p)
    (hq : Reads defined q) {r : Phrase level} (ht : r.tokens = p.tokens ++ op :: q.tokens)
    (hv : r.value defined = f (p.value defined) (q.value defined)) : Reads defined r := by
  intro rest s hl hc
  rw [ht, List.append_assoc]
  rw [hv] at hc
  exact hp _ _ (hj.loose _) (Continues.join hj (hq.part hj.below hl) hc)

lemma stops_operand (ts : List Token) : Stops .operand ts := by
  intro part op f hj
  cases hj

lemma Continues.operand {v : Bool} {ts : List Token} {r : Bool × List Token}
    (h : Continues defined .operand v ts r) : r = (v, ts) := by
  have hmore := h.2 (5 * ts.length + 1) (Nat.le_refl _)
  rw [more?_stop (stops_operand ts)] at hmore
  exact (Option.some.inj hmore).symm

lemma loose_operand (ts : List Token) : Loose .operand ts := by
  intro inner hi
  cases inner <;> simp [depth] at hi

theorem reads {level : Level} (p : Phrase level) : Reads defined p := by
  induction p with
  | name s =>
    intro rest r _ hc
    rw [hc.operand, Phrase.value, ← nameValue_eq]
    exact Yields.name s rest
  | not p ih =>
    intro rest r _ hc
    rw [hc.operand]
    exact (ih rest _ (loose_operand rest) (Continues.stop (stops_operand rest) _)).not
  | group p ih =>
    intro rest r _ hc
    rw [hc.operand]
    have closes : ∀ level, Stops level (.right :: rest) := fun level =>
      stops_of_not_operator rest fun _ _ _ hj => by cases hj
    have hp := ih (.right :: rest) _ (fun inner _ => closes inner) (Continues.stop (closes _) _)
    simpa [Phrase.tokens, Phrase.value] using hp.group
  | operand p ih => exact ih.lift Below.equality rfl rfl
  | eq p q ihp ihq => exact Reads.join Joins.eq ihp ihq rfl rfl
  | ne p q ihp ihq => exact Reads.join Joins.ne ihp ihq rfl rfl
  | equality p ih => exact ih.lift Below.conjunction rfl rfl
  | and p q ihp ihq => exact Reads.join Joins.and ihp ihq rfl rfl
  | conjunction p ih => exact ih.lift Below.disjunction rfl rfl
  | or p q ihp ihq => exact Reads.join Joins.or ihp ihq rfl rfl

/-- The bound on the steps is large enough for every sentence. -/
lemma value?_sentence (p : Phrase .disjunction) :
    value? defined (5 * p.tokens.length + 5) .disjunction p.tokens = some (p.value defined, []) := by
  have nothing : ∀ level, Stops level [] := by
    intro level part op f hj
    simp
  have hp : Yields defined .disjunction (p.tokens ++ []) (p.value defined, []) :=
    reads p [] _ (fun inner _ => nothing inner) (Continues.stop (nothing _) _)
  rw [List.append_nil] at hp
  exact hp.2 _ (by simp [depth])

/-- A condition has a value exactly if its text before any comment splits into the tokens of a
sentence, and then it has the value of that sentence. Whether it has one depends only on the text. -/
theorem evaluate_eq_value_of_sentence (condition : String) (defined : List String) :
    (∀ v, evaluate condition defined = some v ↔
      ∃ p : Phrase .disjunction, Lexes condition.toList p.tokens ∧ p.value defined = v) ∧
    (evaluate condition defined = none ↔
      ¬ ∃ p : Phrase .disjunction, Lexes condition.toList p.tokens) := by
  have hsome : ∀ v, evaluate condition defined = some v ↔
      ∃ p : Phrase .disjunction, Lexes condition.toList p.tokens ∧ p.value defined = v := by
    intro v
    constructor
    · intro h
      obtain ⟨ts, hts, hv⟩ := Option.bind_eq_some_iff.1 h
      split at hv
      · rename_i w hw
        cases hv
        obtain ⟨p, rfl, rfl⟩ := (sound _).1 _ _ _ _ hw
        rw [List.append_nil] at hts
        exact ⟨p, tokens?_eq_some_iff.1 hts, rfl⟩
      · cases hv
    · rintro ⟨p, hp, rfl⟩
      rw [evaluate, tokens?_eq_some_iff.2 hp]
      simp [value?_sentence]
  refine ⟨hsome, ?_⟩
  rw [Option.eq_none_iff_forall_ne_some]
  constructor
  · rintro h ⟨p, hp⟩
    exact h _ ((hsome _).2 ⟨p, hp, rfl⟩)
  · intro h v hv
    obtain ⟨p, hp, -⟩ := (hsome v).1 hv
    exact h ⟨p, hp⟩

end BindingDocs.Condition
