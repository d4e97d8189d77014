import BindingDocs.Generation
import BindingDocs.Proofs.BaseOrder
import BindingDocs.Proofs.FileTree
import BindingDocs.Proofs.ScannerFreshness

/-! Runs of a generation, step by step: reading sources leaves the files as they are and has a result
that only they decide. -/
namespace BindingDocs.Generation
open BindingDocs.Files BindingDocs.Output BindingDocs.Reference BindingDocs.Registration

/-- What comes of a part of a run. -/
def outcome {α : Type} (x : Action α) (s : Session) : Except Failure α × Session := x.run s

/-- A part of a run that succeeds. -/
def Succeeds {α : Type} (x : Action α) (before : Session) (a : α) (after : Session) : Prop :=
  outcome x before = (.ok a, after)

section
variable {α β : Type} {s s' : Session}

lemma outcome_bind_of_ok {x : Action α} {a : α} (h : outcome x s = (.ok a, s')) (f : α → Action β) :
    outcome (x >>= f) s = outcome (f a) s' := by
  have hbind : outcome (x >>= f) s = ExceptT.bindCont f (outcome x s).1 (outcome x s).2 := rfl
  rw [hbind, h]
  rfl

lemma outcome_bind_of_error {x : Action α} {e : Failure} (h : outcome x s = (.error e, s'))
    (f : α → Action β) : outcome (x >>= f) s = (.error e, s') := by
  have hbind : outcome (x >>= f) s = ExceptT.bindCont f (outcome x s).1 (outcome x s).2 := rfl
  rw [hbind, h]
  rfl

lemma succeeds_bind_iff {x : Action α} {f : α → Action β} {b : β} :
    Succeeds (x >>= f) s b s' ↔ ∃ a mid, Succeeds x s a mid ∧ Succeeds (f a) mid b s' := by
  rw [Succeeds]
  rcases hx : outcome x s with ⟨e | a, mid⟩
  · rw [outcome_bind_of_error hx]
    simp [Succeeds, hx]
  · rw [outcome_bind_of_ok hx]
    simp [Succeeds, hx]

lemma succeeds_pure_iff {a b : α} : Succeeds (pure a) s b s' ↔ a = b ∧ s = s' := by
  have hpure : outcome (pure a) s = (.ok a, s) := rfl
  simp [Succeeds, hpure]

lemma not_succeeds_throw {e : Failure} {a : α} : ¬ Succeeds (throw e) s a s' := by
  have hthrow : outcome (throw e : Action α) s = (.error e, s) := rfl
  simp [Succeeds, hthrow]

lemma succeeds_say_iff {entries : List LogEntry} {u : Unit} :
    Succeeds (say entries) s u s' ↔ s' = { s with log := s.log ++ entries } := by
  have hsay : outcome (say entries) s = (.ok (), { s with log := s.log ++ entries }) := rfl
  simp [Succeeds, hsay, eq_comm]

lemma succeeds_get_iff {t : Session} : Succeeds get s t s' ↔ t = s ∧ s' = s := by
  have hget : outcome get s = (.ok s, s) := rfl
  simp [Succeeds, hget, eq_comm]

lemma succeeds_orFail_iff {ε : Type} {failure : ε → Failure} {r : Except ε α} {a : α} :
    Succeeds (orFail failure r) s a s' ↔ r = .ok a ∧ s' = s := by
  cases r with
  | error e => simp [orFail, not_succeeds_throw]
  | ok b => simp [orFail, succeeds_pure_iff, eq_comm]

lemma succeeds_modify_iff {f : Session → Session} {u : Unit} : Succeeds (modify f) s u s' ↔ s' = f s := by
  have hmodify : outcome (modify f) s = (.ok (), f s) := rfl
  simp [Succeeds, hmodify, eq_comm]

/-- What one step keeps, all of them keep. -/
lemma succeeds_foldlM {P : β → Prop} {f : β → α → Action β} {as : List α} {b b' : β}
    (h : Succeeds (as.foldlM f b) s b' s')
    (hstep : ∀ a ∈ as, ∀ c c' t t', P c → Succeeds (f c a) t c' t' → P c') (hb : P b) : P b' := by
  induction as generalizing b s with
  | nil =>
    obtain ⟨rfl, -⟩ := succeeds_pure_iff.1 h
    exact hb
  | cons a as ih =>
    rw [List.foldlM_cons] at h
    obtain ⟨c, mid, hfirst, hrest⟩ := succeeds_bind_iff.1 h
    exact ih hrest (fun a' ha' => hstep a' (List.mem_cons_of_mem a ha')) (hstep a (by simp) _ _ _ _ hb hfirst)

end

/-- A part of a run that only reads and logs: the files decide its result, and they stay. -/
def ReadsOnly {α : Type} (x : Action α) : Prop :=
  ∃ result : Node → Except Failure α, ∀ s, ∃ log, outcome x s = (result s.tree, ⟨s.tree, log⟩)

namespace ReadsOnly
variable {α β : Type}

lemma pure (a : α) : ReadsOnly (Pure.pure a) := ⟨fun _ => .ok a, fun s => ⟨s.log, rfl⟩⟩

lemma throw (e : Failure) : ReadsOnly (MonadExcept.throw e : Action α) :=
  ⟨fun _ => .error e, fun s => ⟨s.log, rfl⟩⟩

lemma say (entries : List LogEntry) : ReadsOnly (say entries) :=
  ⟨fun _ => .ok (), fun s => ⟨s.log ++ entries, rfl⟩⟩

lemma orFail {ε : Type} (failure : ε → Failure) (r : Except ε α) : ReadsOnly (orFail failure r) := by
  cases r with
  | error e => exact throw (failure e)
  | ok a => exact pure a

lemma bind {x : Action α} {f : α → Action β} (hx : ReadsOnly x) (hf : ∀ a, ReadsOnly (f a)) :
    ReadsOnly (x >>= f) := by
  obtain ⟨result, hresult⟩ := hx
  choose next hnext using hf
  refine ⟨fun tree => result tree >>= fun a => next a tree, fun s => ?_⟩
  obtain ⟨log, hlog⟩ := hresult s
  cases hr : result s.tree with
  | error e =>
    rw [hr] at hlog
    refine ⟨log, (outcome_bind_of_error hlog f).trans ?_⟩
    simp only [hr]
    rfl
  | ok a =>
    rw [hr] at hlog
    obtain ⟨log', hlog'⟩ := hnext a ⟨s.tree, log⟩
    refine ⟨log', (outcome_bind_of_ok hlog f).trans (hlog'.trans ?_)⟩
    simp only [hr]
    rfl

/-- What stands at a path is looked up in the files of the session. -/
lemma find {failure : Problem → Failure} {root : String} {f : Node → Action α}
    (hf : ∀ n, ReadsOnly (f n)) :
    ReadsOnly (get >>= fun s : Session => Generation.orFail failure (s.tree.find root) >>= f) := by
  have hg : ∀ tree : Node, ReadsOnly (Generation.orFail failure (tree.find root) >>= f) :=
    fun tree => (orFail failure _).bind hf
  choose result hresult using hg
  refine ⟨fun tree => result tree tree, fun s => ?_⟩
  obtain ⟨log, hlog⟩ := hresult s.tree s
  exact ⟨log, hlog⟩

lemma foldlM {f : β → α → Action β} (hf : ∀ b a, ReadsOnly (f b a)) (as : List α) (b : β) :
    ReadsOnly (as.foldlM f b) := by
  induction as generalizing b with
  | nil => exact pure b
  | cons a as ih =>
    rw [List.foldlM_cons]
    exact (hf b a).bind fun b' => ih b'

lemma mapM {f : α → Action β} (hf : ∀ a, ReadsOnly (f a)) (as : List α) : ReadsOnly (as.mapM f) := by
  induction as with
  | nil =>
    rw [List.mapM_nil]
    exact pure []
  | cons a as ih =>
    rw [List.mapM_cons]
    exact (hf a).bind fun b => ih.bind fun bs => pure (b :: bs)

lemma tree_eq {x : Action α} (h : ReadsOnly x) {s s' : Session} {a : α} (hx : Succeeds x s a s') :
    s'.tree = s.tree := by
  obtain ⟨result, hresult⟩ := h
  obtain ⟨log, hlog⟩ := hresult s
  rw [Succeeds, hlog, Prod.mk.injEq] at hx
  rw [← hx.2]

/-- The same files give the same result. -/
lemma fst_eq {x : Action α} (h : ReadsOnly x) {s s' t : Session} {a : α} (hx : Succeeds x s a s')
    (ht : t.tree = s.tree) : (outcome x t).1 = .ok a := by
  obtain ⟨result, hresult⟩ := h
  obtain ⟨log, hlog⟩ := hresult s
  obtain ⟨log', hlog'⟩ := hresult t
  rw [Succeeds, hlog, Prod.mk.injEq] at hx
  rw [hlog', ht, hx.1]

end ReadsOnly

lemma readsOnly_text (failure : SourceError → Failure) (f : SourceFile) : ReadsOnly (text failure f) := by
  rw [text]
  split
  · exact .pure _
  · exact .throw _

lemma readsOnly_readReference (s : ReferenceSettings) (root : String) : ReadsOnly (readReference s root) := by
  refine .find fun n => ?_
  rcases referenceFiles s root n with ⟨files, generated⟩
  refine (ReadsOnly.say _).bind fun _ => .foldlM (fun m f => ?_) files _
  refine (readsOnly_text _ f).bind fun t => ?_
  split
  · exact .throw _
  · exact (ReadsOnly.say _).bind fun _ => .pure _

lemma readsOnly_addBindings (s : Scanner) (f : SourceFile) : ReadsOnly (addBindings s f) := by
  refine (readsOnly_text _ f).bind fun t => (ReadsOnly.say _).bind fun _ => ?_
  split
  · exact (ReadsOnly.say _).bind fun _ => .pure _
  · exact .throw _

lemma readsOnly_readBindings (s : BindingSettings) (root : String) : ReadsOnly (readBindings s root) := by
  refine .find fun n => ?_
  exact (ReadsOnly.foldlM readsOnly_addBindings _ _).bind fun scanner => .pure scanner.finish

/-- Sources are read below a directory. -/
lemma isDirAt_of_readReference {st : ReferenceSettings} {root : String} {s s' : Session} {m : Model}
    (h : Succeeds (readReference st root) s m s') : s.tree.IsDirAt [] := by
  obtain ⟨t, mid, hget, hfind⟩ := succeeds_bind_iff.1 h
  obtain ⟨rfl, rfl⟩ := succeeds_get_iff.1 hget
  obtain ⟨n, mid, hfound, -⟩ := succeeds_bind_iff.1 hfind
  exact Node.isDirAt_of_find (succeeds_orFail_iff.1 hfound).1

lemma scanned_of_addBindings {c c' : Scanner} {f : SourceFile} {s s' : Session}
    (h : Succeeds (addBindings c f) s c' s') : ∃ lines, c' = c.advance lines := by
  obtain ⟨text, mid, -, h⟩ := succeeds_bind_iff.1 h
  obtain ⟨u, mid, -, h⟩ := succeeds_bind_iff.1 h
  split at h
  · rename_i scanned hscan
    obtain ⟨u, mid, -, h⟩ := succeeds_bind_iff.1 h
    refine ⟨c.metLines (Scanner.trimmedLines text), ?_⟩
    rw [← (succeeds_pure_iff.1 h).1, ← Scanner.scanLines_advance c 1]
    exact (congrArg Prod.snd hscan).symm
  · exact absurd h not_succeeds_throw

/-- Scanned classes stand under the keys of their names. -/
lemma keyed_of_readBindings {st : BindingSettings} {root : String} {s s' : Session} {b : BindingSet}
    (h : Succeeds (readBindings st root) s b s') : b.Keyed := by
  obtain ⟨t, mid, -, h⟩ := succeeds_bind_iff.1 h
  obtain ⟨n, mid, -, h⟩ := succeeds_bind_iff.1 h
  obtain ⟨scanner, mid, hscan, h⟩ := succeeds_bind_iff.1 h
  obtain ⟨rfl, -⟩ := succeeds_pure_iff.1 h
  have hconsistent : ∃ history, Scanner.Consistent history scanner := by
    refine succeeds_foldlM (P := fun c => ∃ history, Scanner.Consistent history c) hscan ?_
      ⟨[], Scanner.consistent_new⟩
    rintro f - c c' t t' ⟨history, hc⟩ hadd
    obtain ⟨lines, rfl⟩ := scanned_of_addBindings hadd
    exact ⟨_, hc.advance lines⟩
  obtain ⟨history, hscanner⟩ := hconsistent
  exact hscanner.close.keyed

lemma succeeds_emit {surface : Surface} {o : Options} {e : Emitter} {s s' : Session} {made : List Artifact}
    (h : Succeeds (emit surface o e) s made s') : made = e.artifacts surface o := by
  obtain ⟨u, mid, -, h⟩ := succeeds_bind_iff.1 h
  exact (succeeds_pure_iff.1 h).1.symm

lemma succeeds_mapM_emit {surface : Surface} {o : Options} {es : List Emitter} {s s' : Session}
    {made : List (List Artifact)} (h : Succeeds (es.mapM (emit surface o)) s made s') :
    made = es.map (·.artifacts surface o) := by
  induction es generalizing s s' made with
  | nil =>
    rw [List.mapM_nil] at h
    exact (succeeds_pure_iff.1 h).1.symm
  | cons e es ih =>
    rw [List.mapM_cons] at h
    obtain ⟨first, mid, hfirst, h⟩ := succeeds_bind_iff.1 h
    obtain ⟨rest, mid, hrest, h⟩ := succeeds_bind_iff.1 h
    rw [← (succeeds_pure_iff.1 h).1, succeeds_emit hfirst, ih hrest, List.map_cons]

lemma readsOnly_generate (st : Settings) (referenceRoot bindingsRoot : String) :
    ReadsOnly (generate st referenceRoot bindingsRoot) := by
  refine (ReadsOnly.orFail _ _).bind fun chosen => ?_
  refine (readsOnly_readReference _ _).bind fun m => (ReadsOnly.say _).bind fun _ => ?_
  refine (readsOnly_readBindings _ _).bind fun b => (ReadsOnly.say _).bind fun _ => ?_
  refine (ReadsOnly.mapM (fun e => ?_) chosen).bind fun made => .pure _
  exact (ReadsOnly.say _).bind fun _ => .pure _

/-- The artifacts of a run are those of its emitters for the sources that it reads. -/
lemma succeeds_generate {st : Settings} {referenceRoot bindingsRoot : String} {s s' : Session}
    {made : List Artifact} (h : Succeeds (generate st referenceRoot bindingsRoot) s made s') :
    ∃ chosen m b, emitters st.output = .ok chosen ∧
      (outcome (readReference st.reference referenceRoot) s).1 = .ok m ∧
      (outcome (readBindings st.bindings bindingsRoot) s).1 = .ok b ∧ b.Keyed ∧
      made = chosen.flatMap (·.artifacts ⟨m, b⟩ st.output.options) ∧ s.tree.IsDirAt [] ∧
      s'.tree = s.tree := by
  have htree := (readsOnly_generate st referenceRoot bindingsRoot).tree_eq h
  obtain ⟨chosen, s₁, hselect, h₁⟩ := succeeds_bind_iff.1 h
  obtain ⟨hchosen, rfl⟩ := succeeds_orFail_iff.1 hselect
  obtain ⟨m, s₂, hm, h₂⟩ := succeeds_bind_iff.1 h₁
  obtain ⟨u, s₃, hsay, h₃⟩ := succeeds_bind_iff.1 h₂
  obtain ⟨b, s₄, hb, h₄⟩ := succeeds_bind_iff.1 h₃
  obtain ⟨u, s₅, -, h₅⟩ := succeeds_bind_iff.1 h₄
  obtain ⟨parts, s₆, hparts, hmade⟩ := succeeds_bind_iff.1 h₅
  have hreads := readsOnly_readReference st.reference referenceRoot
  have htree₃ : s₁.tree = s₃.tree := by rw [(ReadsOnly.say _).tree_eq hsay, hreads.tree_eq hm]
  refine ⟨chosen, m, b, hchosen, hreads.fst_eq hm rfl, (readsOnly_readBindings _ _).fst_eq hb htree₃,
    keyed_of_readBindings hb, ?_, isDirAt_of_readReference hm, htree⟩
  rw [← (succeeds_pure_iff.1 hmade).1, succeeds_mapM_emit hparts, List.flatMap_def]

/-- One artifact is written below the root, and its path is told. -/
lemma succeeds_writeArtifact {root : String} {a : Artifact} {s s' : Session} {path : String}
    (h : Succeeds (writeArtifact root a) s path s') :
    path = joinPath root a.path ∧ s.tree.write (joinPath root a.path) a.contents = .ok s'.tree := by
  obtain ⟨t, s₁, hget, h₁⟩ := succeeds_bind_iff.1 h
  obtain ⟨rfl, rfl⟩ := succeeds_get_iff.1 hget
  obtain ⟨tree, s₂, htree, h₂⟩ := succeeds_bind_iff.1 h₁
  obtain ⟨hwrite, rfl⟩ := succeeds_orFail_iff.1 htree
  obtain ⟨u, s₃, hset, h₃⟩ := succeeds_bind_iff.1 h₂
  obtain ⟨u, s₄, hsay, h₄⟩ := succeeds_bind_iff.1 h₃
  obtain ⟨rfl, rfl⟩ := succeeds_pure_iff.1 h₄
  rw [succeeds_say_iff.1 hsay, succeeds_modify_iff.1 hset]
  exact ⟨rfl, hwrite⟩

end BindingDocs.Generation
