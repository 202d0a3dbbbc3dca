/-
# `AegisOs.Lib.Twin` — two runs side by side

`Twin C A P X p p' s`: run from the same state `s`, the two programs act on it
in the same way, await together calls that are related by `C`, and end together,
with results related by `P` or exceptions related by `X`, whenever their
calls are answered with answers that are related by `A`.  The state is the same
on both sides throughout; the data may differ.

`Conf.Beside` is the machine of two such runs, with the same interference on
both sides.  By `Twin.beside` they run through the same segments.
-/
import AegisOs.Lib.Co

namespace AegisOs.Lib

/-! ## Code without awaits -/

namespace EState

variable {ε σ α β α' β' : Type}

/-- Two results with the same state: values related by `P`, or exceptions related by `X`. -/
inductive Same (P : α → β → Prop) (X : ε → ε → Prop) :
    EStateM.Result ε σ α → EStateM.Result ε σ β → Prop
  | ok {a : α} {b : β} {s : σ} : P a b → Same P X (.ok a s) (.ok b s)
  | error {e e' : ε} {s : σ} : X e e' → Same P X (.error e s) (.error e' s)

variable {P : α → β → Prop} {X Y : ε → ε → Prop}

theorem Same.refl {P : α → α → Prop} (hP : ∀ a, P a a) (hX : ∀ e, X e e) :
    ∀ r : EStateM.Result ε σ α, Same P X r r
  | .ok a _ => .ok (hP a)
  | .error e _ => .error (hX e)

theorem Same.bind {P' : α' → β' → Prop} {m : EStateM ε σ α} {m' : EStateM ε σ β}
    {f : α → EStateM ε σ α'} {f' : β → EStateM ε σ β'} {s : σ} (hm : Same P X (m s) (m' s))
    (hf : ∀ a b t, P a b → Same P' X (f a t) (f' b t)) :
    Same P' X ((m >>= f) s) ((m' >>= f') s) := by
  generalize hr : m s = r at hm
  generalize hr' : m' s = r' at hm
  cases hm with
  | ok hab =>
      rw [bind_ok hr, bind_ok hr']
      exact hf _ _ _ hab
  | error he =>
      rw [bind_error hr, bind_error hr']
      exact .error he

/-- Both handlers take over, with code that is related in its turn. -/
theorem Same.catching {m : EStateM ε σ α} {m' : EStateM ε σ β} {f : ε → EStateM ε σ α}
    {f' : ε → EStateM ε σ β} {s : σ} (hm : Same P Y (m s) (m' s))
    (hf : ∀ e e' t, Y e e' → Same P X (f e t) (f' e' t)) :
    Same P X (catching m (fun e => some (f e)) s) (catching m' (fun e => some (f' e)) s) := by
  generalize hr : m s = r at hm
  generalize hr' : m' s = r' at hm
  cases hm with
  | ok hab =>
      rw [catching_ok hr, catching_ok hr']
      exact .ok hab
  | error he =>
      rw [catching_some hr rfl, catching_some hr' rfl]
      exact hf _ _ _ he

end EState

/-! ## Programs -/

namespace Co

section
variable {σ ε Q : Type} {R : Q → Type} {α β α' β' : Type}

/-- The relation; see the header. -/
def Twin (C : Q → Q → Prop) (A : (q q' : Q) → Except ε (R q) → Except ε (R q') → Prop)
    (P : α → β → Prop) (X : ε → ε → Prop) : Co σ ε Q R α → Co σ ε Q R β → σ → Prop
  | .ret a, .ret b, _ => P a b
  | .raise e, .raise e', _ => X e e'
  | .act upd k, .act upd' k', s => upd' s = upd s ∧ Twin C A P X (k s) (k' s) (upd s)
  | .await q k, .await q' k', _ =>
      C q q' ∧ ∀ r r', A q q' r r' → ∀ s, Twin C A P X (k r) (k' r') s
  | _, _, _ => False

variable {C : Q → Q → Prop} {A : (q q' : Q) → Except ε (R q) → Except ε (R q') → Prop}
  {P : α → β → Prop} {X Y : ε → ε → Prop}

theorem Twin.pure {a : α} {b : β} {s : σ} (h : P a b) :
    Twin C A P X (Pure.pure a : Co σ ε Q R α) (Pure.pure b) s := h

theorem Twin.bind {P' : α' → β' → Prop} {f : α → Co σ ε Q R α'} {f' : β → Co σ ε Q R β'}
    (hf : ∀ a b s, P a b → Twin C A P' X (f a) (f' b) s) :
    ∀ {p : Co σ ε Q R α} {p' : Co σ ε Q R β} {s : σ}, Twin C A P X p p' s →
      Twin C A P' X (p >>= f) (p' >>= f') s
  | .ret _, .ret _, s, hp => hf _ _ s hp
  | .raise _, .raise _, _, hp => hp
  | .act _ _, .act _ _, _, hp => ⟨hp.1, Twin.bind hf hp.2⟩
  | .await _ _, .await _ _, _, hp => ⟨hp.1, fun r r' hr s => Twin.bind hf (hp.2 r r' hr s)⟩

theorem Twin.tryCatch {f : ε → Co σ ε Q R α} {f' : ε → Co σ ε Q R β}
    (hf : ∀ e e' s, Y e e' → Twin C A P X (f e) (f' e') s) :
    ∀ {p : Co σ ε Q R α} {p' : Co σ ε Q R β} {s : σ}, Twin C A P Y p p' s →
      Twin C A P X (tryCatch p f) (tryCatch p' f') s
  | .ret _, .ret _, _, hp => hp
  | .raise _, .raise _, s, hp => hf _ _ s hp
  | .act _ _, .act _ _, _, hp => ⟨hp.1, Twin.tryCatch hf hp.2⟩
  | .await _ _, .await _ _, _, hp => ⟨hp.1, fun r r' hr s => Twin.tryCatch hf (hp.2 r r' hr s)⟩

theorem Twin.lift {m : EStateM ε σ α} {m' : EStateM ε σ β} {s : σ}
    (h : EState.Same P X (m s) (m' s)) :
    Twin C A P X (Co.lift m : Co σ ε Q R α) (Co.lift m') s := by
  simp only [Co.lift, Twin]
  generalize m s = r at h
  generalize m' s = r' at h
  cases h with
  | ok hab => exact ⟨rfl, hab⟩
  | error he => exact ⟨rfl, he⟩

/-- Two answers: values related by `P`, or exceptions related by `X`. -/
inductive Agree (P : α → β → Prop) (X : ε → ε → Prop) : Except ε α → Except ε β → Prop
  | ok {a : α} {b : β} : P a b → Agree P X (.ok a) (.ok b)
  | error {e e' : ε} : X e e' → Agree P X (.error e) (.error e')

theorem Twin.call {q q' : Q} {P : R q → R q' → Prop} {s : σ} (hq : C q q')
    (hA : ∀ r r', A q q' r r' → Agree P X r r') :
    Twin C A P X (Co.call q : Co σ ε Q R (R q)) (Co.call q') s := by
  refine ⟨hq, ?_⟩
  intro r r' hr t
  cases hA r r' hr with
  | ok hab => exact hab
  | error he => exact he

/-! ## The machine -/

/-- Two stops that belong together. -/
def Meet (C : Q → Q → Prop) (A : (q q' : Q) → Except ε (R q) → Except ε (R q') → Prop)
    (P : α → β → Prop) (X : ε → ε → Prop) : Point σ ε Q R α → Point σ ε Q R β → Prop
  | .done a, .done b => P a b
  | .failed e, .failed e' => X e e'
  | .waiting q k, .waiting q' k' =>
      C q q' ∧ ∀ r r', A q q' r r' → ∀ s, Twin C A P X (k r) (k' r') s
  | _, _ => False

theorem Twin.resume : ∀ {p : Co σ ε Q R α} {p' : Co σ ε Q R β} {s : σ}, Twin C A P X p p' s →
    (p'.resume s).2 = (p.resume s).2 ∧ Meet C A P X (p.resume s).1 (p'.resume s).1
  | .ret _, .ret _, _, hp => ⟨rfl, hp⟩
  | .raise _, .raise _, _, hp => ⟨rfl, hp⟩
  | .act upd k, .act upd' k', s, hp => by
      have ih := Twin.resume hp.2
      show ((k' s).resume (upd' s)).2 = ((k s).resume (upd s)).2 ∧
        Meet C A P X ((k s).resume (upd s)).1 ((k' s).resume (upd' s)).1
      rw [hp.1]
      exact ih
  | .await _ _, .await _ _, _, hp => ⟨rfl, hp⟩

/-- Two runs from `s` to a pair of configurations, each with the segments it has run.  Interference
is the same on both sides, and answers to corresponding calls are related by `A`. -/
inductive Conf.Beside (I : σ → σ → Prop)
    (A : (q q' : Q) → Except ε (R q) → Except ε (R q') → Prop) (p : Co σ ε Q R α)
    (p' : Co σ ε Q R β) (s : σ) :
    List (σ × σ) → Conf σ ε Q R α → List (σ × σ) → Conf σ ε Q R β → Prop
  | start : Conf.Beside I A p p' s [(s, (p.resume s).2)] (Conf.start p s)
      [(s, (p'.resume s).2)] (Conf.start p' s)
  | interfere {segs segs' : List (σ × σ)} {c : Conf σ ε Q R α} {c' : Conf σ ε Q R β} {t : σ} :
      Conf.Beside I A p p' s segs c segs' c' → I c.state t →
      Conf.Beside I A p p' s segs { c with state := t } segs' { c' with state := t }
  | answer {segs segs' : List (σ × σ)} {h h' : Hist ε Q R} {s₀ s₁ t s₀' s₁' t' : σ} {q q' : Q}
      {k : Except ε (R q) → Co σ ε Q R α} {k' : Except ε (R q') → Co σ ε Q R β}
      {r : Except ε (R q)} {r' : Except ε (R q')} :
      Conf.Beside I A p p' s segs ⟨h, s₀, s₁, .waiting q k, t⟩ segs'
        ⟨h', s₀', s₁', .waiting q' k', t'⟩ → A q q' r r' →
      Conf.Beside I A p p' s (segs ++ [(t, ((k r).resume t).2)]) (Conf.answer h q k r t)
        (segs' ++ [(t', ((k' r').resume t').2)]) (Conf.answer h' q' k' r' t')

/-- Whether both wait `n` times, for calls that are alike, when `f` and `f'` answer them. -/
def Conf.inStep (alike : Q → Q → Bool) (f f' : (q : Q) → Except ε (R q)) :
    ℕ → Conf σ ε Q R α → Conf σ ε Q R β → Bool
  | 0, _, _ => true
  | n + 1, c, c' =>
      match c.point, c'.point with
      | .waiting q k, .waiting q' k' =>
          alike q q' && Conf.inStep alike f f' n (Conf.answer c.hist q k (f q) c.state)
            (Conf.answer c'.hist q' k' (f' q') c'.state)
      | _, _ => false

theorem Conf.Beside.drive {I : σ → σ → Prop} {p : Co σ ε Q R α} {p' : Co σ ε Q R β} {s : σ}
    {alike : Q → Q → Bool} {f f' : (q : Q) → Except ε (R q)}
    (hA : ∀ q q', alike q q' = true → A q q' (f q) (f' q')) (n : ℕ) :
    ∀ {segs segs' : List (σ × σ)} {c : Conf σ ε Q R α} {c' : Conf σ ε Q R β},
      Conf.Beside I A p p' s segs c segs' c' → Conf.inStep alike f f' n c c' = true →
      Conf.Beside I A p p' s (Conf.drive f n segs c).1 (Conf.drive f n segs c).2
        (Conf.drive f' n segs' c').1 (Conf.drive f' n segs' c').2 := by
  induction n with
  | zero => exact fun h _ => h
  | succ n ih =>
      rintro segs segs' ⟨hist, s₀, s₁, point, t⟩ ⟨hist', s₀', s₁', point', t'⟩ h hstep
      cases point with
      | done _ | failed _ => cases hstep
      | waiting q k =>
          cases point' with
          | done _ | failed _ => cases hstep
          | waiting q' k' =>
              obtain ⟨halike, hrest⟩ := Bool.and_eq_true_iff.mp hstep
              exact ih (h.answer (hA q q' halike)) hrest

end

end Co

end AegisOs.Lib
