/-
# `AegisOs.Lib.Bisim` — one program on two representations

`Bisim R m m'`: begun in states that are related by `R`, the two programs return the
same value or raise the same exception, and end in states that are related by `R`.
There is one rule for each construct, so a function that goes through an interface
only is seen to be indifferent to what implements it by following its text; what is
left to prove is that the operations of the interface are.

`Bisim.outcomes` lifts this to whole runs: callers cannot tell the two apart.
-/
import AegisOs.Lib.Runs

namespace AegisOs.Lib.EState

variable {ε σ τ ρ π α β : Type} {R : σ → τ → Prop}

/-- The same value or exception, and related states. -/
inductive Match (R : σ → τ → Prop) : EStateM.Result ε σ α → EStateM.Result ε τ α → Prop
  | ok {a : α} {s : σ} {t : τ} : R s t → Match R (.ok a s) (.ok a t)
  | error {e : ε} {s : σ} {t : τ} : R s t → Match R (.error e s) (.error e t)

/-- See the header. -/
def Bisim (R : σ → τ → Prop) (m : EStateM ε σ α) (m' : EStateM ε τ α) : Prop :=
  ∀ s t, R s t → Match R (m s) (m' t)

theorem Match.result {r : EStateM.Result ε σ α} {r' : EStateM.Result ε τ α} (h : Match R r r') :
    result r = result r' := by
  cases h <;> rfl

theorem Match.after {r : EStateM.Result ε σ α} {r' : EStateM.Result ε τ α} (h : Match R r r') :
    R (after r) (after r') := by
  cases h <;> assumption

theorem Bisim.pure (a : α) : Bisim R (Pure.pure a : EStateM ε σ α) (Pure.pure a) :=
  fun _ _ h => .ok h

theorem Bisim.throw (e : ε) : Bisim R (throw e : EStateM ε σ α) (throw e) := fun _ _ h => .error h

theorem Bisim.ofExcept (x : Except ε α) :
    Bisim R (MonadExcept.ofExcept x : EStateM ε σ α) (MonadExcept.ofExcept x) := by
  intro s t h
  cases x with
  | ok a => exact .ok h
  | error e => exact .error h

theorem Bisim.modify {f : σ → σ} {g : τ → τ} (h : ∀ s t, R s t → R (f s) (g t)) :
    Bisim R (modify f : EStateM ε σ PUnit) (modify g) :=
  fun s t hs => .ok (h s t hs)

theorem Bisim.bind {m : EStateM ε σ α} {m' : EStateM ε τ α} {f : α → EStateM ε σ β}
    {f' : α → EStateM ε τ β} (hm : Bisim R m m') (hf : ∀ a, Bisim R (f a) (f' a)) :
    Bisim R (m >>= f) (m' >>= f') := by
  intro s t h
  have hmatch := hm s t h
  cases hr : m s with
  | ok a s₁ =>
      cases hr' : m' t with
      | ok b t₁ =>
          rw [hr, hr'] at hmatch
          cases hmatch with
          | ok hR =>
              rw [bind_ok hr, bind_ok hr']
              exact hf a s₁ t₁ hR
      | error e t₁ =>
          rw [hr, hr'] at hmatch
          cases hmatch
  | error e s₁ =>
      cases hr' : m' t with
      | ok b t₁ =>
          rw [hr, hr'] at hmatch
          cases hmatch
      | error e' t₁ =>
          rw [hr, hr'] at hmatch
          cases hmatch with
          | error hR =>
              rw [bind_error hr, bind_error hr']
              exact .error hR

theorem Bisim.map {m : EStateM ε σ α} {m' : EStateM ε τ α} (f : α → β) (hm : Bisim R m m') :
    Bisim R (f <$> m) (f <$> m') := by
  rw [← bind_pure_comp, ← bind_pure_comp]
  exact hm.bind fun a => Bisim.pure (f a)

/-- Code that looks at the state. -/
theorem Bisim.get_bind {f : σ → EStateM ε σ β} {f' : τ → EStateM ε τ β}
    (h : ∀ s t, R s t → Match R (f s s) (f' t t)) :
    Bisim R (get >>= f) (get >>= f') := h

theorem Bisim.catching {m : EStateM ε σ α} {m' : EStateM ε τ α} {f : ε → Option (EStateM ε σ α)}
    {f' : ε → Option (EStateM ε τ α)} (hm : Bisim R m m')
    (hnone : ∀ e, f e = none ↔ f' e = none)
    (hsome : ∀ e g g', f e = some g → f' e = some g' → Bisim R g g') :
    Bisim R (Lib.catching m f) (Lib.catching m' f') := by
  intro s t h
  have hmatch := hm s t h
  generalize hr : m s = r at hmatch
  generalize hr' : m' t = r' at hmatch
  cases hmatch with
  | ok hR =>
      rw [catching_ok hr, catching_ok hr']
      exact .ok hR
  | @error e s₁ t₁ hR =>
      cases hf : f e with
      | none =>
          rw [catching_none hr hf, catching_none hr' ((hnone e).mp hf)]
          exact .error hR
      | some g =>
          cases hf' : f' e with
          | none =>
              rw [(hnone e).mpr hf'] at hf
              cases hf
          | some g' =>
              rw [catching_some hr hf, catching_some hr' hf']
              exact hsome e g g' hf hf' s₁ t₁ hR

theorem Bisim.ite {c : Prop} [Decidable c] {m n : EStateM ε σ α} {m' n' : EStateM ε τ α}
    (hm : Bisim R m m') (hn : Bisim R n n') :
    Bisim R (if c then m else n) (if c then m' else n') := by
  split
  · exact hm
  · exact hn

/-- Code on a part of the state. -/
theorem Bisim.zoom {S : ρ → π → Prop} {g : ρ → σ} {set : σ → ρ → ρ} {g' : π → τ}
    {set' : τ → π → π} {m : EStateM ε σ α} {m' : EStateM ε τ α} (hm : Bisim R m m')
    (hget : ∀ s t, S s t → R (g s) (g' t))
    (hset : ∀ s t a b, S s t → R a b → S (set a s) (set' b t)) :
    Bisim S (Lib.zoom g set m) (Lib.zoom g' set' m') := by
  intro s t h
  have hmatch := hm _ _ (hget s t h)
  generalize hr : m (g s) = r at hmatch
  generalize hr' : m' (g' t) = r' at hmatch
  cases hmatch with
  | ok hR =>
      rw [zoom_ok hr, zoom_ok hr']
      exact .ok (hset s t _ _ h hR)
  | error hR =>
      rw [zoom_error hr, zoom_error hr']
      exact .error (hset s t _ _ h hR)

/-- **Indistinguishable.**  Whole runs give the same outcomes, and end in related states. -/
theorem Bisim.outcomes {ι : Type} {m : ι → EStateM ε σ α} {m' : ι → EStateM ε τ α}
    (h : ∀ x, Bisim R (m x) (m' x)) :
    ∀ (xs : List ι) {s : σ} {t : τ}, R s t →
      Lib.outcomes m xs s = Lib.outcomes m' xs t ∧ R (final m xs s) (final m' xs t)
  | [], _, _, hs => ⟨rfl, hs⟩
  | x :: xs, s, t, hs => by
      have hmatch := h x s t hs
      obtain ⟨houts, hfinal⟩ := Bisim.outcomes h xs hmatch.after
      refine ⟨?_, hfinal⟩
      unfold Lib.outcomes
      rw [hmatch.result, houts]

end AegisOs.Lib.EState
