/-
# `AegisOs.Lib.EState` — synchronous code that raises

`EStateM ε σ` is imperative code with exceptions: a result comes with a state
whether it is a value or an exception, so what was done before a `throw` stays
done.  This module has the two combinators the core library lacks
(`catching`, an `except` clause that may let an exception through, and `zoom`,
code on a part of the state), the inversion of a run that is a sequence, and
`Keeps`: the rules for "whatever happens, the state before and the state after
are related", which is how frame conditions are proved.  `Returns` is the other
direction: the code does not raise here, and ends as said.
-/
import Mathlib.Init

namespace AegisOs.Lib

/-- An `except` clause: run the handler `f e` answers, let the exception through where it answers
nothing. -/
def catching {ε σ α : Type} (m : EStateM ε σ α) (f : ε → Option (EStateM ε σ α)) :
    EStateM ε σ α := fun s =>
  match m s with
  | .ok a s' => .ok a s'
  | .error e s' => match f e with | some h => h s' | none => .error e s'

/-- Run code on a part of the state. -/
def zoom {ε σ τ α : Type} (get : σ → τ) (set : τ → σ → σ) (m : EStateM ε τ α) : EStateM ε σ α :=
  fun s =>
    match m (get s) with
    | .ok a t => .ok a (set t s)
    | .error e t => .error e (set t s)

namespace EState

variable {ε σ τ α β : Type}

/-! ## Inversion -/

theorem bind_ok {m : EStateM ε σ α} {f : α → EStateM ε σ β} {s s' : σ} {a : α}
    (h : m s = .ok a s') : (m >>= f) s = f a s' := by
  show EStateM.bind m f s = _
  simp [EStateM.bind, h]

theorem bind_error {m : EStateM ε σ α} {f : α → EStateM ε σ β} {s s' : σ} {e : ε}
    (h : m s = .error e s') : (m >>= f) s = .error e s' := by
  show EStateM.bind m f s = _
  simp [EStateM.bind, h]

theorem map_ok {m : EStateM ε σ α} (f : α → β) {s s' : σ} {a : α} (h : m s = .ok a s') :
    (f <$> m) s = .ok (f a) s' := by
  show EStateM.map f m s = _
  simp [EStateM.map, h]

theorem map_error {m : EStateM ε σ α} (f : α → β) {s s' : σ} {e : ε} (h : m s = .error e s') :
    (f <$> m) s = .error e s' := by
  show EStateM.map f m s = _
  simp [EStateM.map, h]

theorem bind_eq_ok {m : EStateM ε σ α} {f : α → EStateM ε σ β} {s s'' : σ} {b : β} :
    (m >>= f) s = .ok b s'' ↔ ∃ a s', m s = .ok a s' ∧ f a s' = .ok b s'' := by
  constructor
  · intro hb
    cases h : m s with
    | ok a s' => exact ⟨a, s', rfl, by rwa [bind_ok h] at hb⟩
    | error e s' =>
        rw [bind_error h] at hb
        cases hb
  · rintro ⟨a, s', h, hf⟩
    rw [bind_ok h, hf]

theorem bind_eq_error {m : EStateM ε σ α} {f : α → EStateM ε σ β} {s s'' : σ} {e : ε} :
    (m >>= f) s = .error e s'' ↔
      m s = .error e s'' ∨ ∃ a s', m s = .ok a s' ∧ f a s' = .error e s'' := by
  constructor
  · intro hb
    cases h : m s with
    | ok a s' => exact .inr ⟨a, s', rfl, by rwa [bind_ok h] at hb⟩
    | error e' s' =>
        rw [bind_error h] at hb
        cases hb
        exact .inl rfl
  · rintro (h | ⟨a, s', h, hf⟩)
    · exact bind_error h
    · rw [bind_ok h, hf]

@[simp] theorem pure_run (a : α) (s : σ) : (pure a : EStateM ε σ α) s = .ok a s := rfl

@[simp] theorem throw_run (e : ε) (s : σ) : (throw e : EStateM ε σ α) s = .error e s := rfl

@[simp] theorem get_run (s : σ) : (get : EStateM ε σ σ) s = .ok s s := rfl

@[simp] theorem modify_run (f : σ → σ) (s : σ) :
    (modify f : EStateM ε σ PUnit) s = .ok ⟨⟩ (f s) := rfl

@[simp] theorem ofExcept_ok (a : α) (s : σ) :
    (MonadExcept.ofExcept (.ok a : Except ε α) : EStateM ε σ α) s = .ok a s := rfl

@[simp] theorem ofExcept_error (e : ε) (s : σ) :
    (MonadExcept.ofExcept (.error e : Except ε α) : EStateM ε σ α) s = .error e s := rfl

theorem catching_eq_ok {m : EStateM ε σ α} {f : ε → Option (EStateM ε σ α)} {s s' : σ} {a : α} :
    catching m f s = .ok a s' ↔
      m s = .ok a s' ∨ ∃ e s₁ h, m s = .error e s₁ ∧ f e = some h ∧ h s₁ = .ok a s' := by
  unfold catching
  cases m s with
  | ok b t => simp
  | error e s₁ =>
      cases hf : f e with
      | some h =>
          constructor
          · intro hh
            exact .inr ⟨e, s₁, h, rfl, hf, by simpa [hf] using hh⟩
          · rintro (hh | ⟨_, _, h', he, hf', hh⟩)
            · cases hh
            · cases he
              rw [hf] at hf'
              cases hf'
              simpa [hf] using hh
      | none =>
          constructor
          · intro hh
            simp [hf] at hh
          · rintro (hh | ⟨_, _, h', he, hf', _⟩)
            · cases hh
            · cases he
              rw [hf] at hf'
              cases hf'

/-- Code that never returns. -/
def NeverReturns (g : EStateM ε σ α) : Prop := ∀ s a s', g s ≠ .ok a s'

theorem NeverReturns.throw (e : ε) : NeverReturns (throw e : EStateM ε σ α) := by
  intro s a s' h
  cases h

/-- One clause after another. -/
theorem NeverReturns.clause {c : Prop} [Decidable c] {g x : EStateM ε σ α} {rest : Option (EStateM ε σ α)}
    (hg : NeverReturns g) (hrest : rest = some x → NeverReturns x) :
    (if c then some g else rest) = some x → NeverReturns x := by
  intro h
  split at h
  · cases h
    exact hg
  · exact hrest h

theorem NeverReturns.no_clause {x : EStateM ε σ α} : none = some x → NeverReturns x := by
  intro h
  cases h

/-- Where every clause raises in its turn, only the body returns. -/
theorem catching_eq_ok_iff_body {m : EStateM ε σ α} {f : ε → Option (EStateM ε σ α)} {s s' : σ}
    {a : α} (hf : ∀ e g, f e = some g → NeverReturns g) : catching m f s = .ok a s' ↔ m s = .ok a s' := by
  rw [catching_eq_ok]
  constructor
  · rintro (h | ⟨e, s₁, g, -, hg, hrun⟩)
    · exact h
    · exact absurd hrun (hf e g hg s₁ a s')
  · exact .inl

theorem catching_ok {m : EStateM ε σ α} {f : ε → Option (EStateM ε σ α)} {s s' : σ} {a : α}
    (h : m s = .ok a s') : catching m f s = .ok a s' := by
  simp [catching, h]

theorem catching_some {m : EStateM ε σ α} {f : ε → Option (EStateM ε σ α)} {g : EStateM ε σ α}
    {s s' : σ} {e : ε} (h : m s = .error e s') (hf : f e = some g) : catching m f s = g s' := by
  simp [catching, h, hf]

theorem catching_none {m : EStateM ε σ α} {f : ε → Option (EStateM ε σ α)} {s s' : σ} {e : ε}
    (h : m s = .error e s') (hf : f e = none) : catching m f s = .error e s' := by
  simp [catching, h, hf]

theorem catching_eq_error {m : EStateM ε σ α} {f : ε → Option (EStateM ε σ α)} {s s' : σ} {e : ε}
    (h : catching m f s = .error e s') :
    (∃ e₁ s₁ g, m s = .error e₁ s₁ ∧ f e₁ = some g ∧ g s₁ = .error e s') ∨
      (m s = .error e s' ∧ f e = none) := by
  cases hm : m s with
  | ok a t =>
      rw [catching_ok hm] at h
      cases h
  | error e₁ s₁ =>
      cases hf : f e₁ with
      | some g =>
          rw [catching_some hm hf] at h
          exact .inl ⟨e₁, s₁, g, rfl, hf, h⟩
      | none =>
          rw [catching_none hm hf] at h
          cases h
          exact .inr ⟨rfl, hf⟩

theorem zoom_ok {get : σ → τ} {set : τ → σ → σ} {m : EStateM ε τ α} {s : σ} {t : τ} {a : α}
    (h : m (get s) = .ok a t) : zoom get set m s = .ok a (set t s) := by
  simp [zoom, h]

theorem zoom_error {get : σ → τ} {set : τ → σ → σ} {m : EStateM ε τ α} {s : σ} {t : τ} {e : ε}
    (h : m (get s) = .error e t) : zoom get set m s = .error e (set t s) := by
  simp [zoom, h]

theorem zoom_eq_ok {get : σ → τ} {set : τ → σ → σ} {m : EStateM ε τ α} {s s' : σ} {a : α} :
    zoom get set m s = .ok a s' ↔ ∃ t, m (get s) = .ok a t ∧ s' = set t s := by
  cases h : m (get s) with
  | ok b t =>
      rw [zoom_ok h]
      constructor
      · intro he
        cases he
        exact ⟨t, rfl, rfl⟩
      · rintro ⟨t', he, rfl⟩
        cases he
        rfl
  | error e t =>
      rw [zoom_error h]
      simp

theorem zoom_eq_error {get : σ → τ} {set : τ → σ → σ} {m : EStateM ε τ α} {s s' : σ} {e : ε} :
    zoom get set m s = .error e s' ↔ ∃ t, m (get s) = .error e t ∧ s' = set t s := by
  cases h : m (get s) with
  | ok b t =>
      rw [zoom_ok h]
      simp
  | error e' t =>
      rw [zoom_error h]
      constructor
      · intro he
        cases he
        exact ⟨t, rfl, rfl⟩
      · rintro ⟨t', he, rfl⟩
        cases he
        rfl

/-! ## Results -/

/-- The state a result carries. -/
def after : EStateM.Result ε σ α → σ
  | .ok _ s => s
  | .error _ s => s

/-- What a result carries besides the state. -/
def result : EStateM.Result ε σ α → Except ε α
  | .ok a _ => .ok a
  | .error e _ => .error e

theorem eq_ok {r : EStateM.Result ε σ α} {a : α} (h : result r = .ok a) : r = .ok a (after r) := by
  cases r with
  | ok b s =>
      cases h
      rfl
  | error e s => cases h

theorem eq_error {r : EStateM.Result ε σ α} {e : ε} (h : result r = .error e) :
    r = .error e (after r) := by
  cases r with
  | ok a s => cases h
  | error e' s =>
      cases h
      rfl

theorem result_bind (m : EStateM ε σ α) (f : α → EStateM ε σ β) (s : σ) :
    result ((m >>= f) s) = (result (m s)).bind fun a => result (f a (after (m s))) := by
  cases h : m s with
  | ok a s' =>
      rw [bind_ok h]
      rfl
  | error e s' =>
      rw [bind_error h]
      rfl

theorem except_bind_eq_ok {x : Except ε α} {f : α → Except ε β} {b : β} (h : x.bind f = .ok b) :
    ∃ a, x = .ok a ∧ f a = .ok b := by
  cases x with
  | ok a => exact ⟨a, rfl, h⟩
  | error e => cases h

theorem except_bind_eq_ok_iff {x : Except ε α} {f : α → Except ε β} {b : β} :
    x >>= f = .ok b ↔ ∃ a, x = .ok a ∧ f a = .ok b := by
  constructor
  · exact except_bind_eq_ok
  · rintro ⟨a, rfl, h⟩
    exact h

theorem except_bind_eq_error {x : Except ε α} {f : α → Except ε β} {e : ε}
    (h : x.bind f = .error e) : x = .error e ∨ ∃ a, x = .ok a ∧ f a = .error e := by
  cases x with
  | ok a => exact .inr ⟨a, rfl, h⟩
  | error e' =>
      cases h
      exact .inl rfl

theorem except_map_eq_ok {x : Except ε α} {f : α → β} {b : β} (h : x.map f = .ok b) :
    ∃ a, x = .ok a ∧ b = f a := by
  cases x with
  | ok a =>
      cases h
      exact ⟨a, rfl, rfl⟩
  | error e => cases h

theorem mapError_eq_ok {x : Except ε α} {f : ε → ε} {a : α} (h : x.mapError f = .ok a) :
    x = .ok a := by
  cases x with
  | ok b =>
      cases h
      rfl
  | error e => cases h

theorem after_bind {m : EStateM ε σ α} {f : α → EStateM ε σ β} {s : σ} {a : α}
    (h : result (m s) = .ok a) : after ((m >>= f) s) = after (f a (after (m s))) := by
  rw [bind_ok (eq_ok h)]

theorem result_map (f : α → β) (m : EStateM ε σ α) (s : σ) :
    result ((f <$> m) s) = (result (m s)).map f := by
  show result (EStateM.map f m s) = _
  unfold EStateM.map
  cases m s <;> rfl

theorem after_map (f : α → β) (m : EStateM ε σ α) (s : σ) :
    after ((f <$> m) s) = after (m s) := by
  show after (EStateM.map f m s) = _
  unfold EStateM.map
  cases m s <;> rfl

theorem result_zoom (get : σ → τ) (set : τ → σ → σ) (m : EStateM ε τ α) (s : σ) :
    result (zoom get set m s) = result (m (get s)) := by
  cases h : m (get s) with
  | ok a t => rw [zoom_ok h, result, result]
  | error e t => rw [zoom_error h, result, result]

theorem after_zoom (get : σ → τ) (set : τ → σ → σ) (m : EStateM ε τ α) (s : σ) :
    after (zoom get set m s) = set (after (m (get s))) s := by
  cases h : m (get s) with
  | ok a t => rw [zoom_ok h, after, after]
  | error e t => rw [zoom_error h, after, after]

/-! ## Frame conditions -/

/-- Whatever `m` does, the state before and the state after are related by `P`. -/
def Keeps (P : σ → σ → Prop) (m : EStateM ε σ α) : Prop := ∀ s, P s (after (m s))

section
variable {P : σ → σ → Prop}

theorem Keeps.ok {m : EStateM ε σ α} (h : Keeps P m) {s s' : σ} {a : α} (hm : m s = .ok a s') :
    P s s' := by
  have := h s
  rwa [hm] at this

theorem Keeps.error {m : EStateM ε σ α} (h : Keeps P m) {s s' : σ} {e : ε}
    (hm : m s = .error e s') : P s s' := by
  have := h s
  rwa [hm] at this

theorem Keeps.pure (hr : ∀ s, P s s) (a : α) : Keeps P (Pure.pure a : EStateM ε σ α) := hr

theorem Keeps.throw (hr : ∀ s, P s s) (e : ε) : Keeps P (throw e : EStateM ε σ α) := hr

theorem Keeps.get (hr : ∀ s, P s s) : Keeps P (get : EStateM ε σ σ) := hr

theorem Keeps.ofExcept (hr : ∀ s, P s s) (x : Except ε α) :
    Keeps P (MonadExcept.ofExcept x : EStateM ε σ α) := by
  intro s
  cases x <;> exact hr s

/-- The second part may keep a finer relation than the first. -/
theorem Keeps.bind {R : σ → σ → Prop} (ht : ∀ a b c, P a b → R b c → P a c) {m : EStateM ε σ α}
    {f : α → EStateM ε σ β} (hm : Keeps P m) (hf : ∀ a, Keeps R (f a)) : Keeps P (m >>= f) := by
  intro s
  cases h : m s with
  | ok a s' =>
      rw [bind_ok h]
      exact ht _ _ _ (hm.ok h) (hf a s')
  | error e s' =>
      rw [bind_error h]
      exact hm.error h

theorem Keeps.catching {R : σ → σ → Prop} (ht : ∀ a b c, P a b → R b c → P a c)
    {m : EStateM ε σ α} {f : ε → Option (EStateM ε σ α)} (hm : Keeps P m)
    (hf : ∀ e h, f e = some h → Keeps R h) :
    Keeps P (catching m f) := by
  intro s
  unfold Lib.catching
  cases h : m s with
  | ok a s' => exact hm.ok h
  | error e s' =>
      show P s (after (match f e with | some g => g s' | none => .error e s'))
      cases hfe : f e with
      | none => exact hm.error h
      | some g => exact ht _ _ _ (hm.error h) (hf e g hfe s')

/-- The clauses of a handler, one after another. -/
theorem clause_ite {c : Prop} [Decidable c] {Q : EStateM ε σ α → Prop} {g h : EStateM ε σ α}
    {others : Option (EStateM ε σ α)} (hg : Q g) (hothers : others = some h → Q h)
    (heq : (if c then some g else others) = some h) : Q h := by
  split at heq
  · cases heq
    exact hg
  · exact hothers heq

theorem Keeps.ite {c : Prop} [Decidable c] {m n : EStateM ε σ α} (hm : Keeps P m)
    (hn : Keeps P n) : Keeps P (if c then m else n) := by
  split
  · exact hm
  · exact hn

theorem Keeps.zoom {R : τ → τ → Prop} {g : σ → τ} {set : τ → σ → σ} {m : EStateM ε τ α}
    (hm : Keeps R m) (h : ∀ s t, R (g s) t → P s (set t s)) : Keeps P (zoom g set m) := by
  intro s
  unfold Lib.zoom
  cases hr : m (g s) with
  | ok a t => exact h s t (hm.ok hr)
  | error e t => exact h s t (hm.error hr)

theorem Keeps.mono {P' : σ → σ → Prop} {m : EStateM ε σ α} (h : Keeps P m)
    (hp : ∀ s s', P s s' → P' s s') : Keeps P' m :=
  fun s => hp _ _ (h s)

end

/-! ## Code that returns -/

/-- From `s`, `m` returns with a result and a state that are `P`. -/
def Returns (P : α → σ → Prop) (m : EStateM ε σ α) (s : σ) : Prop := ∃ a s', m s = .ok a s' ∧ P a s'

section
variable {P : α → σ → Prop} {s : σ}

theorem Returns.mono {P' : α → σ → Prop} {m : EStateM ε σ α} (h : Returns P m s)
    (hP : ∀ a s', P a s' → P' a s') : Returns P' m s := by
  obtain ⟨a, s', hm, ha⟩ := h
  exact ⟨a, s', hm, hP a s' ha⟩

theorem Returns.pure {a : α} (h : P a s) : Returns P (Pure.pure a : EStateM ε σ α) s := ⟨a, s, rfl, h⟩

theorem Returns.modify {P : PUnit → σ → Prop} {f : σ → σ} (h : P ⟨⟩ (f s)) :
    Returns P (modify f : EStateM ε σ PUnit) s := ⟨⟨⟩, f s, rfl, h⟩

theorem Returns.ofExcept {x : Except ε α} {a : α} (hx : x = .ok a) (h : P a s) :
    Returns P (MonadExcept.ofExcept x : EStateM ε σ α) s := by
  subst hx
  exact ⟨a, s, rfl, h⟩

theorem Returns.bind {P : β → σ → Prop} {m : EStateM ε σ α} {f : α → EStateM ε σ β}
    (h : Returns (fun a s' => Returns P (f a) s') m s) : Returns P (m >>= f) s := by
  obtain ⟨a, s₁, hm, b, s₂, hf, hb⟩ := h
  exact ⟨b, s₂, bind_eq_ok.mpr ⟨a, s₁, hm, hf⟩, hb⟩

theorem Returns.catching {m : EStateM ε σ α} {f : ε → Option (EStateM ε σ α)} (h : Returns P m s) :
    Returns P (catching m f) s := by
  obtain ⟨a, s', hm, ha⟩ := h
  exact ⟨a, s', catching_ok hm, ha⟩

theorem Returns.zoom {g : σ → τ} {set : τ → σ → σ} {m : EStateM ε τ α}
    (h : Returns (fun a t => P a (set t s)) m (g s)) : Returns P (zoom g set m) s := by
  obtain ⟨a, t, hm, ha⟩ := h
  exact ⟨a, set t s, zoom_ok hm, ha⟩

end

/-! ## What code raises -/

section
variable {P : ε → Prop} {s : σ}

end

end EState

end AegisOs.Lib
