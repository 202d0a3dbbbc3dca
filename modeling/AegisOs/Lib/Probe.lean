/-
# `AegisOs.Lib.Probe` — a part of the state that is only written

A metric is written and never read, so code that keeps one does what it would do
without it.  `Probed σ π` is a state with such a part, `plain` is code that does
not know about it, and `probe` writes to it.

`Erases m' m`: with the probe left out, `m'` is `m`, in what it returns or raises
and in the state.  There is one rule for each construct, so the erasure of a
function follows its text.
-/
import AegisOs.Lib.Runs

namespace AegisOs.Lib

/-- A state, and what is written about it. -/
structure Probed (σ π : Type) where
  state : σ
  probe : π

namespace EState

variable {ε σ τ π α β : Type}

/-- Code that leaves the probe alone. -/
def plain (m : EStateM ε σ α) : EStateM ε (Probed σ π) α :=
  zoom Probed.state (fun s p => { p with state := s }) m

/-- Write to the probe. -/
def probe (f : π → π) : EStateM ε (Probed σ π) PUnit :=
  modify fun p => { p with probe := f p.probe }

/-- Code on a part of the state, with the same probe. -/
def zoomProbed (get : σ → τ) (set : τ → σ → σ) (m : EStateM ε (Probed τ π) α) :
    EStateM ε (Probed σ π) α :=
  zoom (fun p => ⟨get p.state, p.probe⟩) (fun t p => ⟨set t.state p.state, t.probe⟩) m

/-- A result without the probe. -/
def erased : EStateM.Result ε (Probed σ π) α → EStateM.Result ε σ α
  | .ok a p => .ok a p.state
  | .error e p => .error e p.state

/-- See the header. -/
def Erases (m' : EStateM ε (Probed σ π) α) (m : EStateM ε σ α) : Prop :=
  ∀ p, erased (m' p) = m p.state

theorem plain_ok {m : EStateM ε σ α} {p : Probed σ π} {a : α} {s : σ} (h : m p.state = .ok a s) :
    plain m p = .ok a { p with state := s } := zoom_ok h

theorem plain_error {m : EStateM ε σ α} {p : Probed σ π} {e : ε} {s : σ}
    (h : m p.state = .error e s) : plain m p = .error e { p with state := s } := zoom_error h

section
variable {m' : EStateM ε (Probed σ π) α} {m : EStateM ε σ α}

theorem Erases.ok (h : Erases m' m) {p p' : Probed σ π} {a : α} (hr : m' p = .ok a p') :
    m p.state = .ok a p'.state := by
  rw [← h p, hr]
  rfl

theorem Erases.error (h : Erases m' m) {p p' : Probed σ π} {e : ε} (hr : m' p = .error e p') :
    m p.state = .error e p'.state := by
  rw [← h p, hr]
  rfl

theorem Erases.result (h : Erases m' m) (p : Probed σ π) :
    EState.result (m' p) = EState.result (m p.state) := by
  rw [← h p]
  cases m' p <;> rfl

theorem Erases.after (h : Erases m' m) (p : Probed σ π) :
    (EState.after (m' p)).state = EState.after (m p.state) := by
  rw [← h p]
  cases m' p <;> rfl

theorem erases_plain (m : EStateM ε σ α) : Erases (plain m : EStateM ε (Probed σ π) α) m := by
  intro p
  unfold plain zoom
  cases m p.state <;> rfl

theorem erases_pure (a : α) :
    Erases (Pure.pure a : EStateM ε (Probed σ π) α) (Pure.pure a) := fun _ => rfl

theorem erases_throw (e : ε) :
    Erases (throw e : EStateM ε (Probed σ π) α) (throw e) := fun _ => rfl

/-- A write to the probe. -/
theorem Erases.after_probe (f : π → π) {g : PUnit → EStateM ε (Probed σ π) α}
    (h : Erases (g ⟨⟩) m) : Erases (probe f >>= g) m := fun p => h ⟨p.state, f p.probe⟩

theorem Erases.bind {f' : α → EStateM ε (Probed σ π) β} {f : α → EStateM ε σ β}
    (hm : Erases m' m) (hf : ∀ a, Erases (f' a) (f a)) : Erases (m' >>= f') (m >>= f) := by
  intro p
  cases hr : m' p with
  | ok a p' => rw [bind_ok hr, bind_ok (hm.ok hr), hf a p']
  | error e p' =>
      rw [bind_error hr, bind_error (hm.error hr)]
      rfl

theorem Erases.map (hm : Erases m' m) (f : α → β) : Erases (f <$> m') (f <$> m) := by
  intro p
  cases hr : m' p with
  | ok a p' =>
      rw [map_ok f hr, map_ok f (hm.ok hr)]
      rfl
  | error e p' =>
      rw [map_error f hr, map_error f (hm.error hr)]
      rfl

theorem Erases.ite {c : Prop} [Decidable c] {n' : EStateM ε (Probed σ π) α} {n : EStateM ε σ α}
    (hm : Erases m' m) (hn : Erases n' n) :
    Erases (if c then m' else n') (if c then m else n) := by
  split
  · exact hm
  · exact hn

theorem Erases.catching {f' : ε → Option (EStateM ε (Probed σ π) α)}
    {f : ε → Option (EStateM ε σ α)} (hm : Erases m' m) (hnone : ∀ e, f e = none → f' e = none)
    (hsome : ∀ e g, f e = some g → ∃ g', f' e = some g' ∧ Erases g' g) :
    Erases (Lib.catching m' f') (Lib.catching m f) := by
  intro p
  cases hr : m' p with
  | ok a p' =>
      rw [catching_ok hr, catching_ok (hm.ok hr)]
      rfl
  | error e p' =>
      cases hf : f e with
      | none =>
          rw [catching_none hr (hnone e hf), catching_none (hm.error hr) hf]
          rfl
      | some g =>
          obtain ⟨g', hf', hg⟩ := hsome e g hf
          rw [catching_some hr hf', catching_some (hm.error hr) hf, hg p']

/-- A handler that does not know about the probe. -/
theorem Erases.catching_plain {f : ε → Option (EStateM ε σ α)} (hm : Erases m' m) :
    Erases (Lib.catching m' fun e => (f e).map plain) (Lib.catching m f) := by
  refine hm.catching ?_ ?_
  · intro e hf
    rw [hf]
    rfl
  · intro e g hf
    refine ⟨plain g, ?_, erases_plain g⟩
    rw [hf]
    rfl

/-- A run of calls. -/
theorem Erases.run {ι : Type} {m' : ι → EStateM ε (Probed σ π) α} {m : ι → EStateM ε σ α}
    (h : ∀ x, Erases (m' x) (m x)) (xs : List ι) (p : Probed σ π) :
    outcomes m' xs p = outcomes m xs p.state ∧ (final m' xs p).state = final m xs p.state := by
  induction xs generalizing p with
  | nil => exact ⟨rfl, rfl⟩
  | cons x xs ih =>
      obtain ⟨houts, hfinal⟩ := ih (EState.after (m' x p))
      rw [(h x).after] at houts hfinal
      refine ⟨?_, hfinal⟩
      rw [outcomes, outcomes, (h x).result, houts]

theorem Erases.zoomProbed {get : τ → σ} {set : σ → τ → τ} (hm : Erases m' m) :
    Erases (EState.zoomProbed get set m') (zoom get set m) := by
  intro p
  unfold EState.zoomProbed zoom
  have h := hm ⟨get p.state, p.probe⟩
  cases hr : m' ⟨get p.state, p.probe⟩ with
  | ok a t =>
      rw [hr] at h
      rw [← h]
      rfl
  | error e t =>
      rw [hr] at h
      rw [← h]
      rfl

/-- What does not know about the probe keeps it. -/
theorem Keeps.plain {P : σ → σ → Prop} (h : Keeps P m) :
    Keeps (fun p p' : Probed σ π => P p.state p'.state ∧ p'.probe = p.probe) (EState.plain m) :=
  Keeps.zoom h fun _ _ hp => ⟨hp, rfl⟩

end

end EState

end AegisOs.Lib
