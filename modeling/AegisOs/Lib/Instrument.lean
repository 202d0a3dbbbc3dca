/-
# `AegisOs.Lib.Instrument` — programs that suspend, and what is written about them

`Lib.Probe` for coroutines.  `plain p` leaves the probe alone, and `Erases p' p` says
that `p'` is `p` once the probe is left out: the two make the same calls and end in the
same way, and `p'` may write to the probe in between.

What is proved of `p` carries over to `plain p` (`Safe.plain`); and where every program
of a pool erases to one of another pool, so does every run (`PoolErases.run`): the
instrumented system does what the system does.
-/
import AegisOs.Lib.Probe
import AegisOs.Lib.Co

namespace AegisOs.Lib.Co

variable {σ π ε Q : Type} {R : Q → Type} {α β ι : Type}

/-- A program that leaves the probe alone. -/
def plain : Co σ ε Q R α → Co (Probed σ π) ε Q R α
  | .ret a => .ret a
  | .raise e => .raise e
  | .act upd k => .act (fun p => { p with state := upd p.state }) fun p => plain (k p.state)
  | .await q k => .await q fun r => plain (k r)

/-- See the header. -/
inductive Erases : Co (Probed σ π) ε Q R α → Co σ ε Q R α → Prop
  | ret (a : α) : Erases (.ret a) (.ret a)
  | raise (e : ε) : Erases (.raise e) (.raise e)
  | act {upd' : Probed σ π → Probed σ π} {k' : Probed σ π → Co (Probed σ π) ε Q R α} {upd : σ → σ}
      {k : σ → Co σ ε Q R α} (hupd : ∀ p, (upd' p).state = upd p.state)
      (hk : ∀ p, Erases (k' p) (k p.state)) : Erases (.act upd' k') (.act upd k)
  /-- A step that only the instrumented program makes. -/
  | write {upd' : Probed σ π → Probed σ π} {k' : Probed σ π → Co (Probed σ π) ε Q R α}
      {c : Co σ ε Q R α} (hupd : ∀ p, (upd' p).state = p.state) (hk : ∀ p, Erases (k' p) c) :
      Erases (.act upd' k') c
  | await {q : Q} {k' : Except ε (R q) → Co (Probed σ π) ε Q R α}
      {k : Except ε (R q) → Co σ ε Q R α} (hk : ∀ r, Erases (k' r) (k r)) :
      Erases (.await q k') (.await q k)

section
variable {c' : Co (Probed σ π) ε Q R α} {c : Co σ ε Q R α}

theorem erases_plain : ∀ c : Co σ ε Q R α, Erases (plain c : Co (Probed σ π) ε Q R α) c
  | .ret a => .ret a
  | .raise e => .raise e
  | .act _ k => .act (fun _ => rfl) fun p => erases_plain (k p.state)
  | .await _ k => .await fun r => erases_plain (k r)

theorem Erases.bind {f' : α → Co (Probed σ π) ε Q R β} {f : α → Co σ ε Q R β} (hc : Erases c' c)
    (hf : ∀ a, Erases (f' a) (f a)) : Erases (c' >>= f') (c >>= f) := by
  induction hc with
  | ret a => exact hf a
  | raise e => exact .raise e
  | act hupd _ ih => exact .act hupd ih
  | write hupd _ ih => exact .write hupd ih
  | await _ ih => exact .await ih

/-- A handler that writes, and raises again. -/
theorem Erases.tryCatch_raise {f' : ε → Co (Probed σ π) ε Q R α} (hc : Erases c' c)
    (hf : ∀ e, Erases (f' e) (.raise e : Co σ ε Q R α)) : Erases (tryCatch c' f') c := by
  induction hc with
  | ret a => exact .ret a
  | raise e => exact hf e
  | act hupd _ ih => exact .act hupd ih
  | write hupd _ ih => exact .write hupd ih
  | await _ ih => exact .await ih

theorem Erases.lift {m' : EStateM ε (Probed σ π) α} {m : EStateM ε σ α} (h : EState.Erases m' m) :
    Erases (Co.lift m' : Co (Probed σ π) ε Q R α) (Co.lift m) := by
  refine .act ?_ ?_
  · intro p
    cases hr : m' p with
    | ok a p' => simp only [h.ok hr]
    | error e p' => simp only [h.error hr]
  · intro p
    cases hr : m' p with
    | ok a p' =>
        simp only [h.ok hr]
        exact .ret a
    | error e p' =>
        simp only [h.error hr]
        exact .raise e

/-- Code that writes, and raises. -/
theorem erases_lift_raise {m' : EStateM ε (Probed σ π) α} {e : ε} {f : π → π}
    (h : ∀ p, m' p = .error e ⟨p.state, f p.probe⟩) :
    Erases (Co.lift m' : Co (Probed σ π) ε Q R α) (.raise e) := by
  refine .write ?_ ?_
  · intro p
    simp only [h]
  · intro p
    simp only [h]
    exact .raise e

/-! ## Runs -/

inductive PointErases : Point (Probed σ π) ε Q R α → Point σ ε Q R α → Prop
  | done (a : α) : PointErases (.done a) (.done a)
  | failed (e : ε) : PointErases (.failed e) (.failed e)
  | waiting {q : Q} {k' : Except ε (R q) → Co (Probed σ π) ε Q R α}
      {k : Except ε (R q) → Co σ ε Q R α} (hk : ∀ r, Erases (k' r) (k r)) :
      PointErases (.waiting q k') (.waiting q k)

theorem Erases.resume (hc : Erases c' c) (p : Probed σ π) :
    PointErases (c'.resume p).1 (c.resume p.state).1 ∧
      (c'.resume p).2.state = (c.resume p.state).2 := by
  induction hc generalizing p with
  | ret a => exact ⟨.done a, rfl⟩
  | raise e => exact ⟨.failed e, rfl⟩
  | @act upd' k' upd k hupd _ ih =>
      have hstep := ih p (upd' p)
      rwa [hupd] at hstep
  | @write upd' k' c hupd _ ih =>
      have hstep := ih p (upd' p)
      rwa [hupd] at hstep
  | await hk => exact ⟨.waiting hk, rfl⟩

end

inductive ThreadErases : Thread (Probed σ π) ε Q R α → Thread σ ε Q R α → Prop
  | fresh {c' : Co (Probed σ π) ε Q R α} {c : Co σ ε Q R α} (hc : Erases c' c) :
      ThreadErases (.fresh c') (.fresh c)
  | stopped (h : Hist ε Q R) {pt' : Point (Probed σ π) ε Q R α} {pt : Point σ ε Q R α}
      (hpt : PointErases pt' pt) : ThreadErases (.stopped h pt') (.stopped h pt)

structure PoolErases (P' : Pool (Probed σ π) ε Q R α ι) (P : Pool σ ε Q R α ι) : Prop where
  shared : P'.shared.state = P.shared
  threads : ∀ i, ThreadErases (P'.threads i) (P.threads i)

section
variable [DecidableEq ι] {P' : Pool (Probed σ π) ε Q R α ι} {P : Pool σ ε Q R α ι}

theorem PoolErases.advance (hP : PoolErases P' P) (i : ι) (h : Hist ε Q R)
    {c' : Co (Probed σ π) ε Q R α} {c : Co σ ε Q R α} (hc : Erases c' c) :
    PoolErases (P'.advance i h c') (P.advance i h c) := by
  obtain ⟨hpt, hshared⟩ := hc.resume P'.shared
  rw [hP.shared] at hpt hshared
  refine ⟨hshared, fun j => ?_⟩
  by_cases hj : j = i
  · subst hj
    simpa [Pool.advance] using ThreadErases.stopped h hpt
  · simpa [Pool.advance, hj] using hP.threads j

theorem PoolErases.step (hP : PoolErases P' P) {ev : Pool.Event ε Q R ι}
    {N' : Pool (Probed σ π) ε Q R α ι} (hs : Pool.Step P' ev N') :
    ∃ N, Pool.Step P ev N ∧ PoolErases N' N := by
  cases hs with
  | @start i c' hi =>
      have hthread := hP.threads i
      rw [hi] at hthread
      generalize ht : P.threads i = t at hthread
      cases hthread with
      | fresh hc => exact ⟨_, .start ht, hP.advance i [] hc⟩
  | @answer i h q k' r hi =>
      have hthread := hP.threads i
      rw [hi] at hthread
      generalize ht : P.threads i = t at hthread
      cases hthread with
      | stopped _ hpt =>
          cases hpt with
          | waiting hk => exact ⟨_, .answer r ht, hP.advance i (h ++ [⟨q, r⟩]) (hk r)⟩

/-- **The instrumented system does what the system does.** -/
theorem PoolErases.run (hP : PoolErases P' P) {evs : List (Pool.Event ε Q R ι)}
    {N' : Pool (Probed σ π) ε Q R α ι} (hr : Pool.Run P' evs N') :
    ∃ N, Pool.Run P evs N ∧ PoolErases N' N := by
  induction hr with
  | refl => exact ⟨P, .refl P, hP⟩
  | snoc _ hs ih =>
      obtain ⟨N, hrun, hN⟩ := ih
      obtain ⟨N₁, hstep, hN₁⟩ := hN.step hs
      exact ⟨N₁, .snoc hrun hstep, hN₁⟩

end

/-! ## The logic -/

/-- In an environment that may do anything, a program that leaves the probe alone keeps the promises
of the program, and the probe. -/
theorem Safe.plain {C : Hist ε Q R → σ → Q → σ → Prop} {D : Hist ε Q R → σ → α → σ → Prop}
    {X : Hist ε Q R → σ → ε → σ → Prop} :
    ∀ {c : Co σ ε Q R α} {h : Hist ε Q R} {p₀ p : Probed σ π},
      Safe anyEnv C D X h p₀.state c p.state → p.probe = p₀.probe →
      Safe anyEnv (fun h p₀ q p => C h p₀.state q p.state ∧ p.probe = p₀.probe)
        (fun h p₀ a p => D h p₀.state a p.state ∧ p.probe = p₀.probe)
        (fun h p₀ e p => X h p₀.state e p.state ∧ p.probe = p₀.probe) h p₀ (Co.plain c) p
  | .ret _, _, _, _, hc, hp => ⟨hc, hp⟩
  | .raise _, _, _, _, hc, hp => ⟨hc, hp⟩
  | .act _ k, _, _, p, hc, hp => Safe.plain (c := k p.state) hc hp
  | .await _ k, _, _, _, hc, hp =>
      ⟨⟨hc.1, hp⟩, fun r p' _ => Safe.plain (c := k r) (hc.2 r p'.state True.intro) rfl⟩

end AegisOs.Lib.Co
