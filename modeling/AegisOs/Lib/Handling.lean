/-
# `AegisOs.Lib.Handling` — what a program promises, when its calls are carried out

`Co.handle` replaces each call of a program by a program of a larger system.  What was
proved of the calls and answers of the first (`Safe`, in an environment that may do
anything) is to be read off the second, whose calls are others.  `S h h' s₀ r₀` relates
the two: the calls `h` of the program have been carried out by the calls `h'`, and the
segments began in `r₀` and `s₀`.  The rule `Safe.simulate` asks

    of each call      that it is carried out in accordance with `S`
    of each end       that `S` makes of the program's promise that of the system

`Safe.and` joins two proofs about one program.  In a run with an oracle (`exec`),
synchronous code is itself (`exec_lift_bind`, `exec_lift`).
-/
import AegisOs.Lib.Contract

namespace AegisOs.Lib.Co

variable {σ ρ ε Q Q' : Type} {R : Q → Type} {R' : Q' → Type} {α : Type}

theorem Safe.and {env : (q : Q) → σ → Except ε (R q) → σ → Prop}
    {C C' : Hist ε Q R → σ → Q → σ → Prop} {D D' : Hist ε Q R → σ → α → σ → Prop}
    {X X' : Hist ε Q R → σ → ε → σ → Prop} :
    ∀ {p : Co σ ε Q R α} {h : Hist ε Q R} {s₀ s : σ},
      Safe env C D X h s₀ p s → Safe env C' D' X' h s₀ p s →
      Safe env (fun h s₀ q s => C h s₀ q s ∧ C' h s₀ q s) (fun h s₀ a s => D h s₀ a s ∧ D' h s₀ a s)
        (fun h s₀ e s => X h s₀ e s ∧ X' h s₀ e s) h s₀ p s
  | .ret _, _, _, _, hp, hp' => ⟨hp, hp'⟩
  | .raise _, _, _, _, hp, hp' => ⟨hp, hp'⟩
  | .act _ k, _, _, s, hp, hp' => Safe.and (p := k s) hp hp'
  | .await _ k, _, _, _, hp, hp' =>
      ⟨⟨hp.1, hp'.1⟩, fun r s' hr => Safe.and (p := k r) (hp.2 r s' hr) (hp'.2 r s' hr)⟩

/-- **Simulation**; see the header. -/
theorem Safe.simulate {get : σ → ρ} {set : ρ → σ → σ} {H : (q : Q') → Co σ ε Q R (R' q)}
    {C : Hist ε Q' R' → ρ → Q' → ρ → Prop} {D : Hist ε Q' R' → ρ → α → ρ → Prop}
    {X : Hist ε Q' R' → ρ → ε → ρ → Prop}
    {env : (q : Q) → σ → Except ε (R q) → σ → Prop} {C' : Hist ε Q R → σ → Q → σ → Prop}
    {D' : Hist ε Q R → σ → α → σ → Prop} {X' : Hist ε Q R → σ → ε → σ → Prop}
    {S : Hist ε Q' R' → Hist ε Q R → σ → ρ → Prop} (hget : ∀ r s, get (set r s) = r)
    (hcall : ∀ q h r₀ h' s₀ s, S h h' s₀ r₀ → C h r₀ q (get s) →
      Safe env C' (fun h' s₀ a s => S (h ++ [⟨q, .ok a⟩]) h' s₀ (get s))
        (fun h' s₀ e s => S (h ++ [⟨q, .error e⟩]) h' s₀ (get s)) h' s₀ (H q) s)
    (hdone : ∀ h r₀ h' s₀ a s, S h h' s₀ r₀ → D h r₀ a (get s) → D' h' s₀ a s)
    (hfail : ∀ h r₀ h' s₀ e s, S h h' s₀ r₀ → X h r₀ e (get s) → X' h' s₀ e s) :
    ∀ {p : Co ρ ε Q' R' α} {h : Hist ε Q' R'} {r₀ : ρ} {h' : Hist ε Q R} {s₀ s : σ},
      Safe anyEnv C D X h r₀ p (get s) → S h h' s₀ r₀ →
      Safe env C' D' X' h' s₀ (Co.handle get set H p) s
  | .ret a, h, r₀, h', s₀, s, hp, hs => hdone h r₀ h' s₀ a s hs hp
  | .raise e, h, r₀, h', s₀, s, hp, hs => hfail h r₀ h' s₀ e s hs hp
  | .act upd k, h, r₀, h', s₀, s, hp, hs => by
      have hp' : Safe anyEnv C D X h r₀ (k (get s)) (get (set (upd (get s)) s)) := by
        rw [hget]
        exact hp
      show Safe env C' D' X' h' s₀ (Co.handle get set H (k (get s))) (set (upd (get s)) s)
      exact Safe.simulate hget hcall hdone hfail hp' hs
  | .await q k, h, r₀, h', s₀, s, hp, hs => by
      -- the program goes on from the state in which its call has been carried out
      have hrest : ∀ r h₁ s₁ s₂, S (h ++ [⟨q, r⟩]) h₁ s₁ (get s₂) →
          Safe env C' D' X' h₁ s₁ (Co.handle get set H (k r)) s₂ := by
        intro r h₁ s₁ s₂ hs₁
        exact Safe.simulate hget hcall hdone hfail (hp.2 r (get s₂) True.intro) hs₁
      refine Safe.bind (p := (H q).attempt) (Safe.attempt ((hcall q h r₀ h' s₀ s hs hp.1).mono
        (fun _ _ _ _ hc => hc) ?_ ?_))
      · intro h₁ s₁ a s₂ hs₁
        exact hrest (.ok a) h₁ s₁ s₂ hs₁
      · intro h₁ s₁ e s₂ hs₁
        exact hrest (.error e) h₁ s₁ s₂ hs₁

/-! ### Synchronous code in a run with an oracle -/

section
variable {β : Type} {O : Oracle σ ε Q R} {m : EStateM ε σ α} {f : α → Co σ ε Q R β} {s s' : σ}
  {a : α} {e : ε}

theorem exec_lift_bind (h : m s = .ok a s') : (Co.lift m >>= f).exec O s = (f a).exec O s' := by
  simp only [Bind.bind, Co.lift, Co.bind, Co.exec, h]

theorem exec_lift_bind_error (h : m s = .error e s') :
    (Co.lift m >>= f).exec O s = ([], .error e, s') := by
  simp only [Bind.bind, Co.lift, Co.bind, Co.exec, h]

theorem exec_lift : (Co.lift m : Co σ ε Q R α).exec O s =
    ([], EState.result (m s), EState.after (m s)) := by
  unfold Co.lift
  cases h : m s with
  | ok a s' =>
      simp only [Co.exec, h]
      rfl
  | error e s' =>
      simp only [Co.exec, h]
      rfl

end

end AegisOs.Lib.Co
