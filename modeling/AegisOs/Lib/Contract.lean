/-
# `AegisOs.Lib.Contract` — contracts that say nothing about the state

`Asks G C P p` is the part of `Safe` that is about data only: if every call is
answered with `G`, then every call that `p` makes is `C`, and what it returns is
`P`.  The state between may be anything.

A contract goes through `handle` as a contract: a program is put together from
its own contract and those of the programs that carry out its calls, each of
which may assume of a call what the caller guarantees (`Asks.handle`).
-/
import AegisOs.Lib.Co

namespace AegisOs.Lib.Co

section
variable {σ ε Q : Type} {R : Q → Type} {α β : Type}

/-- The contract; see the header. -/
def Asks (G : (q : Q) → R q → Prop) (C : Q → Prop) (P : α → Prop) : Co σ ε Q R α → Prop
  | .ret a => P a
  | .raise _ => True
  | .act _ k => ∀ s, Asks G C P (k s)
  | .await q k => C q ∧ (∀ a, G q a → Asks G C P (k (.ok a))) ∧ ∀ e, Asks G C P (k (.error e))

variable {G : (q : Q) → R q → Prop} {C : Q → Prop} {P : α → Prop}

theorem Asks.mono {P' : α → Prop} (hP : ∀ a, P a → P' a) :
    ∀ {p : Co σ ε Q R α}, Asks G C P p → Asks G C P' p
  | .ret a, hp => hP a hp
  | .raise _, _ => trivial
  | .act _ _, hp => fun s => Asks.mono hP (hp s)
  | .await _ _, hp =>
      ⟨hp.1, fun a ha => Asks.mono hP (hp.2.1 a ha), fun e => Asks.mono hP (hp.2.2 e)⟩

theorem Asks.bind {P : β → Prop} {f : α → Co σ ε Q R β} :
    ∀ {p : Co σ ε Q R α}, Asks G C (fun a => Asks G C P (f a)) p → Asks G C P (p >>= f)
  | .ret _, hp => hp
  | .raise _, _ => trivial
  | .act _ _, hp => fun s => Asks.bind (hp s)
  | .await _ _, hp => ⟨hp.1, fun a ha => Asks.bind (hp.2.1 a ha), fun e => Asks.bind (hp.2.2 e)⟩

/-- Where nothing is said of the first part's result. -/
theorem Asks.andThen {P : β → Prop} {p : Co σ ε Q R α} {f : α → Co σ ε Q R β}
    (hp : Asks G C (fun _ => True) p) (hf : ∀ a, Asks G C P (f a)) : Asks G C P (p >>= f) :=
  Asks.bind (hp.mono fun a _ => hf a)

theorem Asks.tryCatch {f : ε → Co σ ε Q R α} (hf : ∀ e, Asks G C P (f e)) :
    ∀ {p : Co σ ε Q R α}, Asks G C P p → Asks G C P (tryCatch p f)
  | .ret _, hp => hp
  | .raise e, _ => hf e
  | .act _ _, hp => fun s => Asks.tryCatch hf (hp s)
  | .await _ _, hp =>
      ⟨hp.1, fun a ha => Asks.tryCatch hf (hp.2.1 a ha), fun e => Asks.tryCatch hf (hp.2.2 e)⟩

theorem Asks.lift {m : EStateM ε σ α} (hm : ∀ s a s', m s = .ok a s' → P a) :
    Asks G C P (Co.lift m : Co σ ε Q R α) := by
  intro s
  dsimp only
  cases h : m s with
  | ok a s' => exact hm s a s' h
  | error e s' => trivial

theorem Asks.call {q : Q} {P : R q → Prop} (hq : C q) (hP : ∀ a, G q a → P a) :
    Asks G C P (Co.call q : Co σ ε Q R (R q)) :=
  ⟨hq, hP, fun _ => trivial⟩

theorem Asks.attempt :
    ∀ {p : Co σ ε Q R α}, Asks G C P p → Asks G C (fun r => ∀ a, r = .ok a → P a) p.attempt
  | .ret _, hp => by
      rintro _ ⟨⟩
      exact hp
  | .raise _, _ => by
      rintro _ ⟨⟩
  | .act _ _, hp => fun s => Asks.attempt (hp s)
  | .await _ _, hp =>
      ⟨hp.1, fun a ha => Asks.attempt (hp.2.1 a ha), fun e => Asks.attempt (hp.2.2 e)⟩

/-- A program whose calls are carried out by others that keep to what it relies on. -/
theorem Asks.handle {ρ Q' : Type} {R' : Q' → Type} {get : σ → ρ} {set : ρ → σ → σ}
    {H : (q : Q') → Co σ ε Q R (R' q)} {G' : (q : Q') → R' q → Prop} {C' : Q' → Prop}
    (hH : ∀ q, C' q → Asks G C (G' q) (H q)) :
    ∀ {p : Co ρ ε Q' R' α}, Asks G' C' P p → Asks G C P (Co.handle get set H p)
  | .ret _, hp => hp
  | .raise _, _ => trivial
  | .act _ _, hp => fun s => Asks.handle hH (hp (get s))
  | .await q k, hp => by
      refine Asks.bind (p := (H q).attempt) ((hH q hp.1).attempt.mono ?_)
      intro r hr
      cases r with
      | ok a => exact Asks.handle hH (hp.2.1 a (hr a rfl))
      | error e => exact Asks.handle hH (hp.2.2 e)

/-- A contract is a `Safe` property, in every environment that answers as it assumes. -/
theorem Asks.safe {env : (q : Q) → σ → Except ε (R q) → σ → Prop}
    (henv : ∀ q s a s', env q s (.ok a) s' → G q a) :
    ∀ {p : Co σ ε Q R α}, Asks G C P p → ∀ h s₀ s,
      Safe env (fun _ _ q _ => C q) (fun _ _ a _ => P a) (fun _ _ _ _ => True) h s₀ p s
  | .ret _, hp, _, _, _ => hp
  | .raise _, _, _, _, _ => trivial
  | .act _ _, hp, _, _, s => Asks.safe henv (hp s) _ _ _
  | .await q _, hp, _, _, s => by
      refine ⟨hp.1, ?_⟩
      intro r s' hr
      cases r with
      | ok a => exact Asks.safe henv (hp.2.1 a (henv q s a s' hr)) _ _ _
      | error e => exact Asks.safe henv (hp.2.2 e) _ _ _

/-- What a contract says of the calls holds of each that is awaited, in every run. -/
theorem Asks.awaited {I : σ → σ → Prop} {A : (q : Q) → Except ε (R q) → σ → Prop}
    {p : Co σ ε Q R α} (hp : Asks (fun _ _ => True) C P p) {s : σ} {c : Conf σ ε Q R α}
    (hr : Conf.Reachable I A p s c) {q : Q} {k : Except ε (R q) → Co σ ε Q R α}
    (hq : c.point = .waiting q k) : C q := by
  have hsafe : Safe (awaitEnv I A) (fun _ _ q _ => C q) (fun _ _ a _ => P a) (fun _ _ _ _ => True)
      [] s p s := hp.safe (fun _ _ _ _ _ => trivial) [] s s
  refine Conf.asserted_of_reachable hsafe hr ?_
  rw [hq]
  rfl

end

end AegisOs.Lib.Co
