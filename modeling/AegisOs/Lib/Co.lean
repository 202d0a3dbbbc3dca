/-
# `AegisOs.Lib.Co` — programs that suspend, and a logic for them

A coroutine runs by itself between two awaits and hands control back at each
one.  While it is suspended the state it shares may be changed by others, and
the answer it is resumed with is not its own choice.  `Co` is the syntax of
such a program: it returns, raises, acts on the shared state, or awaits a
call.

**The logic.**  `Safe env C D X h s₀ p s` reads: run `p` from `s`, in a segment
that began in `s₀`, after the calls in `h`; then

    C h s₀ q s    whenever it stops to await the call q,
    D h s₀ a s    when it returns a,
    X h s₀ e s    when it raises e,

whatever answers and interference `env` allows.  The segment's first state
`s₀` is there so that an assertion can say what one segment did to the state,
which is the guarantee the other parties rely on.

**Handling.**  `handle` runs a program inside a larger system: on a part of its
state, with every call carried out by a program of the system.

**The machines.**  `Conf` is one coroutine among interference steps, `Pool`
any number of coroutines on one state.  The two soundness lemmas,
`Conf.good_of_reachable` and `Pool.good_of_run`, turn a `Safe` proof of
the programs into an invariant of every reachable configuration.
-/
import AegisOs.Lib.EState
import Mathlib.Logic.Relation
import Mathlib.Logic.Function.Basic
import Mathlib.Logic.Function.Iterate

namespace AegisOs.Lib

/-- A program over the state `σ` that raises `ε` and awaits calls `q : Q`, each answered in `R q`. -/
inductive Co (σ ε Q : Type) (R : Q → Type) (α : Type) : Type where
  | ret (a : α)
  | raise (e : ε)
  | act (upd : σ → σ) (k : σ → Co σ ε Q R α)
  | await (q : Q) (k : Except ε (R q) → Co σ ε Q R α)

namespace Co

section Syntax
variable {σ ε Q : Type} {R : Q → Type} {α β : Type}

protected def bind : Co σ ε Q R α → (α → Co σ ε Q R β) → Co σ ε Q R β
  | .ret a, f => f a
  | .raise e, _ => .raise e
  | .act upd k, f => .act upd (fun s => (k s).bind f)
  | .await q k, f => .await q (fun r => (k r).bind f)

/-- Run the handler where the program raises. -/
protected def tryCatch : Co σ ε Q R α → (ε → Co σ ε Q R α) → Co σ ε Q R α
  | .ret a, _ => .ret a
  | .raise e, f => f e
  | .act upd k, f => .act upd (fun s => (k s).tryCatch f)
  | .await q k, f => .await q (fun r => (k r).tryCatch f)

instance : Monad (Co σ ε Q R) where
  pure := .ret
  bind := Co.bind

instance : MonadExceptOf ε (Co σ ε Q R) where
  throw := .raise
  tryCatch := Co.tryCatch

/-- Synchronous code: it runs to its end without suspending, and an exception keeps its effects. -/
def lift (m : EStateM ε σ α) : Co σ ε Q R α :=
  .act (fun s => match m s with | .ok _ s' => s' | .error _ s' => s')
    (fun s => match m s with | .ok a _ => .ret a | .error e _ => .raise e)

instance : MonadLift (EStateM ε σ) (Co σ ε Q R) := ⟨lift⟩

/-- Await one call; an exceptional answer is raised here. -/
def call (q : Q) : Co σ ε Q R (R q) :=
  .await q (fun | .ok a => .ret a | .error e => .raise e)

end Syntax

/-! ## Carrying out calls -/

section Handle
variable {σ τ ε Q Q' : Type} {R : Q → Type} {R' : Q' → Type} {α β γ : Type}

/-- The outcome of a program, an exception included, as a value. -/
def attempt : Co σ ε Q R α → Co σ ε Q R (Except ε α)
  | .ret a => .ret (.ok a)
  | .raise e => .ret (.error e)
  | .act upd k => .act upd (fun s => (k s).attempt)
  | .await q k => .await q (fun r => (k r).attempt)

/-- Run a program on a part of a larger state, with each of its calls carried out by a program of
the larger system. -/
def handle (get : τ → σ) (set : σ → τ → τ) (H : (q : Q) → Co τ ε Q' R' (R q)) :
    Co σ ε Q R α → Co τ ε Q' R' α
  | .ret a => .ret a
  | .raise e => .raise e
  | .act upd k => .act (fun t => set (upd (get t)) t) (fun t => handle get set H (k (get t)))
  | .await q k => (H q).attempt.bind (fun r => handle get set H (k r))

theorem bind_assoc (f : α → Co σ ε Q R β) (g : β → Co σ ε Q R γ) :
    ∀ p : Co σ ε Q R α, (p.bind f).bind g = p.bind fun a => (f a).bind g
  | .ret _ => rfl
  | .raise _ => rfl
  | .act _ k => by
      simp only [Co.bind]
      exact congrArg _ (funext fun s => bind_assoc f g (k s))
  | .await _ k => by
      simp only [Co.bind]
      exact congrArg _ (funext fun r => bind_assoc f g (k r))

/-- Handling is a morphism: it goes through sequencing, ... -/
theorem handle_bind (get : τ → σ) (set : σ → τ → τ) (H : (q : Q) → Co τ ε Q' R' (R q))
    (f : α → Co σ ε Q R β) :
    ∀ p : Co σ ε Q R α,
      handle get set H (p >>= f) = handle get set H p >>= fun a => handle get set H (f a)
  | .ret _ => rfl
  | .raise _ => rfl
  | .act _ k => by
      show Co.act _ (fun t => handle get set H (k (get t) >>= f)) = Co.act _ fun t =>
        handle get set H (k (get t)) >>= fun a => handle get set H (f a)
      exact congrArg _ (funext fun t => handle_bind get set H f (k (get t)))
  | .await q k => by
      show (H q).attempt.bind (fun r => handle get set H (k r >>= f)) =
        ((H q).attempt.bind fun r => handle get set H (k r)).bind fun a => handle get set H (f a)
      rw [bind_assoc]
      exact congrArg _ (funext fun r => handle_bind get set H f (k r))

theorem attempt_bind_tryCatch (g : Except ε α → Co σ ε Q R β) (f : ε → Co σ ε Q R β) :
    ∀ p : Co σ ε Q R α, (p.attempt.bind g).tryCatch f = p.attempt.bind fun r => (g r).tryCatch f
  | .ret _ => rfl
  | .raise _ => rfl
  | .act _ k => by
      simp only [attempt, Co.bind, Co.tryCatch]
      exact congrArg _ (funext fun s => attempt_bind_tryCatch g f (k s))
  | .await _ k => by
      simp only [attempt, Co.bind, Co.tryCatch]
      exact congrArg _ (funext fun r => attempt_bind_tryCatch g f (k r))

/-- ... through handlers of exceptions, ... -/
theorem handle_tryCatch (get : τ → σ) (set : σ → τ → τ) (H : (q : Q) → Co τ ε Q' R' (R q))
    (f : ε → Co σ ε Q R α) :
    ∀ p : Co σ ε Q R α,
      handle get set H (tryCatch p f) = tryCatch (handle get set H p) fun e => handle get set H (f e)
  | .ret _ => rfl
  | .raise _ => rfl
  | .act _ k => by
      show Co.act _ (fun t => handle get set H (tryCatch (k (get t)) f)) = Co.act _ fun t =>
        tryCatch (handle get set H (k (get t))) fun e => handle get set H (f e)
      exact congrArg _ (funext fun t => handle_tryCatch get set H f (k (get t)))
  | .await q k => by
      show (H q).attempt.bind (fun r => handle get set H (tryCatch (k r) f)) =
        ((H q).attempt.bind fun r => handle get set H (k r)).tryCatch fun e => handle get set H (f e)
      rw [attempt_bind_tryCatch]
      exact congrArg _ (funext fun r => handle_tryCatch get set H f (k r))

theorem attempt_bind_raise : ∀ p : Co σ ε Q R α,
    p.attempt.bind (fun | .ok a => .ret a | .error e => .raise e) = p
  | .ret _ => rfl
  | .raise _ => rfl
  | .act _ k => by
      simp only [attempt, Co.bind]
      exact congrArg _ (funext fun s => attempt_bind_raise (k s))
  | .await _ k => by
      simp only [attempt, Co.bind]
      exact congrArg _ (funext fun r => attempt_bind_raise (k r))

/-- ... and takes a call to the program that carries it out, ... -/
theorem handle_call (get : τ → σ) (set : σ → τ → τ) (H : (q : Q) → Co τ ε Q' R' (R q)) (q : Q) :
    handle get set H (call q) = H q := by
  show (H q).attempt.bind (fun r => handle get set H
    ((fun | .ok a => .ret a | .error e => .raise e : Except ε (R q) → Co σ ε Q R (R q)) r)) = H q
  rw [← attempt_bind_raise (H q)]
  congr 1
  · exact congrArg attempt (attempt_bind_raise (H q))
  · funext r
    cases r <;> rfl

/-- ... and synchronous code to the same code on its part of the state. -/
theorem handle_lift (get : τ → σ) (set : σ → τ → τ) (H : (q : Q) → Co τ ε Q' R' (R q))
    (m : EStateM ε σ α) :
    handle get set H (lift m) = (lift (zoom get set m) : Co τ ε Q' R' α) := by
  unfold lift handle zoom
  congr 1
  · funext t
    cases h : m (get t) <;> simp only [h]
  · funext t
    cases h : m (get t) <;> simp only [h] <;> rfl

end Handle

/-! ## Running to the next stop -/

/-- Where a program stops. -/
inductive Point (σ ε Q : Type) (R : Q → Type) (α : Type) : Type where
  | done (a : α)
  | failed (e : ε)
  | waiting (q : Q) (k : Except ε (R q) → Co σ ε Q R α)

/-- The call a stopped program awaits. -/
def Point.awaited {σ ε Q : Type} {R : Q → Type} {α : Type} : Point σ ε Q R α → Option Q
  | .waiting q _ => some q
  | _ => none

theorem Point.awaited_eq_some {σ ε Q : Type} {R : Q → Type} {α : Type} {pt : Point σ ε Q R α}
    {q : Q} : pt.awaited = some q ↔ ∃ k, pt = .waiting q k := by
  constructor
  · intro h
    cases pt with
    | done _ | failed _ => cases h
    | waiting q' k =>
        cases h
        exact ⟨k, rfl⟩
  · rintro ⟨k, rfl⟩
    rfl

/-- The value a stopped program returned. -/
def Point.returned {σ ε Q : Type} {R : Q → Type} {α : Type} : Point σ ε Q R α → Option α
  | .done a => some a
  | _ => none

theorem Point.returned_eq_some {σ ε Q : Type} {R : Q → Type} {α : Type} {pt : Point σ ε Q R α}
    {a : α} : pt.returned = some a ↔ pt = .done a := by
  constructor
  · intro h
    cases pt with
    | failed _ | waiting _ _ => cases h
    | done b =>
        cases h
        rfl
  · rintro rfl
    rfl

section Logic
variable {σ ε Q : Type} {R : Q → Type} {α β : Type}

def resume : Co σ ε Q R α → σ → Point σ ε Q R α × σ
  | .ret a, s => (.done a, s)
  | .raise e, s => (.failed e, s)
  | .act upd k, s => (k s).resume (upd s)
  | .await q k, s => (.waiting q k, s)

theorem resume_lift_bind {m : EStateM ε σ α} {f : α → Co σ ε Q R β} {s s' : σ} {a : α}
    (h : m s = .ok a s') : (Co.lift m >>= f).resume s = (f a).resume s' := by
  show ((match m s with | .ok a _ => Co.ret a | .error e _ => .raise e).bind f).resume
    (match m s with | .ok _ s' => s' | .error _ s' => s') = _
  rw [h]
  rfl

theorem resume_lift_bind_error {m : EStateM ε σ α} {f : α → Co σ ε Q R β} {s s' : σ} {e : ε}
    (h : m s = .error e s') : (Co.lift m >>= f).resume s = (.failed e, s') := by
  show ((match m s with | .ok a _ => Co.ret a | .error e _ => .raise e).bind f).resume
    (match m s with | .ok _ s' => s' | .error _ s' => s') = _
  rw [h]
  rfl

theorem resume_bind_waiting {f : α → Co σ ε Q R β} :
    ∀ {p : Co σ ε Q R α} {s s' : σ} {q : Q} {k : Except ε (R q) → Co σ ε Q R α},
      p.resume s = (.waiting q k, s') → (p >>= f).resume s = (.waiting q (fun r => k r >>= f), s')
  | .ret _, _, _, _, _, h => by cases h
  | .raise _, _, _, _, _, h => by cases h
  | .act _ k, s, _, _, _, h => resume_bind_waiting (p := k s) h
  | .await _ _, _, _, _, _, h => by
      cases h
      rfl

theorem resume_tryCatch_waiting {f : ε → Co σ ε Q R α} :
    ∀ {p : Co σ ε Q R α} {s s' : σ} {q : Q} {k : Except ε (R q) → Co σ ε Q R α},
      p.resume s = (.waiting q k, s') →
        (tryCatch p f).resume s = (.waiting q (fun r => tryCatch (k r) f), s')
  | .ret _, _, _, _, _, h => by cases h
  | .raise _, _, _, _, _, h => by cases h
  | .act _ k, s, _, _, _, h => resume_tryCatch_waiting (p := k s) h
  | .await _ _, _, _, _, _, h => by
      cases h
      rfl

/-- The calls answered so far, oldest first. -/
abbrev Hist (ε Q : Type) (R : Q → Type) : Type := List (Σ q : Q, Except ε (R q))

/-- The logic; see the header. -/
def Safe (env : (q : Q) → σ → Except ε (R q) → σ → Prop)
    (C : Hist ε Q R → σ → Q → σ → Prop) (D : Hist ε Q R → σ → α → σ → Prop)
    (X : Hist ε Q R → σ → ε → σ → Prop) :
    Hist ε Q R → σ → Co σ ε Q R α → σ → Prop
  | h, s₀, .ret a, s => D h s₀ a s
  | h, s₀, .raise e, s => X h s₀ e s
  | h, s₀, .act upd k, s => Safe env C D X h s₀ (k s) (upd s)
  | h, s₀, .await q k, s =>
      C h s₀ q s ∧ ∀ r s', env q s r s' → Safe env C D X (h ++ [⟨q, r⟩]) s' (k r) s'

variable {env : (q : Q) → σ → Except ε (R q) → σ → Prop}
  {C : Hist ε Q R → σ → Q → σ → Prop} {D : Hist ε Q R → σ → α → σ → Prop}
  {X : Hist ε Q R → σ → ε → σ → Prop}

/-! ### The rules -/

theorem Safe.pure {h : Hist ε Q R} {s₀ s : σ} {a : α} (hd : D h s₀ a s) :
    Safe env C D X h s₀ (Pure.pure a) s := hd

theorem Safe.throw {h : Hist ε Q R} {s₀ s : σ} {e : ε} (hx : X h s₀ e s) :
    Safe env C D X h s₀ (throw e) s := hx

/-- The continuation is proved in whatever segment the first part ends in. -/
theorem Safe.bind {D : Hist ε Q R → σ → β → σ → Prop} {f : α → Co σ ε Q R β} :
    ∀ {p : Co σ ε Q R α} {h : Hist ε Q R} {s₀ s : σ},
      Safe env C (fun h s₀ a s => Safe env C D X h s₀ (f a) s) X h s₀ p s →
        Safe env C D X h s₀ (p >>= f) s
  | .ret _, _, _, _, hp => hp
  | .raise _, _, _, _, hp => hp
  | .act _ k, _, _, s, hp => Safe.bind (p := k s) hp
  | .await _ k, _, _, _, hp => ⟨hp.1, fun r s' hr => Safe.bind (p := k r) (hp.2 r s' hr)⟩

theorem Safe.tryCatch {f : ε → Co σ ε Q R α} :
    ∀ {p : Co σ ε Q R α} {h : Hist ε Q R} {s₀ s : σ},
      Safe env C D (fun h s₀ e s => Safe env C D X h s₀ (f e) s) h s₀ p s →
        Safe env C D X h s₀ (tryCatch p f) s
  | .ret _, _, _, _, hp => hp
  | .raise _, _, _, _, hp => hp
  | .act _ k, _, _, s, hp => Safe.tryCatch (p := k s) hp
  | .await _ k, _, _, _, hp => ⟨hp.1, fun r s' hr => Safe.tryCatch (p := k r) (hp.2 r s' hr)⟩

theorem Safe.lift {m : EStateM ε σ α} {h : Hist ε Q R} {s₀ s : σ}
    (hok : ∀ a s', m s = .ok a s' → D h s₀ a s')
    (herr : ∀ e s', m s = .error e s' → X h s₀ e s') :
    Safe env C D X h s₀ (Co.lift m) s := by
  show Safe env C D X h s₀ (match m s with | .ok a _ => .ret a | .error e _ => .raise e)
    (match m s with | .ok _ s' => s' | .error _ s' => s')
  cases hm : m s with
  | ok a s' => exact hok a s' hm
  | error e s' => exact herr e s' hm

theorem Safe.lift_returns {m : EStateM ε σ α} {h : Hist ε Q R} {s₀ s : σ}
    (hm : EState.Returns (fun a s' => D h s₀ a s') m s) : Safe env C D X h s₀ (Co.lift m) s := by
  obtain ⟨a, s', hrun, hd⟩ := hm
  refine Safe.lift ?_ ?_
  · intro a' s'' hok
    rw [hrun] at hok
    cases hok
    exact hd
  · intro e s'' herr
    rw [hrun] at herr
    cases herr

theorem Safe.call {q : Q} {h : Hist ε Q R} {s₀ s : σ} {D : Hist ε Q R → σ → R q → σ → Prop}
    (hc : C h s₀ q s)
    (hok : ∀ a s', env q s (.ok a) s' → D (h ++ [⟨q, .ok a⟩]) s' a s')
    (herr : ∀ e s', env q s (.error e) s' → X (h ++ [⟨q, .error e⟩]) s' e s') :
    Safe env C D X h s₀ (Co.call q) s := by
  refine ⟨hc, ?_⟩
  intro r s' hr
  cases r with
  | ok a => exact hok a s' hr
  | error e => exact herr e s' hr

/-- Consequence. -/
theorem Safe.mono {C' : Hist ε Q R → σ → Q → σ → Prop} {D' : Hist ε Q R → σ → α → σ → Prop}
    {X' : Hist ε Q R → σ → ε → σ → Prop}
    (hC : ∀ h s₀ q s, C h s₀ q s → C' h s₀ q s) (hD : ∀ h s₀ a s, D h s₀ a s → D' h s₀ a s)
    (hX : ∀ h s₀ e s, X h s₀ e s → X' h s₀ e s) :
    ∀ {p : Co σ ε Q R α} {h : Hist ε Q R} {s₀ s : σ},
      Safe env C D X h s₀ p s → Safe env C' D' X' h s₀ p s
  | .ret a, h, s₀, s, hp => hD h s₀ a s hp
  | .raise e, h, s₀, s, hp => hX h s₀ e s hp
  | .act _ k, _, _, s, hp => Safe.mono hC hD hX (p := k s) hp
  | .await q k, h, s₀, s, hp =>
      ⟨hC h s₀ q s hp.1, fun r s' hr => Safe.mono hC hD hX (p := k r) (hp.2 r s' hr)⟩

/-- Every program keeps to assertions that say nothing. -/
theorem Safe.trivial : ∀ {p : Co σ ε Q R α} {h : Hist ε Q R} {s₀ s : σ},
    Safe env (fun _ _ _ _ => True) (fun _ _ _ _ => True) (fun _ _ _ _ => True) h s₀ p s
  | .ret _, _, _, _ => True.intro
  | .raise _, _, _, _ => True.intro
  | .act _ k, _, _, s => Safe.trivial (p := k s)
  | .await _ k, _, _, _ => ⟨True.intro, fun r _ _ => Safe.trivial (p := k r)⟩

/-- Where nothing is said of the first part's result. -/
theorem Safe.andThen {D : Hist ε Q R → σ → β → σ → Prop} {p : Co σ ε Q R α}
    {f : α → Co σ ε Q R β} {h : Hist ε Q R} {s₀ s : σ}
    (hp : Safe env C (fun _ _ _ _ => True) X h s₀ p s)
    (hf : ∀ h s₀ a s, Safe env C D X h s₀ (f a) s) : Safe env C D X h s₀ (p >>= f) s :=
  Safe.bind (hp.mono (fun _ _ _ _ hc => hc) (fun h s₀ a s _ => hf h s₀ a s) (fun _ _ _ _ hx => hx))

/-- The outcome of a program as a value: both ends become the end of the whole. -/
theorem Safe.attempt {D : Hist ε Q R → σ → Except ε α → σ → Prop} :
    ∀ {p : Co σ ε Q R α} {h : Hist ε Q R} {s₀ s : σ},
      Safe env C (fun h s₀ a s => D h s₀ (.ok a) s) (fun h s₀ e s => D h s₀ (.error e) s) h s₀ p s →
        Safe env C D X h s₀ p.attempt s
  | .ret _, _, _, _, hp => hp
  | .raise _, _, _, _, hp => hp
  | .act _ k, _, _, s, hp => Safe.attempt (p := k s) hp
  | .await _ k, _, _, _, hp => ⟨hp.1, fun r s' hr => Safe.attempt (p := k r) (hp.2 r s' hr)⟩

/-! ### The rules for handled programs -/

section
variable {ρ Q' : Type} {R' : Q' → Type} {get : σ → ρ} {set : ρ → σ → σ}
  {H : (q : Q') → Co σ ε Q R (R' q)}

theorem Safe.handle_bind {D : Hist ε Q R → σ → β → σ → Prop} {p : Co ρ ε Q' R' α}
    {f : α → Co ρ ε Q' R' β} {h : Hist ε Q R} {s₀ s : σ}
    (hp : Safe env C (fun h s₀ a s => Safe env C D X h s₀ (handle get set H (f a)) s) X h s₀
      (handle get set H p) s) :
    Safe env C D X h s₀ (handle get set H (p >>= f)) s := by
  rw [Co.handle_bind]
  exact Safe.bind hp

theorem Safe.handle_tryCatch {p : Co ρ ε Q' R' α} {f : ε → Co ρ ε Q' R' α} {h : Hist ε Q R}
    {s₀ s : σ}
    (hp : Safe env C D (fun h s₀ e s => Safe env C D X h s₀ (handle get set H (f e)) s) h s₀
      (handle get set H p) s) :
    Safe env C D X h s₀ (handle get set H (MonadExcept.tryCatch p f)) s := by
  rw [Co.handle_tryCatch]
  exact Safe.tryCatch hp

theorem Safe.handle_call {q : Q'} {D : Hist ε Q R → σ → R' q → σ → Prop} {h : Hist ε Q R}
    {s₀ s : σ} (hq : Safe env C D X h s₀ (H q) s) :
    Safe env C D X h s₀ (handle get set H (Co.call q)) s := by
  rw [Co.handle_call]
  exact hq

theorem Safe.handle_lift {m : EStateM ε ρ α} {h : Hist ε Q R} {s₀ s : σ}
    (hok : ∀ a t, m (get s) = .ok a t → D h s₀ a (set t s))
    (herr : ∀ e t, m (get s) = .error e t → X h s₀ e (set t s)) :
    Safe env C D X h s₀ (handle get set H (Co.lift m)) s := by
  rw [Co.handle_lift]
  refine Safe.lift ?_ ?_
  · intro a s' hm
    obtain ⟨t, ht, rfl⟩ := EState.zoom_eq_ok.mp hm
    exact hok a t ht
  · intro e s' hm
    obtain ⟨t, ht, rfl⟩ := EState.zoom_eq_error.mp hm
    exact herr e t ht

theorem Safe.handle_lift_returns {m : EStateM ε ρ α} {h : Hist ε Q R} {s₀ s : σ}
    (hm : EState.Returns (fun a t => D h s₀ a (set t s)) m (get s)) :
    Safe env C D X h s₀ (handle get set H (Co.lift m)) s := by
  rw [Co.handle_lift]
  exact Safe.lift_returns (EState.Returns.zoom hm)

end

/-- The others may do anything to the state between two segments of a program. -/
def anyEnv (q : Q) (_ : σ) (_ : Except ε (R q)) (_ : σ) : Prop := True

/-- What a program promises of its result in any environment, it promises when it is handled; `J` is
an invariant of the programs that carry out its calls, and does not depend on its part of the
state. -/
theorem Safe.handle {ρ Q' : Type} {R' : Q' → Type} {get : σ → ρ} {set : ρ → σ → σ}
    {H : (q : Q') → Co σ ε Q R (R' q)} {P : α → Prop} {J : Hist ε Q R → σ → Prop}
    (hget : ∀ r s, get (set r s) = r) (hset : ∀ h r s, J h s → J h (set r s))
    (hH : ∀ q h s₀ s, J h s →
      Safe env C (fun h _ _ s => J h s) (fun h _ _ s => J h s) h s₀ (H q) s) :
    ∀ {p : Co ρ ε Q' R' α} {h' : Hist ε Q' R'} {r₀ : ρ} {h : Hist ε Q R} {s₀ s : σ},
      Safe anyEnv (fun _ _ _ _ => True) (fun _ _ a _ => P a) (fun _ _ _ _ => True) h' r₀ p (get s) →
      J h s → Safe env C (fun h _ a s => J h s ∧ P a) (fun h _ _ s => J h s) h s₀
        (Co.handle get set H p) s
  | .ret _, _, _, _, _, _, hp, hj => ⟨hj, hp⟩
  | .raise _, _, _, _, _, _, _, hj => hj
  | .act upd k, h', r₀, h, s₀, s, hp, hj => by
      have hp' : Safe anyEnv (fun _ _ _ _ => True) (fun _ _ a _ => P a) (fun _ _ _ _ => True) h' r₀
          (k (get s)) (get (set (upd (get s)) s)) := by
        rw [hget]
        exact hp
      show Safe env C _ _ h s₀ (Co.handle get set H (k (get s))) (set (upd (get s)) s)
      exact Safe.handle hget hset hH hp' (hset h _ s hj)
  | .await q k, _, _, h, s₀, s, hp, hj => by
      refine Safe.bind (p := (H q).attempt) (Safe.attempt ((hH q h s₀ s hj).mono
        (fun _ _ _ _ hc => hc) ?_ ?_))
      · intro h₁ _ a s₁ hj₁
        exact Safe.handle hget hset hH (hp.2 (.ok a) (get s₁) True.intro) hj₁
      · intro h₁ _ e s₁ hj₁
        exact Safe.handle hget hset hH (hp.2 (.error e) (get s₁) True.intro) hj₁

/-! ### Frame conditions -/

/-- Whatever happens at its awaits, every segment of `p` relates the state it began in to the one it
stops in by `P`. -/
def Segments (P : σ → σ → Prop) (p : Co σ ε Q R α) : Prop :=
  ∀ (env : (q : Q) → σ → Except ε (R q) → σ → Prop) (h : Hist ε Q R) (s₀ s : σ), P s₀ s →
    Safe env (fun _ s₀ _ s => P s₀ s) (fun _ s₀ _ s => P s₀ s) (fun _ s₀ _ s => P s₀ s) h s₀ p s

section
variable {P : σ → σ → Prop}

theorem Segments.pure (a : α) : Segments P (Pure.pure a : Co σ ε Q R α) :=
  fun _ _ _ _ hp => hp

theorem Segments.throw (e : ε) : Segments P (throw e : Co σ ε Q R α) :=
  fun _ _ _ _ hp => hp

theorem Segments.bind {p : Co σ ε Q R α} {f : α → Co σ ε Q R β} (hp : Segments P p)
    (hf : ∀ a, Segments P (f a)) : Segments P (p >>= f) := by
  intro env h s₀ s hs
  refine Safe.bind ((hp env h s₀ s hs).mono (fun _ _ _ _ hc => hc) ?_ (fun _ _ _ _ hx => hx))
  intro h' s₀' a s' hs'
  exact hf a env h' s₀' s' hs'

theorem Segments.tryCatch {p : Co σ ε Q R α} {f : ε → Co σ ε Q R α} (hp : Segments P p)
    (hf : ∀ e, Segments P (f e)) : Segments P (tryCatch p f) := by
  intro env h s₀ s hs
  refine Safe.tryCatch ((hp env h s₀ s hs).mono (fun _ _ _ _ hc => hc) (fun _ _ _ _ hd => hd) ?_)
  intro h' s₀' e s' hs'
  exact hf e env h' s₀' s' hs'

theorem Segments.lift (ht : ∀ a b c, P a b → P b c → P a c) {m : EStateM ε σ α}
    (hm : EState.Keeps P m) : Segments P (Co.lift m : Co σ ε Q R α) := by
  intro env h s₀ s hs
  exact Safe.lift (fun _ _ hok => ht _ _ _ hs (hm.ok hok)) (fun _ _ herr => ht _ _ _ hs (hm.error herr))

theorem Segments.call (hr : ∀ s, P s s) (q : Q) : Segments P (Co.call q : Co σ ε Q R (R q)) :=
  fun _ _ _ _ hs => Safe.call hs (fun _ s' _ => hr s') (fun _ s' _ => hr s')

end

/-- A program that keeps a frame condition keeps, when it is handled, every `J` that the programs
carrying out its calls keep and that does not change under a change of its part of the state which
the frame condition allows. -/
theorem Segments.handle {ρ Q' : Type} {R' : Q' → Type} {get : σ → ρ} {set : ρ → σ → σ}
    {H : (q : Q') → Co σ ε Q R (R' q)} {P : ρ → ρ → Prop} {J : Hist ε Q R → σ → Prop}
    (hrefl : ∀ r, P r r) (hget : ∀ r s, get (set r s) = r) (hput : ∀ s, set (get s) s = s)
    (hset : ∀ r r' s, set r (set r' s) = set r s) (hP : ∀ h r s, P (get s) r → J h s → J h (set r s))
    (hH : ∀ q h s₀ s, J h s →
      Safe env C (fun h _ _ s => J h s) (fun h _ _ s => J h s) h s₀ (H q) s)
    {p : Co ρ ε Q' R' α} (hp : Segments P p) {h : Hist ε Q R} {s₀ s : σ} (hj : J h s) :
    Safe env C (fun h _ _ s => J h s) (fun h _ _ s => J h s) h s₀ (Co.handle get set H p) s := by
  -- within a segment `J` holds of the state with the part that the segment began with
  have hstop : ∀ {h : Hist ε Q R} {r₀ : ρ} {s : σ}, J h (set r₀ s) → P r₀ (get s) → J h s := by
    intro h r₀ s hj hp
    have hj' := hP h (get s) (set r₀ s) (by rwa [hget]) hj
    rwa [hset, hput] at hj'
  suffices hmain : ∀ (p : Co ρ ε Q' R' α) (h' : Hist ε Q' R') (r₀ : ρ) (h : Hist ε Q R) (s₀ s : σ),
      Safe anyEnv (fun _ r₀ _ r => P r₀ r) (fun _ r₀ _ r => P r₀ r) (fun _ r₀ _ r => P r₀ r) h' r₀ p
        (get s) → J h (set r₀ s) →
      Safe env C (fun h _ _ s => J h s) (fun h _ _ s => J h s) h s₀ (Co.handle get set H p) s by
    exact hmain p [] (get s) h s₀ s (hp anyEnv [] _ _ (hrefl _)) (by rwa [hput])
  intro p
  induction p with
  | ret a => exact fun _ _ _ _ _ hp hj => hstop hj hp
  | raise e => exact fun _ _ _ _ _ hp hj => hstop hj hp
  | act upd k ih =>
      intro h' r₀ h s₀ s hp hj
      refine ih (get s) h' r₀ h s₀ (set (upd (get s)) s) ?_ (by rwa [hset])
      rw [hget]
      exact hp
  | await q k ih =>
      intro h' r₀ h s₀ s hp hj
      have hcall := hH q h s₀ s (hstop hj hp.1)
      have hresume : ∀ r h₁ s₁ s₂, J h₁ s₂ → Safe env C (fun h _ _ s => J h s)
          (fun h _ _ s => J h s) h₁ s₁ (Co.handle get set H (k r)) s₂ := by
        intro r h₁ s₁ s₂ hj₁
        exact ih r _ (get s₂) h₁ s₁ s₂ (hp.2 r (get s₂) True.intro) (by rwa [hput])
      exact Safe.bind (p := (H q).attempt) (Safe.attempt (hcall.mono (fun _ _ _ _ hc => hc)
        (fun h₁ s₁ a s₂ hj₁ => hresume (.ok a) h₁ s₁ s₂ hj₁)
        fun h₁ s₁ e s₂ hj₁ => hresume (.error e) h₁ s₁ s₂ hj₁))

/-! ### What a safe program does up to its next stop -/

/-- The assertion that belongs to a stop, with the promise for the rest of the program. -/
def StopOk (env : (q : Q) → σ → Except ε (R q) → σ → Prop)
    (C : Hist ε Q R → σ → Q → σ → Prop) (D : Hist ε Q R → σ → α → σ → Prop)
    (X : Hist ε Q R → σ → ε → σ → Prop) (h : Hist ε Q R) (s₀ : σ) : Point σ ε Q R α → σ → Prop
  | .done a, s => D h s₀ a s
  | .failed e, s => X h s₀ e s
  | .waiting q k, s =>
      C h s₀ q s ∧ ∀ r s', env q s r s' → Safe env C D X (h ++ [⟨q, r⟩]) s' (k r) s'

theorem Safe.resume : ∀ {p : Co σ ε Q R α} {h : Hist ε Q R} {s₀ s : σ},
    Safe env C D X h s₀ p s → StopOk env C D X h s₀ (p.resume s).1 (p.resume s).2
  | .ret _, _, _, _, hp => hp
  | .raise _, _, _, _, hp => hp
  | .act _ k, _, _, s, hp => Safe.resume (p := k s) hp
  | .await _ _, _, _, _, hp => hp

end Logic

/-! ## One coroutine and its environment -/

section Machine
variable {σ ε Q : Type} {R : Q → Type} {α : Type}

/-- A stopped coroutine: the calls answered so far, the state its last segment began in (`seg`)
and stopped in (`stop`), and the state now. -/
structure Conf (σ ε Q : Type) (R : Q → Type) (α : Type) where
  hist : Hist ε Q R
  seg : σ
  stop : σ
  point : Point σ ε Q R α
  state : σ

/-- Run `p` from `s` to its first stop. -/
def Conf.start (p : Co σ ε Q R α) (s : σ) : Conf σ ε Q R α :=
  ⟨[], s, (p.resume s).2, (p.resume s).1, (p.resume s).2⟩

/-- Resume a waiting coroutine with the answer `r`. -/
def Conf.answer (h : Hist ε Q R) (q : Q) (k : Except ε (R q) → Co σ ε Q R α)
    (r : Except ε (R q)) (s : σ) : Conf σ ε Q R α :=
  ⟨h ++ [⟨q, r⟩], s, ((k r).resume s).2, ((k r).resume s).1, ((k r).resume s).2⟩

/-- `I` is one step of interference, `G q r s` says that `r` may answer `q` in the state `s`. -/
inductive Conf.Step (I : σ → σ → Prop) (G : (q : Q) → Except ε (R q) → σ → Prop) :
    Conf σ ε Q R α → Conf σ ε Q R α → Prop
  | interfere {c : Conf σ ε Q R α} {s' : σ} : I c.state s' → Conf.Step I G c { c with state := s' }
  | answer {h : Hist ε Q R} {s₀ s₁ s : σ} {q : Q} {k : Except ε (R q) → Co σ ε Q R α}
      {r : Except ε (R q)} : G q r s →
      Conf.Step I G ⟨h, s₀, s₁, .waiting q k, s⟩ (Conf.answer h q k r s)

/-- Every configuration a run of `p` from `s` can be in. -/
def Conf.Reachable (I : σ → σ → Prop) (G : (q : Q) → Except ε (R q) → σ → Prop)
    (p : Co σ ε Q R α) (s : σ) : Conf σ ε Q R α → Prop :=
  Relation.ReflTransGen (Conf.Step I G) (Conf.start p s)

/-- A run of `p` from `s` to a configuration, with those it has been in, that one included. -/
inductive Conf.Visits (I : σ → σ → Prop) (G : (q : Q) → Except ε (R q) → σ → Prop)
    (p : Co σ ε Q R α) (s : σ) : List (Conf σ ε Q R α) → Conf σ ε Q R α → Prop
  | start : Conf.Visits I G p s [Conf.start p s] (Conf.start p s)
  | step {cs : List (Conf σ ε Q R α)} {c c' : Conf σ ε Q R α} :
      Conf.Visits I G p s cs c → Conf.Step I G c c' → Conf.Visits I G p s (cs ++ [c']) c'

theorem Conf.Visits.reachable {I : σ → σ → Prop} {G : (q : Q) → Except ε (R q) → σ → Prop}
    {p : Co σ ε Q R α} {s : σ} {cs : List (Conf σ ε Q R α)} {c : Conf σ ε Q R α}
    (h : Conf.Visits I G p s cs c) : Conf.Reachable I G p s c := by
  induction h with
  | start => exact .refl
  | step _ hs ih => exact ih.tail hs

theorem Conf.Visits.reachable_of_mem {I : σ → σ → Prop} {G : (q : Q) → Except ε (R q) → σ → Prop}
    {p : Co σ ε Q R α} {s : σ} {cs : List (Conf σ ε Q R α)} {c c' : Conf σ ε Q R α}
    (h : Conf.Visits I G p s cs c) (hm : c' ∈ cs) : Conf.Reachable I G p s c' := by
  induction h with
  | start =>
      rw [List.mem_singleton.mp hm]
      exact .refl
  | step hv hs ih =>
      rcases List.mem_append.mp hm with hm | hm
      · exact ih hm
      · rw [List.mem_singleton.mp hm]
        exact hv.reachable.tail hs

theorem Conf.Visits.last_mem {I : σ → σ → Prop} {G : (q : Q) → Except ε (R q) → σ → Prop}
    {p : Co σ ε Q R α} {s : σ} {cs : List (Conf σ ε Q R α)} {c : Conf σ ε Q R α}
    (h : Conf.Visits I G p s cs c) : c ∈ cs := by
  cases h with
  | start => exact List.mem_singleton_self _
  | step _ _ => exact List.mem_append_right _ (List.mem_singleton_self _)

/-- A call that has been answered was awaited before. -/
theorem Conf.Visits.asked {I : σ → σ → Prop} {G : (q : Q) → Except ε (R q) → σ → Prop}
    {p : Co σ ε Q R α} {s : σ} {cs : List (Conf σ ε Q R α)} {c : Conf σ ε Q R α}
    (h : Conf.Visits I G p s cs c) :
    ∀ x ∈ c.hist, ∃ c₁ ∈ cs, c₁.point.awaited = some x.1 := by
  induction h with
  | start =>
      intro x hx
      cases hx
  | @step cs c c' hv hs ih =>
      have hearlier : ∀ x ∈ c.hist, ∃ c₁ ∈ cs ++ [c'], c₁.point.awaited = some x.1 := by
        intro x hx
        obtain ⟨c₁, hmem, hc₁⟩ := ih x hx
        exact ⟨c₁, List.mem_append_left _ hmem, hc₁⟩
      cases hs with
      | interfere _ => exact hearlier
      | answer _ =>
          intro x hx
          rcases List.mem_append.mp hx with hx | hx
          · exact hearlier x hx
          · rw [List.mem_singleton.mp hx]
            exact ⟨_, List.mem_append_left _ hv.last_mem, rfl⟩

/-- A run of `p` from `s` to a configuration, with the segments it has run: the state each began in
and the one it stopped in, oldest first. -/
inductive Conf.Runs (I : σ → σ → Prop) (G : (q : Q) → Except ε (R q) → σ → Prop)
    (p : Co σ ε Q R α) (s : σ) : List (σ × σ) → Conf σ ε Q R α → Prop
  | start : Conf.Runs I G p s [(s, (p.resume s).2)] (Conf.start p s)
  | interfere {segs : List (σ × σ)} {c : Conf σ ε Q R α} {s' : σ} :
      Conf.Runs I G p s segs c → I c.state s' → Conf.Runs I G p s segs { c with state := s' }
  | answer {segs : List (σ × σ)} {h : Hist ε Q R} {s₀ s₁ s₂ : σ} {q : Q}
      {k : Except ε (R q) → Co σ ε Q R α} {r : Except ε (R q)} :
      Conf.Runs I G p s segs ⟨h, s₀, s₁, .waiting q k, s₂⟩ → G q r s₂ →
      Conf.Runs I G p s (segs ++ [(s₂, ((k r).resume s₂).2)]) (Conf.answer h q k r s₂)

theorem Conf.Runs.reachable {I : σ → σ → Prop} {G : (q : Q) → Except ε (R q) → σ → Prop}
    {p : Co σ ε Q R α} {s : σ} {segs : List (σ × σ)} {c : Conf σ ε Q R α}
    (h : Conf.Runs I G p s segs c) : Conf.Reachable I G p s c := by
  induction h with
  | start => exact .refl
  | interfere _ hi ih => exact ih.tail (.interfere hi)
  | answer _ hg ih => exact ih.tail (.answer hg)

/-- Answer a waiting coroutine as `f` does; leave a finished one alone. -/
def Conf.respond (f : (q : Q) → Except ε (R q)) (c : Conf σ ε Q R α) : Conf σ ε Q R α :=
  match c.point with
  | .waiting q k => Conf.answer c.hist q k (f q) c.state
  | _ => c

theorem Conf.Reachable.respond {I : σ → σ → Prop} {G : (q : Q) → Except ε (R q) → σ → Prop}
    {p : Co σ ε Q R α} {s : σ} {c : Conf σ ε Q R α} (h : Conf.Reachable I G p s c)
    (f : (q : Q) → Except ε (R q)) (hf : ∀ q, G q (f q) c.state) :
    Conf.Reachable I G p s (c.respond f) := by
  obtain ⟨hist, s₀, s₁, point, st⟩ := c
  cases point with
  | done _ | failed _ => exact h
  | waiting q k => exact h.tail (.answer (hf q))

theorem Conf.Reachable.responds {I : σ → σ → Prop} {G : (q : Q) → Except ε (R q) → σ → Prop}
    {p : Co σ ε Q R α} {s : σ} {c : Conf σ ε Q R α} (h : Conf.Reachable I G p s c)
    (f : (q : Q) → Except ε (R q)) (hf : ∀ q s, G q (f q) s) (n : ℕ) :
    Conf.Reachable I G p s ((Conf.respond f)^[n] c) := by
  induction n with
  | zero => exact h
  | succ n ih =>
      rw [Function.iterate_succ_apply']
      exact ih.respond f fun q => hf q _

/-- Answer a waiting coroutine `n` times as `f` does, and keep the segments it runs. -/
def Conf.drive (f : (q : Q) → Except ε (R q)) :
    ℕ → List (σ × σ) → Conf σ ε Q R α → List (σ × σ) × Conf σ ε Q R α
  | 0, segs, c => (segs, c)
  | n + 1, segs, c =>
      match c.point with
      | .waiting q k =>
          Conf.drive f n (segs ++ [(c.state, ((k (f q)).resume c.state).2)])
            (Conf.answer c.hist q k (f q) c.state)
      | _ => (segs, c)

theorem Conf.Runs.drive {I : σ → σ → Prop} {G : (q : Q) → Except ε (R q) → σ → Prop}
    {p : Co σ ε Q R α} {s : σ} (f : (q : Q) → Except ε (R q)) (hf : ∀ q s, G q (f q) s) (n : ℕ) :
    ∀ {segs : List (σ × σ)} {c : Conf σ ε Q R α}, Conf.Runs I G p s segs c →
      Conf.Runs I G p s (Conf.drive f n segs c).1 (Conf.drive f n segs c).2 := by
  induction n with
  | zero => exact fun h => h
  | succ n ih =>
      intro segs c h
      obtain ⟨hist, s₀, s₁, point, st⟩ := c
      cases point with
      | done _ | failed _ => exact h
      | waiting q k => exact ih (h.answer (hf q st))

theorem Conf.Reachable.visits {I : σ → σ → Prop} {G : (q : Q) → Except ε (R q) → σ → Prop}
    {p : Co σ ε Q R α} {s : σ} {c : Conf σ ε Q R α} (h : Conf.Reachable I G p s c) :
    ∃ cs, Conf.Visits I G p s cs c := by
  induction h with
  | refl => exact ⟨_, .start⟩
  | tail _ hs ih =>
      obtain ⟨cs, hv⟩ := ih
      exact ⟨_, hv.step hs⟩

/-- The environment of one await: any interference, then an answer that is allowed. -/
def awaitEnv (I : σ → σ → Prop) (G : (q : Q) → Except ε (R q) → σ → Prop)
    (q : Q) (s : σ) (r : Except ε (R q)) (s' : σ) : Prop :=
  Relation.ReflTransGen I s s' ∧ G q r s'

variable {I : σ → σ → Prop} {G : (q : Q) → Except ε (R q) → σ → Prop}
  {C : Hist ε Q R → σ → Q → σ → Prop} {D : Hist ε Q R → σ → α → σ → Prop}
  {X : Hist ε Q R → σ → ε → σ → Prop}

/-- The stop is as asserted, and only interference separates it from the state now. -/
structure Conf.Good (I : σ → σ → Prop) (G : (q : Q) → Except ε (R q) → σ → Prop)
    (C : Hist ε Q R → σ → Q → σ → Prop) (D : Hist ε Q R → σ → α → σ → Prop)
    (X : Hist ε Q R → σ → ε → σ → Prop) (c : Conf σ ε Q R α) : Prop where
  stopOk : StopOk (awaitEnv I G) C D X c.hist c.seg c.point c.stop
  drift : Relation.ReflTransGen I c.stop c.state

theorem Conf.start_good {p : Co σ ε Q R α} {s : σ} (h : Safe (awaitEnv I G) C D X [] s p s) :
    Conf.Good I G C D X (Conf.start p s) :=
  ⟨h.resume, .refl⟩

theorem Conf.Good.step {c c' : Conf σ ε Q R α} (hc : Conf.Good I G C D X c)
    (h : Conf.Step I G c c') : Conf.Good I G C D X c' := by
  cases h with
  | interfere hi => exact ⟨hc.stopOk, hc.drift.tail hi⟩
  | @answer h s₀ s₁ s q k r hg => exact ⟨(hc.stopOk.2 r s ⟨hc.drift, hg⟩).resume, .refl⟩

/-- **Soundness.**  A safe program's assertions hold at every stop of every run. -/
theorem Conf.good_of_reachable {p : Co σ ε Q R α} {s : σ} {c : Conf σ ε Q R α}
    (h : Safe (awaitEnv I G) C D X [] s p s) (hr : Conf.Reachable I G p s c) :
    Conf.Good I G C D X c := by
  induction hr with
  | refl => exact Conf.start_good h
  | tail _ hs ih => exact ih.step hs

/-- The segments of a run of a safe program: the last is that of the configuration, those before
it ended at an await as asserted. -/
theorem Conf.Runs.split {p : Co σ ε Q R α} {s : σ} {segs : List (σ × σ)} {c : Conf σ ε Q R α}
    (h : Safe (awaitEnv I G) C D X [] s p s) (hr : Conf.Runs I G p s segs c) :
    ∃ before, segs = before ++ [(c.seg, c.stop)] ∧ ∀ x ∈ before, ∃ h q, C h x.1 q x.2 := by
  induction hr with
  | start => exact ⟨[], rfl, by simp⟩
  | interfere _ _ ih => exact ih
  | @answer segs hist s₀ s₁ s₂ q k r hr _ ih =>
      obtain ⟨before, rfl, hbefore⟩ := ih
      refine ⟨before ++ [(s₀, s₁)], rfl, ?_⟩
      intro x hx
      rcases List.mem_append.mp hx with hx | hx
      · exact hbefore x hx
      · rw [List.mem_singleton.mp hx]
        exact ⟨hist, q, (Conf.good_of_reachable h hr.reachable).stopOk.1⟩

/-- What a safe program asserts of an await holds where it awaits. -/
theorem Conf.asserted_of_reachable {p : Co σ ε Q R α} {s : σ} {c : Conf σ ε Q R α} {q : Q}
    (h : Safe (awaitEnv I G) C D X [] s p s) (hr : Conf.Reachable I G p s c)
    (hq : c.point.awaited = some q) : C c.hist c.seg q c.stop := by
  have hgood := (Conf.good_of_reachable h hr).stopOk
  obtain ⟨k, hk⟩ := Point.awaited_eq_some.mp hq
  rw [hk] at hgood
  exact hgood.1

/-- What a safe program asserts of every call it awaits holds of those answered so far. -/
theorem Conf.answered_of_reachable {P : Q → Prop} {p : Co σ ε Q R α} {s : σ} {c : Conf σ ε Q R α}
    (h : Safe (awaitEnv I G) (fun _ _ q _ => P q) D X [] s p s) (hr : Conf.Reachable I G p s c) :
    ∀ x ∈ c.hist, P x.1 := by
  intro x hx
  obtain ⟨cs, hv⟩ := hr.visits
  obtain ⟨c₁, hmem, hasked⟩ := hv.asked x hx
  exact Conf.asserted_of_reachable h (hv.reachable_of_mem hmem) hasked

/-- A frame condition of the segments holds of the last segment of every reachable configuration. -/
theorem Conf.segment_of_reachable {P : σ → σ → Prop} (hr : ∀ s, P s s) {p : Co σ ε Q R α} {s : σ}
    {c : Conf σ ε Q R α} (hp : Segments P p) (h : Conf.Reachable I G p s c) : P c.seg c.stop := by
  have hgood := (Conf.good_of_reachable (hp _ [] s s (hr s)) h).stopOk
  obtain ⟨hist, s₀, s₁, point, s₂⟩ := c
  cases point with
  | done _ | failed _ => exact hgood
  | waiting q k => exact hgood.1

end Machine

/-! ## Environments that are functions -/

section Exec
variable {σ ε Q : Type} {R : Q → Type} {α β : Type}

/-- What the others do to the state while a call is awaited, and its answer in the state they leave. -/
structure Oracle (σ ε Q : Type) (R : Q → Type) where
  drift : Q → σ → σ := fun _ s => s
  reply : (q : Q) → σ → Except ε (R q)

/-- Run a program to its end: the calls it made, its outcome and the last state. -/
def exec (O : Oracle σ ε Q R) : Co σ ε Q R α → σ → Hist ε Q R × Except ε α × σ
  | .ret a, s => ([], .ok a, s)
  | .raise e, s => ([], .error e, s)
  | .act upd k, s => (k s).exec O (upd s)
  | .await q k, s =>
      let r := O.reply q (O.drift q s)
      let rest := (k r).exec O (O.drift q s)
      (⟨q, r⟩ :: rest.1, rest.2)

variable {O : Oracle σ ε Q R}

theorem exec_bind_ok {f : α → Co σ ε Q R β} {a : α} :
    ∀ {p : Co σ ε Q R α} {s s' : σ} {h : Hist ε Q R}, p.exec O s = (h, .ok a, s') →
      (p >>= f).exec O s = (h ++ ((f a).exec O s').1, ((f a).exec O s').2)
  | .ret _, _, _, _, hp => by
      cases hp
      rfl
  | .raise _, _, _, _, hp => by cases hp
  | .act _ k, s, _, _, hp => exec_bind_ok (p := k s) hp
  | .await q k, s, s', h, hp => by
      obtain ⟨hh, hend⟩ := Prod.mk.inj hp
      have hrest := exec_bind_ok (f := f) (p := k (O.reply q (O.drift q s)))
        (Prod.ext rfl hend)
      show (_ :: ((k _ >>= f).exec O _).1, ((k _ >>= f).exec O _).2) = _
      rw [hrest, ← hh]
      rfl

/-- A call whose exception is caught is one step, and goes on with the answer. -/
theorem exec_attempt_call (q : Q) (f : Except ε (R q) → Co σ ε Q R β) (s : σ) :
    ((call q).attempt >>= f).exec O s =
      (⟨q, O.reply q (O.drift q s)⟩ :: ((f (O.reply q (O.drift q s))).exec O (O.drift q s)).1,
        ((f (O.reply q (O.drift q s))).exec O (O.drift q s)).2) := by
  show (_ :: (((match O.reply q (O.drift q s) with
    | .ok a => Co.ret a
    | .error e => Co.raise e).attempt >>= f).exec O (O.drift q s)).1, _) = _
  cases O.reply q (O.drift q s) <;> rfl

theorem Conf.interferes {I : σ → σ → Prop} {G : (q : Q) → Except ε (R q) → σ → Prop}
    (c : Conf σ ε Q R α) {s' : σ} (h : Relation.ReflTransGen I c.state s') :
    Relation.ReflTransGen (Conf.Step I G) c { c with state := s' } := by
  induction h with
  | refl => exact .refl
  | tail _ hi ih => exact ih.tail (.interfere hi)

/-- Where the oracle does what the environment may do, the run it makes is one of the machine's. -/
theorem Conf.reachable_exec {I : σ → σ → Prop} {G : (q : Q) → Except ε (R q) → σ → Prop}
    (hI : ∀ q s, Relation.ReflTransGen I s (O.drift q s))
    (hG : ∀ q s, G q (O.reply q (O.drift q s)) (O.drift q s)) (p : Co σ ε Q R α) (s : σ) :
    ∃ c, Conf.Reachable I G p s c ∧ c.hist = (p.exec O s).1 ∧
      ∀ a, (p.exec O s).2.1 = .ok a → c.point = .done a := by
  suffices hmain : ∀ (p : Co σ ε Q R α) (h : Hist ε Q R) (s₀ s : σ), ∃ c,
      Relation.ReflTransGen (Conf.Step I G)
        ⟨h, s₀, (p.resume s).2, (p.resume s).1, (p.resume s).2⟩ c ∧
      c.hist = h ++ (p.exec O s).1 ∧ ∀ a, (p.exec O s).2.1 = .ok a → c.point = .done a from
    hmain p [] s s
  intro p
  induction p with
  | ret a =>
      intro h s₀ s
      refine ⟨_, .refl, (List.append_nil h).symm, ?_⟩
      rintro _ ⟨⟩
      rfl
  | raise e =>
      intro h s₀ s
      refine ⟨_, .refl, (List.append_nil h).symm, ?_⟩
      rintro _ ⟨⟩
  | act upd k ih => exact fun h s₀ s => ih s h s₀ (upd s)
  | await q k ih =>
      intro h s₀ s
      obtain ⟨c, hc, hhist, hdone⟩ := ih (O.reply q (O.drift q s))
        (h ++ [⟨q, O.reply q (O.drift q s)⟩]) (O.drift q s) (O.drift q s)
      refine ⟨c, ?_, ?_, hdone⟩
      · have hdrift : Relation.ReflTransGen (Conf.Step I G)
            (⟨h, s₀, s, .waiting q k, s⟩ : Conf σ ε Q R α)
            ⟨h, s₀, s, .waiting q k, O.drift q s⟩ :=
          Conf.interferes ⟨h, s₀, s, .waiting q k, s⟩ (hI q s)
        exact (hdrift.tail (.answer (hG q s))).trans hc
      · rw [hhist, List.append_assoc]
        rfl

/-- A run that the oracle brings to a result is one of the machine's. -/
theorem Conf.reachable_done {I : σ → σ → Prop} {G : (q : Q) → Except ε (R q) → σ → Prop}
    (hI : ∀ q s, Relation.ReflTransGen I s (O.drift q s))
    (hG : ∀ q s, G q (O.reply q (O.drift q s)) (O.drift q s)) {p : Co σ ε Q R α} {s : σ}
    (h : (p.exec O s).2.1.isOk = true) :
    ∃ c a, Conf.Reachable I G p s c ∧ c.point = .done a := by
  obtain ⟨c, hc, -, hdone⟩ := Conf.reachable_exec hI hG p s
  cases hr : (p.exec O s).2.1 with
  | error e =>
      rw [hr] at h
      cases h
  | ok a => exact ⟨c, a, hc, hdone a hr⟩

end Exec

/-! ## Any number of coroutines on one state -/

section Pool
variable {σ ε Q : Type} {R : Q → Type} {α : Type} {ι : Type} [DecidableEq ι]

/-- One coroutine of a pool: not started yet, or stopped after the calls in `h`. -/
inductive Thread (σ ε Q : Type) (R : Q → Type) (α : Type) where
  | fresh (p : Co σ ε Q R α)
  | stopped (h : Hist ε Q R) (pt : Point σ ε Q R α)

structure Pool (σ ε Q : Type) (R : Q → Type) (α ι : Type) where
  shared : σ
  threads : ι → Thread σ ε Q R α

/-- Let thread `i` run `p` to its next stop. -/
def Pool.advance (P : Pool σ ε Q R α ι) (i : ι) (h : Hist ε Q R) (p : Co σ ε Q R α) :
    Pool σ ε Q R α ι :=
  ⟨(p.resume P.shared).2, Function.update P.threads i (.stopped h (p.resume P.shared).1)⟩

/-- What happened in a pool step. -/
inductive Pool.Event (ε Q : Type) (R : Q → Type) (ι : Type) where
  | start (i : ι)
  | answer (i : ι) (q : Q) (r : Except ε (R q))

inductive Pool.Step : Pool σ ε Q R α ι → Pool.Event ε Q R ι → Pool σ ε Q R α ι → Prop
  | start {P : Pool σ ε Q R α ι} {i : ι} {p : Co σ ε Q R α} : P.threads i = .fresh p →
      Pool.Step P (.start i) (P.advance i [] p)
  | answer {P : Pool σ ε Q R α ι} {i : ι} {h : Hist ε Q R} {q : Q}
      {k : Except ε (R q) → Co σ ε Q R α} (r : Except ε (R q)) :
      P.threads i = .stopped h (.waiting q k) →
      Pool.Step P (.answer i q r) (P.advance i (h ++ [⟨q, r⟩]) (k r))

variable {C : Hist ε Q R → σ → Q → σ → Prop} {D : Hist ε Q R → σ → α → σ → Prop}
  {X : Hist ε Q R → σ → ε → σ → Prop}

/-- A thread keeps its assertions from whatever state it is next run in. -/
def Thread.Good (C : Hist ε Q R → σ → Q → σ → Prop) (D : Hist ε Q R → σ → α → σ → Prop)
    (X : Hist ε Q R → σ → ε → σ → Prop) : Thread σ ε Q R α → Prop
  | .fresh p => ∀ s, Safe anyEnv C D X [] s p s
  | .stopped h (.waiting q k) => ∀ r s, Safe anyEnv C D X (h ++ [⟨q, r⟩]) s (k r) s
  | .stopped _ _ => True

/-- Every thread is good, for assertions of its own. -/
def Pool.Good (C : ι → Hist ε Q R → σ → Q → σ → Prop) (D : ι → Hist ε Q R → σ → α → σ → Prop)
    (X : ι → Hist ε Q R → σ → ε → σ → Prop) (P : Pool σ ε Q R α ι) : Prop :=
  ∀ i, (P.threads i).Good (C i) (D i) (X i)

theorem Thread.good_of_stopOk {h : Hist ε Q R} {s₀ s : σ} {pt : Point σ ε Q R α}
    (hs : StopOk anyEnv C D X h s₀ pt s) : (Thread.stopped h pt).Good C D X := by
  cases pt with
  | done _ | failed _ => trivial
  | waiting q k => exact fun r s' => hs.2 r s' trivial

section
variable {C : ι → Hist ε Q R → σ → Q → σ → Prop} {D : ι → Hist ε Q R → σ → α → σ → Prop}
  {X : ι → Hist ε Q R → σ → ε → σ → Prop}

/-- What a step of thread `i` did: it ran one segment, after the calls in `h`, from the shared state
before to the one after, and its assertion holds where it stopped. -/
def Pool.Ran (C : ι → Hist ε Q R → σ → Q → σ → Prop) (D : ι → Hist ε Q R → σ → α → σ → Prop)
    (X : ι → Hist ε Q R → σ → ε → σ → Prop) (i : ι) (h : Hist ε Q R)
    (P P' : Pool σ ε Q R α ι) : Prop :=
  ∃ pt, P'.threads = Function.update P.threads i (.stopped h pt) ∧
    StopOk anyEnv (C i) (D i) (X i) h P.shared pt P'.shared

theorem Pool.Good.step_cases {P P' : Pool σ ε Q R α ι} {ev : Pool.Event ε Q R ι}
    (hP : P.Good C D X) (hs : Pool.Step P ev P') :
    (∃ i p, ev = .start i ∧ P.threads i = .fresh p ∧ Pool.Ran C D X i [] P P') ∨
    (∃ i h q k r, ev = .answer i q r ∧ P.threads i = .stopped h (.waiting q k) ∧
      Pool.Ran C D X i (h ++ [⟨q, r⟩]) P P') := by
  cases hs with
  | @start i p hi =>
      have hsafe := hP i
      rw [hi] at hsafe
      exact .inl ⟨i, p, rfl, hi, _, rfl, (hsafe P.shared).resume⟩
  | @answer i h q k r hi =>
      have hsafe := hP i
      rw [hi] at hsafe
      exact .inr ⟨i, h, q, k, r, rfl, hi, _, rfl, (hsafe r P.shared).resume⟩

theorem Pool.Ran.good {P P' : Pool σ ε Q R α ι} {i : ι} {h : Hist ε Q R} (hP : P.Good C D X)
    (hr : Pool.Ran C D X i h P P') : P'.Good C D X := by
  obtain ⟨pt, hthreads, hstop⟩ := hr
  intro j
  rw [hthreads]
  by_cases hj : j = i
  · subst hj
    rw [Function.update_self]
    exact Thread.good_of_stopOk hstop
  · rw [Function.update_of_ne hj]
    exact hP j

/-- A step runs one safe segment, and the pool stays good. -/
theorem Pool.Good.step {P P' : Pool σ ε Q R α ι} {ev : Pool.Event ε Q R ι} (hP : P.Good C D X)
    (hs : Pool.Step P ev P') : P'.Good C D X := by
  rcases hP.step_cases hs with ⟨i, p, _, _, hr⟩ | ⟨i, h, q, k, r, _, _, hr⟩
  · exact hr.good hP
  · exact hr.good hP

end

/-- A run of the pool, with its events oldest first. -/
inductive Pool.Run : Pool σ ε Q R α ι → List (Pool.Event ε Q R ι) → Pool σ ε Q R α ι → Prop
  | refl (P : Pool σ ε Q R α ι) : Pool.Run P [] P
  | snoc {P P' P'' : Pool σ ε Q R α ι} {evs : List (Pool.Event ε Q R ι)}
      {ev : Pool.Event ε Q R ι} : Pool.Run P evs P' → Pool.Step P' ev P'' →
      Pool.Run P (evs ++ [ev]) P''

theorem Pool.good_of_run {C : ι → Hist ε Q R → σ → Q → σ → Prop}
    {D : ι → Hist ε Q R → σ → α → σ → Prop} {X : ι → Hist ε Q R → σ → ε → σ → Prop}
    {P P' : Pool σ ε Q R α ι} {evs : List (Pool.Event ε Q R ι)}
    (hP : P.Good C D X) (hr : Pool.Run P evs P') : P'.Good C D X := by
  induction hr with
  | refl => exact hP
  | snoc _ hs ih => exact ih.step hs

/-- Every thread keeps a frame condition. -/
def Pool.Framed (F : σ → σ → Prop) (P : Pool σ ε Q R α ι) : Prop :=
  P.Good (fun _ _ s₀ _ s => F s₀ s) (fun _ _ s₀ _ s => F s₀ s) (fun _ _ s₀ _ s => F s₀ s)

omit [DecidableEq ι] in
theorem Pool.framed_fresh {F : σ → σ → Prop} (hr : ∀ s, F s s) {p : ι → Co σ ε Q R α}
    (hp : ∀ i, Segments F (p i)) (s : σ) : Pool.Framed F ⟨s, fun i => .fresh (p i)⟩ :=
  fun i s' => hp i anyEnv [] s' s' (hr s')

omit [DecidableEq ι] in
/-- The threads alone are framed, so the state may be changed by others. -/
theorem Pool.Framed.shared {F : σ → σ → Prop} {P : Pool σ ε Q R α ι} (h : P.Framed F) (s : σ) :
    Pool.Framed F { P with shared := s } := h

theorem Pool.Framed.step {F : σ → σ → Prop} {P P' : Pool σ ε Q R α ι} {ev : Pool.Event ε Q R ι}
    (h : P.Framed F) (hs : Pool.Step P ev P') : F P.shared P'.shared ∧ P'.Framed F := by
  have hstop : ∀ {i : ι} {hist : Hist ε Q R}, Pool.Ran (fun _ _ s₀ _ s => F s₀ s)
      (fun _ _ s₀ _ s => F s₀ s) (fun _ _ s₀ _ s => F s₀ s) i hist P P' → F P.shared P'.shared := by
    intro i hist hran
    obtain ⟨pt, -, hok⟩ := hran
    cases pt with
    | done _ | failed _ => exact hok
    | waiting q k => exact hok.1
  refine ⟨?_, Pool.Good.step h hs⟩
  rcases Pool.Good.step_cases h hs with ⟨i, p, _, _, hran⟩ | ⟨i, hist, q, k, r, _, _, hran⟩
  · exact hstop hran
  · exact hstop hran

/-! ### Scheduling by a list -/

/-- Let thread `i` take its next step, its await answered as `f` does; a finished thread stays. -/
def Pool.turn (f : (q : Q) → Except ε (R q)) (P : Pool σ ε Q R α ι) (i : ι) :
    List (Pool.Event ε Q R ι) × Pool σ ε Q R α ι :=
  match P.threads i with
  | .fresh p => ([.start i], P.advance i [] p)
  | .stopped h (.waiting q k) => ([.answer i q (f q)], P.advance i (h ++ [⟨q, f q⟩]) (k (f q)))
  | .stopped _ _ => ([], P)

/-- Let the threads of the list take a step each, in this order. -/
def Pool.turns (f : (q : Q) → Except ε (R q)) :
    Pool σ ε Q R α ι → List ι → List (Pool.Event ε Q R ι) × Pool σ ε Q R α ι
  | P, [] => ([], P)
  | P, i :: is =>
      let (evs, P') := P.turn f i
      let (evs', P'') := P'.turns f is
      (evs ++ evs', P'')

theorem Pool.Run.turn {f : (q : Q) → Except ε (R q)} {P₀ P : Pool σ ε Q R α ι}
    {evs : List (Pool.Event ε Q R ι)} (h : Pool.Run P₀ evs P) (i : ι) :
    Pool.Run P₀ (evs ++ (P.turn f i).1) (P.turn f i).2 := by
  unfold Pool.turn
  cases hi : P.threads i with
  | fresh p => exact h.snoc (.start hi)
  | stopped hist pt =>
      cases pt with
      | done _ | failed _ => simpa using h
      | waiting q k => exact h.snoc (.answer (f q) hi)

theorem Pool.Run.turns {f : (q : Q) → Except ε (R q)} {P₀ : Pool σ ε Q R α ι} (is : List ι) :
    ∀ {P : Pool σ ε Q R α ι} {evs : List (Pool.Event ε Q R ι)}, Pool.Run P₀ evs P →
      Pool.Run P₀ (evs ++ (P.turns f is).1) (P.turns f is).2 := by
  induction is with
  | nil =>
      intro P evs h
      simpa [Pool.turns] using h
  | cons i is ih =>
      intro P evs h
      have := ih (h.turn (f := f) i)
      simpa [Pool.turns] using this

end Pool

end Co

end AegisOs.Lib
