/-
# `AegisOs.Lib.Runs` — a caller that goes on, and restarts it cannot see

A run is a list of calls to an object whose caller goes on after every
exception: `outcomes` are what the calls answer, `final` the state they leave.
Facts about whole runs are inductions on the list, at its head or (an object's
history grows at its end) at its last call.

A script is a run with restarts in it: the object is replaced by one rebuilt
from what it saved.  `replay_eq` is the one rule for "a restart is invisible":
find a relation that

    makes equal calls answer alike and keeps itself    (`Sim.call`)
    holds again after a restart on one side            (`Sim.restart`)

and every script answers as the run of its calls.
-/
import AegisOs.Lib.EState

namespace AegisOs.Lib

open EState

section
variable {ι ε σ α : Type}

/-! ## Runs -/

/-- What the calls answer, one after another. -/
def outcomes (m : ι → EStateM ε σ α) : List ι → σ → List (Except ε α)
  | [], _ => []
  | x :: xs, s => result (m x s) :: outcomes m xs (after (m x s))

/-- The state the calls leave. -/
def final (m : ι → EStateM ε σ α) : List ι → σ → σ
  | [], s => s
  | x :: xs, s => final m xs (after (m x s))

variable (m : ι → EStateM ε σ α)

theorem final_append (xs ys : List ι) (s : σ) :
    final m (xs ++ ys) s = final m ys (final m xs s) := by
  induction xs generalizing s with
  | nil => rfl
  | cons x xs ih => exact ih _

theorem outcomes_append (xs ys : List ι) (s : σ) :
    outcomes m (xs ++ ys) s = outcomes m xs s ++ outcomes m ys (final m xs s) := by
  induction xs generalizing s with
  | nil => rfl
  | cons x xs ih => exact congrArg _ (ih _)

@[simp] theorem length_outcomes (xs : List ι) (s : σ) :
    (outcomes m xs s).length = xs.length := by
  induction xs generalizing s with
  | nil => rfl
  | cons x xs ih => exact congrArg Nat.succ (ih _)

theorem final_snoc (xs : List ι) (x : ι) (s : σ) :
    final m (xs ++ [x]) s = after (m x (final m xs s)) := final_append m xs [x] s

theorem outcomes_snoc (xs : List ι) (x : ι) (s : σ) :
    outcomes m (xs ++ [x]) s = outcomes m xs s ++ [result (m x (final m xs s))] :=
  outcomes_append m xs [x] s

/-- The answer to a call is the one it gets in the state the calls before it leave. -/
theorem outcomes_at (earlier : List ι) (x : ι) (later : List ι) (s : σ) :
    (outcomes m (earlier ++ x :: later) s)[earlier.length]? =
      some (result (m x (final m earlier s))) := by
  rw [outcomes_append, List.getElem?_append_right (by simp)]
  simp [outcomes]

variable {m}

/-! ## Restarts -/

/-- One item of a script. -/
inductive Item (ι : Type) where
  | call (x : ι)
  | restart

/-- The calls of a script. -/
def calls (items : List (Item ι)) : List ι :=
  items.filterMap fun | .call x => some x | .restart => none

/-- Run a script; a restart that fails ends it. -/
def replay (m : ι → EStateM ε σ α) (restart : σ → Except ε σ) :
    List (Item ι) → σ → Except ε (List (Except ε α) × σ)
  | [], s => .ok ([], s)
  | .call x :: items, s =>
      (replay m restart items (after (m x s))).map fun (outs, s') => (result (m x s) :: outs, s')
  | .restart :: items, s => (restart s).bind (replay m restart items)

/-- A relation that calls cannot see and restarts keep. -/
structure Sim (m : ι → EStateM ε σ α) (restart : σ → Except ε σ) (R : σ → σ → Prop) : Prop where
  call : ∀ {s t}, R s t → ∀ x, result (m x t) = result (m x s) ∧ R (after (m x s)) (after (m x t))
  restart : ∀ {s t}, R s t → ∃ t', restart t = .ok t' ∧ R s t'

/-- **Restarts are invisible.** -/
theorem replay_eq {restart : σ → Except ε σ} {R : σ → σ → Prop} (hR : Sim m restart R)
    (items : List (Item ι)) {s t : σ} (h : R s t) :
    ∃ t', replay m restart items t = .ok (outcomes m (calls items) s, t') ∧
      R (final m (calls items) s) t' := by
  induction items generalizing s t with
  | nil => exact ⟨t, rfl, h⟩
  | cons item items ih =>
      cases item with
      | call x =>
          obtain ⟨hres, hx⟩ := hR.call h x
          obtain ⟨t', ht', hf⟩ := ih hx
          refine ⟨t', ?_, hf⟩
          show (replay m restart items (after (m x t))).map _ = _
          rw [ht', hres]
          rfl
      | restart =>
          obtain ⟨t₁, ht₁, h₁⟩ := hR.restart h
          obtain ⟨t', ht', hf⟩ := ih h₁
          refine ⟨t', ?_, hf⟩
          show (restart t).bind _ = _
          rw [ht₁]
          exact ht'

end

end AegisOs.Lib
