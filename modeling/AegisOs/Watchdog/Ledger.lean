/-
# `AegisOs.Watchdog.Ledger` — a session rebuilt from its history

`restore_from_history` overwrites the registry's entry with a new session and
replays the ledger on it.  What it returns is therefore a function of its
arguments: `charged` is one debit on the session alone, `replayed` folds it
over the ledger, and the enforcer's methods are shown to compute exactly these
(`record_tokens_result`, `restore_from_history_result`), whatever the registry
held before.

The last section is the arithmetic: where every operation of the ledger fits
the decimal context, dividing an amount by its tokens and multiplying back
loses nothing, and a ledger with one entry per operation is replayed to the
exact sums.
-/
import AegisOs.Watchdog.BudgetEnforcer
import Mathlib.Algebra.BigOperators.Group.List.Basic

namespace AegisOs.BudgetEnforcer

open Lib Lib.EState

/-! ## Debits on a session alone -/

/-- `record_tokens` under an operation id. -/
def charged (id : Uuid) (s : BudgetSession) (tokens : ℤ) (cost_per_token : ℚ) (op : String) :
    Except Exc BudgetSession :=
  if op ∈ s.applied_operation_ids then .ok s
  else if tokens < 0 then
    .error ⟨.ValueError, "Counters can only be incremented by non-negative amounts."⟩
  else
    let s' := debited { s with tokens_used := s.tokens_used + tokens }
      (Decimal.mul tokens cost_per_token) (some op)
    if s'.budget_limit_usd < s'.cost_usd then
      .error ⟨.BudgetExceededError, exceeded_message id s'⟩
    else .ok s'

/-- One entry of a ledger. -/
def entered (id : Uuid) (s : BudgetSession) (entry : BudgetHistoryEntry) :
    Except Exc BudgetSession :=
  charged id s entry.tokens_used (resolve_cost_per_token entry) entry.operation_id

/-- The loop of `restore_from_history`. -/
def replayed (id : Uuid) (history : List BudgetHistoryEntry) (s : BudgetSession) :
    Except Exc BudgetSession :=
  history.foldlM (entered id) s

theorem is_duplicate_operation_some (s : BudgetSession) (op : String) :
    is_duplicate_operation s (some op) = true ↔ op ∈ s.applied_operation_ids := by
  simp [is_duplicate_operation]

theorem record_tokens_result {e : BudgetEnforcer} {id : Uuid} {s : BudgetSession}
    (h : e.sessions id = some s) (tokens : ℤ) (cost_per_token : ℚ) (op : String) :
    result (record_tokens id tokens cost_per_token (some op) e) =
        charged id s tokens cost_per_token op ∧
      ∀ s', charged id s tokens cost_per_token op = .ok s' →
        (after (record_tokens id tokens cost_per_token (some op) e)).sessions id = some s' := by
  rw [record_tokens_run h]
  unfold charged
  by_cases hdup : op ∈ s.applied_operation_ids
  · rw [if_pos ((is_duplicate_operation_some s op).mpr hdup), if_pos hdup]
    refine ⟨rfl, ?_⟩
    intro s' hs'
    cases hs'
    exact h
  · rw [if_neg (mt (is_duplicate_operation_some s op).mp hdup), if_neg hdup]
    by_cases hneg : tokens < 0
    · rw [if_pos hneg, if_pos hneg]
      refine ⟨rfl, ?_⟩
      intro s' hs'
      cases hs'
    · have hdup' : ¬is_duplicate_operation { s with tokens_used := s.tokens_used + tokens }
          (some op) = true := mt (is_duplicate_operation_some _ op).mp hdup
      rw [if_neg hneg, if_neg hneg, record_spend_run (put_self e id _), if_neg hdup']
      simp only [debited_limit, debited_cost]
      split
      · refine ⟨rfl, ?_⟩
        intro s' hs'
        cases hs'
      · refine ⟨rfl, ?_⟩
        intro s' hs'
        cases hs'
        exact put_self _ _ _

theorem replay_result (id : Uuid) (history : List BudgetHistoryEntry) :
    ∀ {e : BudgetEnforcer} {s : BudgetSession}, e.sessions id = some s →
      (∀ x, replayed id history s = .error x → result (replay id history e) = .error x) ∧
      ∀ s', replayed id history s = .ok s' → result (replay id history e) = .ok () ∧
        (after (replay id history e)).sessions id = some s' := by
  induction history with
  | nil =>
      intro e s h
      constructor
      · intro x hx
        cases hx
      · intro s' hs'
        cases hs'
        exact ⟨rfl, h⟩
  | cons entry history ih =>
      intro e s h
      obtain ⟨hr, ha⟩ := record_tokens_result h entry.tokens_used (resolve_cost_per_token entry)
        entry.operation_id
      have hstep : replayed id (entry :: history) s =
          (entered id s entry).bind (replayed id history) := rfl
      unfold replay
      rw [hstep, result_bind, hr]
      unfold entered
      cases hc : charged id s entry.tokens_used (resolve_cost_per_token entry)
          entry.operation_id with
      | error x =>
          constructor
          · intro x' hx
            cases hx
            rfl
          · intro s' hs'
            cases hs'
      | ok s₁ =>
          obtain ⟨hx, hok⟩ := ih (ha s₁ hc)
          refine ⟨hx, ?_⟩
          intro s' hs'
          rw [after_bind (hr.trans hc)]
          exact hok s' hs'

/-- The session `restore_from_history` starts from. -/
def blank (id : Uuid) (agent_type : String) (limit : ℚ) : BudgetSession :=
  { session_id := id, agent_type := agent_type, budget_limit_usd := limit }

theorem restore_from_history_result (e : BudgetEnforcer) (id : Uuid) (agent_type : String)
    (limit : ℚ) (history : List BudgetHistoryEntry) :
    result (restore_from_history id agent_type limit history e) =
        replayed id history (blank id agent_type limit) ∧
      ∀ s', replayed id history (blank id agent_type limit) = .ok s' →
        (after (restore_from_history id agent_type limit history e)).sessions id = some s' := by
  obtain ⟨hx, hok⟩ := replay_result id history (put_self e id (blank id agent_type limit))
  have hrun : restore_from_history id agent_type limit history e =
      (replay id history >>= fun _ => require_session id)
        (e.put id (blank id agent_type limit)) := rfl
  rw [hrun, result_bind]
  cases hr : replayed id history (blank id agent_type limit) with
  | error x =>
      rw [hx x hr]
      refine ⟨rfl, ?_⟩
      intro s' hs'
      cases hs'
  | ok s =>
      obtain ⟨hres, hs⟩ := hok s hr
      rw [after_bind hres, hres, require_session_run hs]
      refine ⟨rfl, ?_⟩
      intro s' hs'
      cases hs'
      exact hs

/-! ## Exact sums -/

/-- An operation that has been debited: its id, its tokens and its price. -/
structure Spend where
  op : String
  tokens : ℤ
  cost_per_token : ℚ

def Spend.amount (x : Spend) : ℚ := x.tokens * x.cost_per_token

/-- The entry the ledger gets for it. -/
def Spend.entry (x : Spend) : BudgetHistoryEntry := ⟨x.op, x.amount, x.tokens⟩

/-- Every product, quotient and sum of the ledger has at most 28 digits. -/
structure Exact (xs : List Spend) : Prop where
  product : ∀ x ∈ xs, Decimal.Fits x.amount
  quotient : ∀ x ∈ xs, x.tokens ≠ 0 → Decimal.Fits (x.amount / x.tokens)
  sums : ∀ ys, ys <+: xs → Decimal.Fits (ys.map Spend.amount).sum

theorem Exact.of_append {xs ys : List Spend} (h : Exact (xs ++ ys)) : Exact xs where
  product x hx := h.product x (List.mem_append_left _ hx)
  quotient x hx := h.quotient x (List.mem_append_left _ hx)
  sums zs hzs := h.sums zs (hzs.trans (List.prefix_append _ _))

/-- The session holds the sums over `xs`, and knows their ids. -/
structure Holds (s : BudgetSession) (xs : List Spend) : Prop where
  cost : s.cost_usd = (xs.map Spend.amount).sum
  tokens : s.tokens_used = (xs.map Spend.tokens).sum
  ops : s.applied_operation_ids = (xs.map Spend.op).toFinset

theorem blank_holds (id : Uuid) (agent_type : String) (limit : ℚ) :
    Holds (blank id agent_type limit) [] := ⟨rfl, rfl, rfl⟩

/-- The price read back from an entry gives the amount again. -/
theorem mul_resolve_cost_per_token {x : Spend} (hp : Decimal.Fits x.amount)
    (hq : x.tokens ≠ 0 → Decimal.Fits (x.amount / x.tokens)) :
    Decimal.mul x.tokens (resolve_cost_per_token x.entry) = x.amount := by
  unfold resolve_cost_per_token
  by_cases h0 : x.tokens = 0
  · simp [Spend.entry, Spend.amount, h0, Decimal.mul]
  · have hne : (x.tokens : ℚ) ≠ 0 := by exact_mod_cast h0
    have hback : (x.tokens : ℚ) * (x.amount / x.tokens) = x.amount := by
      field_simp
    rw [if_neg (show ¬x.entry.tokens_used = 0 from h0),
      show Decimal.div x.entry.amount_usd x.entry.tokens_used = x.amount / x.tokens from
        Decimal.div_eq (hq h0)]
    rw [Decimal.mul_eq (by rwa [hback]), hback]

/-- A debit under an id the session knows changes nothing. -/
theorem charged_known {id : Uuid} {s s' : BudgetSession} {tokens : ℤ} {c : ℚ} {op : String}
    (hop : op ∈ s.applied_operation_ids) (h : charged id s tokens c op = .ok s') : s' = s := by
  rw [charged, if_pos hop] at h
  cases h
  rfl

/-- A debit under a new id adds its operation to the sums. -/
theorem charged_new {id : Uuid} {s s' : BudgetSession} {xs : List Spend} {x : Spend} {c : ℚ}
    (hs : Holds s xs) (hop : x.op ∉ xs.map Spend.op)
    (hamount : Decimal.mul x.tokens c = x.amount)
    (hfits : Decimal.Fits ((xs ++ [x]).map Spend.amount).sum)
    (h : charged id s x.tokens c x.op = .ok s') : Holds s' (xs ++ [x]) := by
  have hnew : x.op ∉ s.applied_operation_ids := by
    rw [hs.ops, List.mem_toFinset]
    exact hop
  rw [charged, if_neg hnew] at h
  split at h
  · cases h
  · dsimp only at h
    split at h
    · cases h
    · cases h
      have hsum : ((xs ++ [x]).map Spend.amount).sum = s.cost_usd + x.amount := by
        rw [hs.cost, List.map_append, List.sum_append]
        simp
      refine ⟨?_, ?_, ?_⟩
      · rw [debited_cost, hamount, hsum]
        exact Decimal.add_eq (by rwa [← hsum])
      · rw [debited_tokens, List.map_append, List.sum_append, ← hs.tokens]
        simp
      · show insert x.op s.applied_operation_ids = _
        rw [hs.ops, List.map_append, List.toFinset_append]
        ext op
        simp

theorem replayed_append (id : Uuid) (h₁ h₂ : List BudgetHistoryEntry) (s : BudgetSession) :
    replayed id (h₁ ++ h₂) s = (replayed id h₁ s).bind (replayed id h₂) :=
  List.foldlM_append

/-- A ledger with one entry per operation is replayed to the sums over its operations. -/
theorem replayed_holds {id : Uuid} {s₀ : BudgetSession} (h₀ : Holds s₀ []) (xs : List Spend) :
    ∀ {s : BudgetSession}, Exact xs → (xs.map Spend.op).Nodup →
      replayed id (xs.map Spend.entry) s₀ = .ok s → Holds s xs := by
  induction xs using List.reverseRecOn with
  | nil =>
      intro s _ _ h
      cases h
      exact h₀
  | append_singleton xs x ih =>
      intro s hex hnd h
      rw [List.map_append, replayed_append] at h
      rw [List.map_append, List.nodup_append] at hnd
      cases hr : replayed id (xs.map Spend.entry) s₀ with
      | error e =>
          rw [hr] at h
          cases h
      | ok s₁ =>
          rw [hr] at h
          have hx : x ∈ xs ++ [x] := by simp
          have hlast : entered id s₁ x.entry = .ok s := by
            cases he : entered id s₁ x.entry with
            | error e =>
                simp only [Except.bind, replayed, List.map_cons, List.foldlM_cons, he] at h
                cases h
            | ok s₂ =>
                simp only [Except.bind, replayed, List.map_cons, List.foldlM_cons, he] at h
                exact h
          refine charged_new (ih hex.of_append hnd.1 hr) ?_
            (mul_resolve_cost_per_token (hex.product x hx) (hex.quotient x hx))
            (hex.sums _ (List.prefix_refl _)) hlast
          intro hmem
          exact hnd.2.2 _ hmem x.op (by simp) rfl

end AegisOs.BudgetEnforcer
