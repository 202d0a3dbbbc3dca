/-
# `AegisOs.Watchdog.BudgetEnforcer` — spend per budget session

`budget_enforcer.py`.  The enforcer is a registry of sessions; every method
works on one of them.  A `BudgetSession` of the source is a mutable object
that the registry and a caller may share; here a method returns the session it
has just written to the registry, which is what a caller sees as long as it
does not hold on to the object across an await, and no caller does.

Amounts are decimals in the 28-digit context (`Lib.Decimal`).  The Prometheus
gauge is written and never read, so it is left out; the token counter is kept
for the one effect it has on the control flow, that `inc` refuses a negative
amount, after `tokens_used` has been changed.  Its values are in
`Watchdog.Metering`.

The `_run` lemmas at the end say what each method does to the one session it
is called for, and that it does nothing to the others.
-/
import AegisOs.Basic
import AegisOs.Lib.Decimal
import Mathlib.Data.Finset.Sort
import Mathlib.Data.String.Basic

namespace AegisOs

open Lib Lib.EState

/-! ## Records -/

structure BudgetSession where
  session_id : Uuid
  agent_type : String
  budget_limit_usd : ℚ
  tokens_used : ℤ := 0
  cost_usd : ℚ := 0
  alerts : List Text := []
  applied_operation_ids : Finset String := ∅
  deriving DecidableEq

/-- `BudgetSessionSnapshot`; a decimal's text is the decimal it denotes. -/
structure BudgetSessionSnapshot where
  session_id : Uuid
  agent_type : String
  budget_limit_usd : ℚ
  tokens_used : ℤ
  cost_usd : ℚ
  alerts : List Text
  applied_operation_ids : List String
  deriving DecidableEq

/-- `BudgetHistoryEntry`. -/
structure BudgetHistoryEntry where
  operation_id : String
  amount_usd : ℚ
  tokens_used : ℤ
  deriving DecidableEq

/-- `BudgetSession.serialize`. -/
def BudgetSession.serialize (s : BudgetSession) : BudgetSessionSnapshot where
  session_id := s.session_id
  agent_type := s.agent_type
  budget_limit_usd := s.budget_limit_usd
  tokens_used := s.tokens_used
  cost_usd := s.cost_usd
  alerts := s.alerts
  applied_operation_ids := s.applied_operation_ids.sort (· ≤ ·)

/-- `BudgetSession.deserialize`. -/
def BudgetSession.deserialize (s : BudgetSessionSnapshot) : BudgetSession where
  session_id := s.session_id
  agent_type := s.agent_type
  budget_limit_usd := s.budget_limit_usd
  tokens_used := s.tokens_used
  cost_usd := s.cost_usd
  alerts := s.alerts
  applied_operation_ids := s.applied_operation_ids.toFinset

theorem BudgetSession.deserialize_serialize (s : BudgetSession) :
    BudgetSession.deserialize s.serialize = s := by
  simp [deserialize, serialize, Finset.sort_toFinset]

/-- `BudgetEnforcer`: the registry, and the events its logger received. -/
structure BudgetEnforcer where
  sessions : Uuid → Option BudgetSession
  audit : List AuditEvent

abbrev BE : Type → Type := EStateM Exc BudgetEnforcer

namespace BudgetEnforcer

/-- `DEFAULT_COST_PER_TOKEN`. -/
def DEFAULT_COST_PER_TOKEN : ℚ := 2 / 1000000

/-! ## Methods -/

/-- `self._sessions[session_id] = session`. -/
def put (e : BudgetEnforcer) (session_id : Uuid) (session : BudgetSession) : BudgetEnforcer :=
  { e with sessions := Function.update e.sessions session_id (some session) }

def log (e : BudgetEnforcer) (event : AuditEvent) : BudgetEnforcer :=
  { e with audit := e.audit ++ [event] }

/-- `_get_session`. -/
def require_session (session_id : Uuid) : BE BudgetSession := do
  match (← get).sessions session_id with
  | some session => return session
  | none => throw ⟨.KeyError,
      [.lit "Budget session ", .lit session_id.text, .lit " not found"]⟩

/-- `_is_duplicate_operation`. -/
def is_duplicate_operation (session : BudgetSession) (operation_id : Option String) : Bool :=
  operation_id.any (fun op => decide (op ∈ session.applied_operation_ids))

/-- `_mark_operation`. -/
def mark_operation (session : BudgetSession) : Option String → BudgetSession
  | some op => { session with applied_operation_ids := insert op session.applied_operation_ids }
  | none => session

/-- The `budget.exceeded` warning of `record_spend` and `check_budget`. -/
def exceeded_event (session_id : Uuid) (session : BudgetSession) : AuditEvent :=
  .warning "budget.exceeded"
    [("session_id", .str session_id.text), ("agent_type", .str session.agent_type),
      ("spent_usd", .text [.dec session.cost_usd]),
      ("limit_usd", .text [.dec session.budget_limit_usd])]

/-- `create_session`; the limit defaults to the configured one. -/
def create_session (settings_limit : ℚ) (session_id : Uuid) (agent_type : String)
    (budget_limit_usd : Option ℚ) : BE BudgetSession := do
  let limit := budget_limit_usd.getD settings_limit
  let session : BudgetSession :=
    { session_id := session_id, agent_type := agent_type, budget_limit_usd := limit }
  modify fun e => (e.put session_id session).log (.info "budget.session_created"
    [("session_id", .str session_id.text), ("agent_type", .str agent_type),
      ("budget_limit_usd", .text [.dec limit])])
  return session

/-- The message of `record_spend` on a breach. -/
def exceeded_message (session_id : Uuid) (session : BudgetSession) : Text :=
  [.lit "Session ", .lit session_id.text, .lit " exceeded budget ($", .dec session.cost_usd,
    .lit " > $", .dec session.budget_limit_usd, .lit ")"]

/-- The session after a debit. -/
def debited (session : BudgetSession) (amount_usd : ℚ) (operation_id : Option String) :
    BudgetSession :=
  mark_operation { session with cost_usd := Decimal.add session.cost_usd amount_usd } operation_id

/-- A breach: `session.alerts.append(msg)` and the warning. -/
def breached (e : BudgetEnforcer) (session_id : Uuid) (session : BudgetSession) : BudgetEnforcer :=
  (e.put session_id
    { session with alerts := session.alerts ++ [exceeded_message session_id session] }).log
      (exceeded_event session_id session)

/-- `record_spend`: the debit stays even where it raises. -/
def record_spend (session_id : Uuid) (amount_usd : ℚ) (operation_id : Option String) :
    BE BudgetSession := do
  let session ← require_session session_id
  if is_duplicate_operation session operation_id then return session
  let session := debited session amount_usd operation_id
  modify (·.put session_id session)
  if session.budget_limit_usd < session.cost_usd then
    modify (·.breached session_id session)
    throw ⟨.BudgetExceededError, exceeded_message session_id session⟩
  return session

/-- `check_budget`. -/
def check_budget (session_id : Uuid) : BE Unit := do
  let session ← require_session session_id
  if session.budget_limit_usd ≤ session.cost_usd then
    modify (·.log (exceeded_event session_id session))
    throw ⟨.BudgetExceededError,
      [.lit "Session ", .lit session_id.text, .lit " budget already exhausted ($",
        .dec session.cost_usd, .lit " >= $", .dec session.budget_limit_usd, .lit ")"]⟩

/-- `record_tokens`. -/
def record_tokens (session_id : Uuid) (tokens : ℤ) (cost_per_token : ℚ)
    (operation_id : Option String) : BE BudgetSession := do
  let session ← require_session session_id
  if is_duplicate_operation session operation_id then return session
  modify (·.put session_id { session with tokens_used := session.tokens_used + tokens })
  -- `Counter.inc`
  if tokens < 0 then
    throw ⟨.ValueError, "Counters can only be incremented by non-negative amounts."⟩
  record_spend session_id (Decimal.mul tokens cost_per_token) operation_id

/-- `restore_session`. -/
def restore_session (snapshot : BudgetSessionSnapshot) : BE BudgetSession := do
  let session := BudgetSession.deserialize snapshot
  modify (·.put session.session_id session)
  return session

/-- `_resolve_cost_per_token`. -/
def resolve_cost_per_token (entry : BudgetHistoryEntry) : ℚ :=
  if entry.tokens_used = 0 then 0 else Decimal.div entry.amount_usd entry.tokens_used

/-- The loop of `restore_from_history`. -/
def replay (session_id : Uuid) : List BudgetHistoryEntry → BE Unit
  | [] => pure ()
  | entry :: history => do
      let _ ← record_tokens session_id entry.tokens_used (resolve_cost_per_token entry)
        (some entry.operation_id)
      replay session_id history

/-- `restore_from_history`. -/
def restore_from_history (session_id : Uuid) (agent_type : String) (budget_limit_usd : ℚ)
    (history : List BudgetHistoryEntry) : BE BudgetSession := do
  modify (·.put session_id
    { session_id := session_id, agent_type := agent_type, budget_limit_usd := budget_limit_usd })
  replay session_id history
  -- the object the loop has been debiting
  require_session session_id

/-- `get_session`. -/
def get_session (session_id : Uuid) : BE (Option BudgetSession) := do
  return (← get).sessions session_id

/-! ## What the methods do to their session -/

@[simp] theorem put_self (e : BudgetEnforcer) (id : Uuid) (s : BudgetSession) :
    (e.put id s).sessions id = some s := by
  simp [put]

@[simp] theorem put_other (e : BudgetEnforcer) {id id' : Uuid} (h : id' ≠ id) (s : BudgetSession) :
    (e.put id s).sessions id' = e.sessions id' := by
  simp [put, h]

theorem put_put (e : BudgetEnforcer) (id : Uuid) (s s' : BudgetSession) :
    (e.put id s).put id s' = e.put id s' := by
  simp [put]

theorem require_session_run {e : BudgetEnforcer} {id : Uuid} {s : BudgetSession}
    (h : e.sessions id = some s) : require_session id e = .ok s e := by
  unfold require_session
  rw [bind_ok (get_run e), h]
  rfl

theorem require_session_none {e : BudgetEnforcer} {id : Uuid} (h : e.sessions id = none) :
    ∃ x, require_session id e = .error x e ∧ x.kind = .KeyError := by
  unfold require_session
  rw [bind_ok (get_run e), h]
  exact ⟨_, rfl, rfl⟩

@[simp] theorem mark_operation_cost (s : BudgetSession) (op : Option String) :
    (mark_operation s op).cost_usd = s.cost_usd := by
  cases op <;> rfl

@[simp] theorem mark_operation_limit (s : BudgetSession) (op : Option String) :
    (mark_operation s op).budget_limit_usd = s.budget_limit_usd := by
  cases op <;> rfl

@[simp] theorem mark_operation_tokens (s : BudgetSession) (op : Option String) :
    (mark_operation s op).tokens_used = s.tokens_used := by
  cases op <;> rfl

@[simp] theorem debited_cost (s : BudgetSession) (amount : ℚ) (op : Option String) :
    (debited s amount op).cost_usd = Decimal.add s.cost_usd amount := by
  simp [debited]

@[simp] theorem debited_limit (s : BudgetSession) (amount : ℚ) (op : Option String) :
    (debited s amount op).budget_limit_usd = s.budget_limit_usd := by
  simp [debited]

@[simp] theorem debited_tokens (s : BudgetSession) (amount : ℚ) (op : Option String) :
    (debited s amount op).tokens_used = s.tokens_used := by
  simp [debited]

theorem breached_put (e : BudgetEnforcer) (id : Uuid) (s s' : BudgetSession) :
    (e.put id s).breached id s' = e.breached id s' := by
  simp [breached, put_put]

theorem record_spend_run {e : BudgetEnforcer} {id : Uuid} {s : BudgetSession}
    (h : e.sessions id = some s) (amount : ℚ) (op : Option String) :
    record_spend id amount op e =
      if is_duplicate_operation s op then .ok s e
      else if s.budget_limit_usd < Decimal.add s.cost_usd amount then
        .error ⟨.BudgetExceededError, exceeded_message id (debited s amount op)⟩
          (e.breached id (debited s amount op))
      else .ok (debited s amount op) (e.put id (debited s amount op)) := by
  unfold record_spend
  rw [bind_ok (require_session_run h), ← debited_limit s amount op, ← debited_cost s amount op]
  generalize debited s amount op = s'
  split
  · rfl
  · refine (bind_ok (modify_run _ e)).trans ?_
    split
    · refine (bind_ok (modify_run _ _)).trans ?_
      rw [breached_put]
      rfl
    · rfl

theorem record_tokens_run {e : BudgetEnforcer} {id : Uuid} {s : BudgetSession}
    (h : e.sessions id = some s) (tokens : ℤ) (cost_per_token : ℚ) (op : Option String) :
    record_tokens id tokens cost_per_token op e =
      if is_duplicate_operation s op then .ok s e
      else if tokens < 0 then
        .error ⟨.ValueError, "Counters can only be incremented by non-negative amounts."⟩
          (e.put id { s with tokens_used := s.tokens_used + tokens })
      else record_spend id (Decimal.mul tokens cost_per_token) op
        (e.put id { s with tokens_used := s.tokens_used + tokens }) := by
  unfold record_tokens
  rw [bind_ok (require_session_run h)]
  by_cases hd : is_duplicate_operation s op = true
  · rw [if_pos hd, if_pos hd]
    rfl
  · rw [if_neg hd, if_neg hd]
    by_cases hn : tokens < 0
    · rw [if_pos hn, if_pos hn]
      rfl
    · rw [if_neg hn, if_neg hn]
      rfl

theorem check_budget_run {e : BudgetEnforcer} {id : Uuid} {s : BudgetSession}
    (h : e.sessions id = some s) :
    (s.cost_usd < s.budget_limit_usd → check_budget id e = .ok () e) ∧
    (s.budget_limit_usd ≤ s.cost_usd → ∃ msg, check_budget id e =
      .error ⟨.BudgetExceededError, msg⟩ (e.log (exceeded_event id s))) := by
  unfold check_budget
  rw [bind_ok (require_session_run h)]
  constructor
  · intro hlt
    rw [if_neg (not_le.mpr hlt)]
    rfl
  · intro hle
    rw [if_pos hle]
    exact ⟨_, rfl⟩

end BudgetEnforcer

end AegisOs
