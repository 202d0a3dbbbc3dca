/-
# `AegisOs.ControlPlane.Workflow` — the durable pipeline

`AgentTaskWorkflow` of `scheduler.py`.  The instance's fields are a record, its
signal handlers update the record, its query reads it, and `run` is a `Co` over
it: workflow code is single-threaded between awaits, and what it awaits is an
activity or the condition of the approval gate.  What Temporal does with an
activity (attempts, timeouts) is not the workflow's business; it sees a result
or an `ActivityError`.

`Signalled` is what may happen to an instance while its code is suspended:
signals with any payload, and the passing of workflow time.
-/
import AegisOs.ControlPlane.Activities

namespace AegisOs

open Lib

/-! ## States and payloads -/

/-- `WorkflowStatus`. -/
inductive WorkflowStatus where
  | PENDING | RUNNING | COMPLETED | FAILED | HUMAN_INTERVENTION_REQUIRED
  deriving DecidableEq

def WorkflowStatus.value : WorkflowStatus → String
  | .PENDING => "pending"
  | .RUNNING => "running"
  | .COMPLETED => "completed"
  | .FAILED => "failed"
  | .HUMAN_INTERVENTION_REQUIRED => "human_intervention_required"

/-- `PendingApprovalState`. -/
inductive PendingApprovalState where
  | NOT_REQUIRED | AWAITING_APPROVAL | APPROVED | DENIED | TIMED_OUT
  deriving DecidableEq

def PendingApprovalState.value : PendingApprovalState → String
  | .NOT_REQUIRED => "not-required"
  | .AWAITING_APPROVAL => "awaiting-approval"
  | .APPROVED => "approved"
  | .DENIED => "denied"
  | .TIMED_OUT => "timed-out"

theorem PendingApprovalState.value_injective :
    Function.Injective PendingApprovalState.value := by
  intro a b h
  cases a <;> cases b <;> first | rfl | simp [PendingApprovalState.value] at h

structure ApprovalSignalPayload where
  approver_id : String
  reason : String
  approved : Bool
  deriving DecidableEq

structure ApprovalStatusSnapshot where
  task_id : String
  session_id : Option String
  agent_type : String
  workflow_status : String
  approval_state : String
  pending_since_epoch_seconds : Option ℚ := none
  deriving DecidableEq

structure WorkflowOutput where
  task_id : String
  content : String
  sanitized_prompt : String
  pii_types : List String
  tokens_used : ℤ
  model : String
  workflow_status : String := "completed"
  approval_state : String := "not-required"
  approver_id : Option String := none
  reason : Option String := none
  budget_spent_usd : Option ℚ := none
  deriving DecidableEq

/-- The instance.  `now` is the runtime's: what `workflow.now()` answers. -/
structure AgentTaskWorkflow where
  task_id : String := ""
  session_id : Option String := none
  agent_type : String := "general"
  workflow_status : String := WorkflowStatus.PENDING.value
  approval_state : PendingApprovalState := .NOT_REQUIRED
  approval_signal : Option ApprovalSignalPayload := none
  pending_since_epoch_seconds : Option ℚ := none
  now : ℚ := 0
  deriving DecidableEq

namespace AgentTaskWorkflow

/-! ## Signals and query -/

/-- The handler of a signal; `approve` and `deny` have the same body. -/
def on_signal (decision : ApprovalSignalPayload) (w : AgentTaskWorkflow) : AgentTaskWorkflow :=
  if w.approval_state = .AWAITING_APPROVAL then { w with approval_signal := some decision } else w

/-- Signal `approve`. -/
def approve (decision : ApprovalSignalPayload) : AgentTaskWorkflow → AgentTaskWorkflow :=
  on_signal decision

/-- Signal `deny`. -/
def deny (decision : ApprovalSignalPayload) : AgentTaskWorkflow → AgentTaskWorkflow :=
  on_signal decision

/-- Query `approval-status`. -/
def approval_status (w : AgentTaskWorkflow) : ApprovalStatusSnapshot where
  task_id := w.task_id
  session_id := w.session_id
  agent_type := w.agent_type
  workflow_status := w.workflow_status
  approval_state := w.approval_state.value
  pending_since_epoch_seconds := w.pending_since_epoch_seconds

/-- What may happen to a suspended instance. -/
inductive Signalled : AgentTaskWorkflow → AgentTaskWorkflow → Prop
  | approve (decision : ApprovalSignalPayload) (w : AgentTaskWorkflow) :
      Signalled w (w.approve decision)
  | deny (decision : ApprovalSignalPayload) (w : AgentTaskWorkflow) :
      Signalled w (w.deny decision)
  | time (t : ℚ) (w : AgentTaskWorkflow) : Signalled w { w with now := t }

end AgentTaskWorkflow

/-! ## What the workflow awaits -/

inductive WorkflowCall (Tok : Type) where
  | PrePIIScrub (inp : WorkflowInput)
  | PolicyEval (inp : PolicyEvalInput)
  | JITTokenIssue (inp : JITTokenInput)
  | BudgetPreCheck (inp : BudgetPreCheckInput)
  | LLMInvoke (inp : LLMInvokeInput Tok)
  | BudgetRecordSpend (inp : BudgetRecordInput)
  | PostSanitize (inp : PostSanitizeInput)
  | WorkflowAudit (inp : WorkflowAuditInput)
  /-- `workflow.wait_condition(lambda: self._approval_signal is not None, timeout)`. -/
  | wait_condition (timeout_seconds : ℤ)

def WorkflowCall.Answer {Tok : Type} : WorkflowCall Tok → Type
  | .PrePIIScrub _ => PrePIIScrubResult
  | .PolicyEval _ => PolicyEvalResult
  | .JITTokenIssue _ => JITTokenResult Tok
  | .BudgetPreCheck _ => BudgetPreCheckResult
  | .LLMInvoke _ => LLMInvokeResult
  | .BudgetRecordSpend _ => BudgetRecordResult
  | .PostSanitize _ => PostSanitizeResult
  | .WorkflowAudit _ => Unit
  | .wait_condition _ => Unit

namespace AgentTaskWorkflow

variable {Tok : Type}

abbrev Flow (Tok : Type) : Type → Type :=
  Co AgentTaskWorkflow Exc (WorkflowCall Tok) WorkflowCall.Answer

/-- `workflow.execute_activity`, and the wait. -/
def execute (q : WorkflowCall Tok) : Flow Tok q.Answer := Co.call q

/-- Update the instance. -/
def set (f : AgentTaskWorkflow → AgentTaskWorkflow) : Flow Tok Unit := Co.lift (modify f)

/-- Read the instance. -/
def self : Flow Tok AgentTaskWorkflow := Co.lift get

/-! ## The approval gate -/

/-- The audit record of a gate event. -/
def gate_event (inp : WorkflowInput) (event : String) (outcome : Outcome) (workflow_status : String)
    (event_type : LifecycleEvent) (details : List (String × Field)) : WorkflowAuditInput where
  event := event
  outcome := outcome
  stage := "pending-approval"
  task_id := inp.task_id
  agent_type := inp.agent_type
  session_id := inp.session_id
  workflow_status := workflow_status
  event_type := some event_type
  details := details

/-- The instance enters the gate. -/
def enter_gate (w : AgentTaskWorkflow) : AgentTaskWorkflow :=
  { w with
    approval_state := .AWAITING_APPROVAL
    workflow_status := WorkflowStatus.HUMAN_INTERVENTION_REQUIRED.value
    pending_since_epoch_seconds := some w.now }

def pending_event (inp : WorkflowInput) : WorkflowAuditInput :=
  gate_event inp "workflow.pending_approval" .allow
    WorkflowStatus.HUMAN_INTERVENTION_REQUIRED.value .PENDING_APPROVAL
    [("projected_spend_usd", .str inp.projected_spend_usd.raw)]

/-- The timer fired first. -/
def time_out (w : AgentTaskWorkflow) : AgentTaskWorkflow :=
  { w with
    approval_state := .TIMED_OUT
    workflow_status := PendingApprovalState.TIMED_OUT.value
    pending_since_epoch_seconds := none }

def timed_out_event (inp : WorkflowInput) : WorkflowAuditInput :=
  gate_event inp "workflow.timed_out" .deny PendingApprovalState.TIMED_OUT.value .DENIED
    [("approver_id", .str "timeout")]

/-- A signal decides. -/
def settle (signal : ApprovalSignalPayload) (w : AgentTaskWorkflow) : AgentTaskWorkflow :=
  { w with
    approval_state := if signal.approved then .APPROVED else .DENIED
    workflow_status :=
      if signal.approved then WorkflowStatus.RUNNING.value else PendingApprovalState.DENIED.value
    pending_since_epoch_seconds := none }

def decision_event (inp : WorkflowInput) (signal : ApprovalSignalPayload) : WorkflowAuditInput :=
  gate_event inp (if signal.approved then "workflow.approved" else "workflow.denied")
    (if signal.approved then .allow else .deny)
    (if signal.approved then WorkflowStatus.RUNNING.value else PendingApprovalState.DENIED.value)
    (if signal.approved then .APPROVED else .DENIED)
    [("approver_id", .str signal.approver_id), ("reason", .str signal.reason)]

/-- The wait; `true` when the timer fired first. -/
def wait_for_signal (inp : WorkflowInput) : Flow Tok Bool :=
  tryCatch (do
    execute (.wait_condition inp.approval_timeout_seconds)
    return false)
    fun e => if e.kind = .TimeoutError then return true else throw e

/-- `_await_pending_approval`. -/
def await_pending_approval (inp : WorkflowInput) : Flow Tok ApprovalSignalPayload := do
  set enter_gate
  execute (.WorkflowAudit (pending_event inp))
  if ← wait_for_signal inp then
    set time_out
    execute (.WorkflowAudit (timed_out_event inp))
    return ⟨"timeout", "Approval timed out", false⟩
  else
    match (← self).approval_signal with
    | none => throw ⟨.AssertionError, []⟩
    | some signal =>
        set (settle signal)
        execute (.WorkflowAudit (decision_event inp signal))
        return signal

/-! ## `run` -/

/-- `Decimal(inp.projected_spend_usd) > Decimal("50.00")`. -/
def exceeds_threshold (inp : WorkflowInput) : Except Exc Bool :=
  match inp.projected_spend_usd.val with
  | some d => d.gt 50
  | none => .error ⟨.InvalidOperation, inp.projected_spend_usd.raw⟩

def begin_run (inp : WorkflowInput) (w : AgentTaskWorkflow) : AgentTaskWorkflow :=
  { w with
    task_id := inp.task_id
    session_id := inp.session_id
    agent_type := inp.agent_type
    workflow_status := WorkflowStatus.RUNNING.value
    pending_since_epoch_seconds := none }

/-- The failures of `LLMInvoke` that end the workflow as they are. -/
def terminal_types : List String := ["PolicyDeniedError", "TokenScopeError", "TokenExpiredError"]

/-- `LLM_RETRY_POLICY.maximum_attempts`. -/
def llm_maximum_attempts : ℕ := 5

/-- The clause `except ActivityError` around `LLMInvoke`. -/
def llm_failed (inp : WorkflowInput) (exc : Exc) : Flow Tok LLMInvokeResult :=
  match exc.kind with
  | .ActivityError cause retry_state => do
      match cause.filter (fun c => c.type ∈ terminal_types) with
      | some cause =>
          set fun w => { w with workflow_status := WorkflowStatus.FAILED.value }
          execute (.WorkflowAudit
            { event := "workflow.failed"
              outcome := .error
              stage := "llm-invoke"
              task_id := inp.task_id
              agent_type := inp.agent_type
              session_id := inp.session_id
              workflow_status := WorkflowStatus.FAILED.value
              event_type := some .FAILED
              details := [("error_type", .str cause.type), ("reason", .text cause.message)] })
          throw ⟨.ApplicationError cause.type cause.nonRetryable, cause.message⟩
      | none =>
          set fun w =>
            { w with workflow_status := WorkflowStatus.HUMAN_INTERVENTION_REQUIRED.value }
          execute (.WorkflowAudit
            { event := "workflow.hitl_required"
              outcome := .error
              stage := "llm-invoke"
              task_id := inp.task_id
              agent_type := inp.agent_type
              session_id := inp.session_id
              workflow_status := WorkflowStatus.HUMAN_INTERVENTION_REQUIRED.value
              details :=
                [("maximum_attempts", .str (toString llm_maximum_attempts)),
                  ("retry_state", .str retry_state)] })
          throw ⟨.HITLEscalationError,
            [.lit "LLMInvoke exhausted ", .int llm_maximum_attempts,
              .lit " attempts for task_id=", .lit inp.task_id, .lit ": "] ++ exc.str⟩
  | _ => throw exc

/-- A failed `LLMInvoke` is recorded with a new status, and raises; another exception passes. -/
theorem llm_failed_cases (Tok : Type) (inp : WorkflowInput) (exc : Exc) :
    (∃ status audit exc', (llm_failed inp exc : Flow Tok _) = do
      set fun w => { w with workflow_status := status }
      execute (.WorkflowAudit audit)
      throw exc') ∨
    (llm_failed inp exc : Flow Tok _) = throw exc := by
  unfold llm_failed
  split
  · split
    · exact .inl ⟨_, _, _, rfl⟩
    · exact .inl ⟨_, _, _, rfl⟩
  · exact .inr rfl

/-- The budget fields, when the input carries both. -/
def budget_fields (inp : WorkflowInput) : Option (Lit Uuid × Lit ℚ) :=
  match inp.budget_session_id, inp.budget_limit_usd with
  | some id, some limit => some (id, limit)
  | _, _ => none

/-- `BudgetPreCheck`; answers what has been spent. -/
def pre_check (inp : WorkflowInput) (history : List BudgetHistoryEntry) : Flow Tok (Option ℚ) :=
  match budget_fields inp with
  | some (id, limit) => do
      let result : BudgetPreCheckResult ← execute (.BudgetPreCheck
        { task_id := inp.task_id
          agent_type := inp.agent_type
          budget_session_id := id
          budget_limit_usd := limit
          history := history })
      return some result.snapshot.cost_usd
  | none => return none

/-- `BudgetRecordSpend`; answers what has been spent, `spent` without a budget. -/
def record_budget (inp : WorkflowInput) (history : List BudgetHistoryEntry) (tokens_used : ℤ)
    (spent : Option ℚ) : Flow Tok (Option ℚ) :=
  match budget_fields inp with
  | some (id, limit) => do
      let result : BudgetRecordResult ← execute (.BudgetRecordSpend
        { task_id := inp.task_id
          agent_type := inp.agent_type
          budget_session_id := id
          budget_limit_usd := limit
          tokens_used := tokens_used
          cost_per_token_usd := inp.cost_per_token_usd
          history := history })
      return some result.snapshot.cost_usd
  | none => return spent

def llm_input (inp : WorkflowInput) (sanitized_prompt : String) (token : JITTokenResult Tok) :
    LLMInvokeInput Tok where
  task_id := inp.task_id
  token := token.token
  sanitized_prompt := sanitized_prompt
  agent_type := inp.agent_type
  requester_id := inp.requester_id
  model := inp.model
  max_tokens := inp.max_tokens
  temperature := inp.temperature
  system_prompt := inp.system_prompt
  protect_outbound_request := inp.protect_outbound_request
  session_id := inp.session_id
  allowed_actions := ["llm:complete"]
  rotation_key := some ("llm:" ++ inp.task_id)
  protected_private_key_pem := token.protected_private_key_pem
  protected_public_jwk := token.protected_public_jwk

/-- What `run` does behind the gate. -/
def after_gate (inp : WorkflowInput) (scrub : PrePIIScrubResult) (policy : PolicyEvalResult)
    (token : JITTokenResult Tok) : Flow Tok WorkflowOutput := do
  -- no run ever starts from a ledger of an earlier one
  let budget_history := []
  let spent ← pre_check inp budget_history
  let llm : LLMInvokeResult ← tryCatch (execute (.LLMInvoke (llm_input inp policy.sanitized_prompt token)))
    (llm_failed inp)
  let spent ← record_budget inp budget_history llm.tokens_used spent
  let post : PostSanitizeResult ← execute (.PostSanitize
    { task_id := inp.task_id
      agent_type := inp.agent_type
      content := llm.content
      tokens_used := llm.tokens_used
      model := llm.model
      provider := llm.provider
      session_id := inp.session_id
      total_retries := llm.retry_count })
  set fun w => { w with workflow_status := WorkflowStatus.COMPLETED.value }
  return {
    task_id := inp.task_id
    content := post.sanitized_content
    sanitized_prompt := policy.sanitized_prompt
    pii_types := merge_types (merge_types scrub.pii_types policy.extra_pii_types)
      post.pii_types
    tokens_used := llm.tokens_used
    model := llm.model
    approval_state := (← self).approval_state.value
    budget_spent_usd := spent }

/-- The output of a run that was not approved. -/
def refused_output (inp : WorkflowInput) (scrub : PrePIIScrubResult) (policy : PolicyEvalResult)
    (decision : ApprovalSignalPayload) (w : AgentTaskWorkflow) : WorkflowOutput where
  task_id := inp.task_id
  content := ""
  sanitized_prompt := policy.sanitized_prompt
  pii_types := scrub.pii_types
  tokens_used := 0
  model := inp.model
  workflow_status := w.workflow_status
  approval_state := w.approval_state.value
  approver_id := some decision.approver_id
  reason := some decision.reason
  budget_spent_usd := none

/-- Stages 1 to 3. -/
def before_gate (inp : WorkflowInput) :
    Flow Tok (PrePIIScrubResult × PolicyEvalResult × JITTokenResult Tok) := do
  set (begin_run inp)
  let scrub : PrePIIScrubResult ← execute (.PrePIIScrub inp)
  let policy : PolicyEvalResult ← execute (.PolicyEval
    { task_id := inp.task_id
      sanitized_prompt := scrub.sanitized_prompt
      agent_type := inp.agent_type
      requester_id := inp.requester_id
      model := inp.model })
  let token : JITTokenResult Tok ← execute (.JITTokenIssue
    { agent_type := inp.agent_type
      requester_id := inp.requester_id
      task_id := inp.task_id
      protect_outbound_request := inp.protect_outbound_request
      session_id := inp.session_id
      allowed_actions := ["llm:complete"]
      rotation_key := some ("llm:" ++ inp.task_id) })
  return (scrub, policy, token)

/-- `AgentTaskWorkflow.run`. -/
def run (inp : WorkflowInput) : Flow Tok WorkflowOutput := do
  let (scrub, policy, token) ← before_gate inp
  if ← Co.lift (MonadExcept.ofExcept (exceeds_threshold inp)) then
    let decision ← await_pending_approval inp
    if decision.approved then after_gate inp scrub policy token
    else return refused_output inp scrub policy decision (← self)
  else after_gate inp scrub policy token

end AgentTaskWorkflow

end AegisOs
