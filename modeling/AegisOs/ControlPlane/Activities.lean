/-
# `AegisOs.ControlPlane.Activities` — the activities of the durable pipeline

`AegisActivities` and `WorkflowAuditActivities` of `scheduler.py`.  An activity
execution is a `Co` over the world of the worker it runs on, with the same two
awaits as the orchestrator; all other activities run without suspending, so
they are synchronous code.  `ActivityInfo` is what `activity.info()` tells.

Spans, and the trace parent that only they read, are left out.
-/
import AegisOs.ControlPlane.Orchestrator

namespace AegisOs

open Lib

/-! ## Inputs and outputs -/

structure WorkflowInput where
  task_id : String
  prompt : String
  agent_type : String
  requester_id : String
  model : String := "gpt-4o-mini"
  max_tokens : ℤ := 1024
  temperature : ℚ := 7 / 10
  system_prompt : String := ""
  protect_outbound_request : Bool := false
  session_id : Option String := none
  budget_session_id : Option (Lit Uuid) := none
  budget_limit_usd : Option (Lit ℚ) := none
  cost_per_token_usd : Lit ℚ := ⟨"0.000002", some (2 / 1000000)⟩
  loop_session_id : Option (Lit Uuid) := none
  loop_signal : LoopSignal := .NO_PROGRESS
  loop_token_delta : Option ℤ := none
  loop_max_agent_steps : Option ℤ := none
  loop_max_token_velocity : Option ℤ := none
  projected_spend_usd : Lit Dec := ⟨"0.00", some (.fin 0)⟩
  approval_timeout_seconds : ℤ := 86400

structure PrePIIScrubResult where
  sanitized_prompt : String
  pii_types : List String

structure PolicyEvalInput where
  task_id : String
  sanitized_prompt : String
  agent_type : String
  requester_id : String
  model : String

structure PolicyEvalResult where
  allowed : Bool
  action : String
  fields : List String
  sanitized_prompt : String
  extra_pii_types : List String

structure JITTokenInput where
  agent_type : String
  requester_id : String
  task_id : String
  protect_outbound_request : Bool := false
  session_id : Option String := none
  allowed_actions : List String := ["llm:complete"]
  role : Option String := none
  rotation_key : Option String := none

structure JITTokenResult (Tok : Type) where
  token : Tok
  jti : String
  protected_private_key_pem : Option String := none
  protected_public_jwk : Option Jwk := none

structure LLMInvokeInput (Tok : Type) where
  task_id : String
  token : Tok
  sanitized_prompt : String
  agent_type : String
  requester_id : String
  model : String
  max_tokens : ℤ
  temperature : ℚ
  system_prompt : String
  protect_outbound_request : Bool := false
  session_id : Option String := none
  allowed_actions : List String := ["llm:complete"]
  role : Option String := none
  rotation_key : Option String := none
  protected_private_key_pem : Option String := none
  protected_public_jwk : Option Jwk := none

structure LLMInvokeResult where
  content : String
  tokens_used : ℤ
  model : String
  provider : String
  retry_count : ℤ := 0

structure PostSanitizeInput where
  task_id : String
  agent_type : String
  content : String
  tokens_used : ℤ
  model : String
  provider : String
  session_id : Option String := none
  total_retries : ℤ := 0

structure PostSanitizeResult where
  sanitized_content : String
  pii_types : List String

structure WorkflowAuditInput where
  event : String
  outcome : Outcome
  stage : String
  task_id : String
  agent_type : String
  session_id : Option String := none
  workflow_status : String := "running"
  event_type : Option LifecycleEvent := none
  details : List (String × Field) := []
  deriving DecidableEq

structure BudgetPreCheckInput where
  task_id : String
  agent_type : String
  budget_session_id : Lit Uuid
  budget_limit_usd : Lit ℚ
  history : List BudgetHistoryEntry := []

structure BudgetPreCheckResult where
  snapshot : BudgetSessionSnapshot

structure BudgetRecordInput where
  task_id : String
  agent_type : String
  budget_session_id : Lit Uuid
  budget_limit_usd : Lit ℚ
  tokens_used : ℤ
  cost_per_token_usd : Lit ℚ
  history : List BudgetHistoryEntry := []

structure BudgetRecordResult where
  snapshot : BudgetSessionSnapshot
  history : List BudgetHistoryEntry
  deriving DecidableEq

structure LoopRecordInput where
  task_id : String
  agent_type : String
  loop_session_id : Lit Uuid
  token_delta : ℤ
  signal : LoopSignal := .NO_PROGRESS
  description : String := ""
  checkpoint : Option ExecutionCheckpoint := none
  max_agent_steps : Option ℤ := none
  max_token_velocity : Option ℤ := none

structure LoopRecordResult where
  checkpoint : ExecutionCheckpoint
  step_count : ℕ
  total_tokens : ℤ
  loop_detected : Bool
  intervention_required : Bool

/-- The fields of `activity.info()` the activities read. -/
structure ActivityInfo where
  workflow_id : Option String
  activity_id : String
  attempt : ℕ

/-- `AegisActivities`: the injected collaborators. -/
structure AegisActivities (Tok : Type) where
  env : Env Tok
  guardrails : Guardrails
  adapter : Adapter Tok

namespace AegisActivities

variable {Tok : Type}

/-- `_require_task_id`. -/
def require_task_id (task_id stage agent_type : String) : WM Tok String := do
  if task_id = "" then
    log (.error "audit.propagation_error"
      [("stage", .str stage), ("task_id", .str "missing-task-id"), ("agent_type", .str agent_type),
        ("error_message", .str "Temporal activity input is missing task_id")])
    throw ⟨.MissingTaskIdError,
      [.lit "Temporal activity input for stage ", .repr stage, .lit " is missing task_id"]⟩
  return task_id

section
variable (A : AegisActivities Tok)

/-! ## Guardrails and policy -/

/-- `PrePIIScrub`. -/
def pre_pii_scrub (inp : WorkflowInput) : WM Tok PrePIIScrubResult := do
  let task_id ← require_task_id inp.task_id "pre-pii-scrub" inp.agent_type
  log (.lifecycle_event "workflow.started" .STARTED task_id inp.agent_type inp.session_id "running"
    "workflow-lifecycle" [])
  guard (A.guardrails.check_prompt_injection inp.prompt)
  let mask_result ← guard (A.guardrails.mask_pii inp.prompt)
  log (.stage_event "guardrails.pre_sanitize" (mask_outcome mask_result.found_types)
    "pre-pii-scrub" task_id inp.agent_type [("pii_types", .strs mask_result.found_types)])
  return ⟨mask_result.text, mask_result.found_types⟩

/-- The loop over `result.fields`: text and labels, in the order found. -/
def mask_fields (g : Guardrails) : List String → String × List String → WM Tok (String × List String)
  | [], m => pure m
  | fld :: fields, (text, extra) =>
      if fld = "prompt" then do
        let mask_result ← guard (g.scrub text)
        mask_fields g fields (mask_result.text, extra ++ mask_result.found_types)
      else mask_fields g fields (text, extra)

/-- What `PolicyEval` does with a policy engine that is down. -/
def opa_unavailable (task_id agent_type : String) (e : Exc) : WM Tok PolicyResult := do
  if e.kind = .OpaUnavailableError then
    log (.stage_event "policy.opa_unavailable" .error "policy-eval" task_id agent_type
      [("error_message", .text e.str)])
    throw ⟨.ApplicationError "PolicyDeniedError" true,
      "OPA unavailable – request denied (fail-closed)"⟩
  throw e

/-- What `PolicyEval` does with an answer. -/
def policy_decision (inp : PolicyEvalInput) (task_id : String) (result : PolicyResult) :
    WM Tok PolicyEvalResult := do
  if ¬result.allowed ∨ result.action = "reject" then
    log (.stage_event "policy.denied" .deny "policy-eval" task_id inp.agent_type
      [("reasons", .strs result.reasons)])
    throw ⟨.ApplicationError "PolicyDeniedError" true,
      [.lit "OPA denied request for agent_type=", .repr inp.agent_type, .lit ": ",
        .reprs result.reasons]⟩
  log (.stage_event "policy.allowed" .allow "policy-eval" task_id inp.agent_type [])
  let (sanitized_prompt, extra_pii_types) ←
    if result.action = "mask" then do
      let m ← mask_fields A.guardrails result.fields (inp.sanitized_prompt, [])
      log (.stage_event "policy.mask_applied" .redact "policy-eval" task_id inp.agent_type
        [("fields", .strs result.fields)])
      pure m
    else pure (inp.sanitized_prompt, [])
  return ⟨result.allowed, result.action, result.fields, sanitized_prompt, extra_pii_types⟩

/-- `PolicyEval`. -/
def policy_eval (inp : PolicyEvalInput) : Orchestrator.Run Tok PolicyEvalResult := do
  let task_id ← Co.lift (require_task_id inp.task_id "policy-eval" inp.agent_type)
  let result ← tryCatch
    (Orchestrator.evaluate "agent_access"
      { agent_type := inp.agent_type
        requester_id := inp.requester_id
        action := "llm.complete"
        resource := "model:" ++ inp.model })
    fun e => Co.lift (opa_unavailable task_id inp.agent_type e)
  Co.lift (policy_decision A inp task_id result)

/-! ## Budget -/

/-- `_restore_budget_session`. -/
def restore_budget_session (budget_session_id : Lit Uuid) (agent_type : String)
    (budget_limit_usd : Lit ℚ) (history : List BudgetHistoryEntry) :
    WM Tok (Uuid × BudgetSession) := do
  let session_id ← budget_session_id.read .ValueError
  let limit ← budget_limit_usd.read .InvalidOperation
  let restored ← on_budget (BudgetEnforcer.restore_from_history session_id agent_type limit history)
  return (session_id, restored)

/-- The clause that turns `BudgetExceededError` into a non-retryable failure. -/
def budget_refused {α : Type} (event stage : String) (task_id agent_type : String)
    (budget_session_id : Lit Uuid) (e : Exc) : Option (WM Tok α) :=
  if e.kind = .BudgetExceededError then some (do
    log (.stage_event event .deny stage task_id agent_type
      [("budget_session_id", .str budget_session_id.raw), ("error_message", .text e.str)])
    throw ⟨.ApplicationError "BudgetExceededError" true, e.str⟩)
  else none

/-- `BudgetPreCheck`. -/
def budget_pre_check (inp : BudgetPreCheckInput) : WM Tok BudgetPreCheckResult := do
  let task_id ← require_task_id inp.task_id "watchdog.pre-llm" inp.agent_type
  catching
    (do
      let (session_id, restored) ← restore_budget_session inp.budget_session_id inp.agent_type
        inp.budget_limit_usd inp.history
      on_budget (BudgetEnforcer.check_budget session_id)
      log (.stage_event "budget.pre_check" .allow "watchdog.pre-llm" task_id inp.agent_type
        [("budget_session_id", .str inp.budget_session_id.raw),
          ("spent_usd", .text [.dec restored.cost_usd])])
      return ⟨restored.serialize⟩)
    (budget_refused "budget.exceeded" "watchdog.pre-llm" task_id inp.agent_type
      inp.budget_session_id)

/-- The idempotency key of an execution. -/
def operation_id (info : ActivityInfo) : String :=
  match info.workflow_id with
  | some workflow_id => workflow_id ++ ":" ++ info.activity_id
  | none => info.activity_id

/-- `BudgetRecordSpend`. -/
def budget_record_spend (info : ActivityInfo) (inp : BudgetRecordInput) :
    WM Tok BudgetRecordResult := do
  let task_id ← require_task_id inp.task_id "watchdog.record-spend" inp.agent_type
  catching
    (do
      let op := operation_id info
      let (session_id, restored) ← restore_budget_session inp.budget_session_id inp.agent_type
        inp.budget_limit_usd inp.history
      let existing_operations := restored.applied_operation_ids
      let cost_per_token ← inp.cost_per_token_usd.read .InvalidOperation
      let session ← on_budget
        (BudgetEnforcer.record_tokens session_id inp.tokens_used cost_per_token (some op))
      let history :=
        if op ∈ existing_operations then inp.history
        else inp.history ++ [⟨op, Decimal.mul cost_per_token inp.tokens_used, inp.tokens_used⟩]
      log (.stage_event "budget.spend_recorded" .allow "watchdog.record-spend" task_id
        inp.agent_type
        [("budget_session_id", .str inp.budget_session_id.raw),
          ("spent_usd", .text [.dec session.cost_usd])])
      return ⟨session.serialize, history⟩)
    (budget_refused "budget.exceeded_on_record" "watchdog.record-spend" task_id inp.agent_type
      inp.budget_session_id)

/-! ## Loop detection -/

/-- The three trips, with the event each is recorded under. -/
def loop_trip : ExcKind → Option (String × String)
  | .LoopDetectedError => some ("loop.halted", "LoopDetectedError")
  | .TokenVelocityError => some ("loop.velocity_exceeded", "TokenVelocityError")
  | .PendingApprovalError => some ("loop.pending_approval", "PendingApprovalError")
  | _ => none

/-- `LoopRecordStep`: a detector of its own per execution, on the activities' logger. -/
def loop_record_step (inp : LoopRecordInput) : WM Tok LoopRecordResult := do
  let task_id ← require_task_id inp.task_id "watchdog.loop-detect" inp.agent_type
  let loop_session_id ← inp.loop_session_id.read .ValueError
  let detector := LoopDetector.init A.env.settings inp.max_agent_steps inp.max_token_velocity
    (← get).audit
  let body : LD ExecutionContext := do
    match inp.checkpoint with
    | none => let _ ← LoopDetector.create_context loop_session_id inp.agent_type
    | some checkpoint => let _ ← LoopDetector.restore checkpoint
    LoopDetector.record_step loop_session_id inp.token_delta inp.signal inp.description
  match body detector with
  | .ok ctx detector => do
      modify fun w => { w with audit := detector.audit }
      log (.stage_event "loop.step_recorded" .allow "watchdog.loop-detect" task_id inp.agent_type
        [("step", .str (toString ctx.steps.length)), ("signal", .str inp.signal.value)])
      let checkpoint ← MonadExcept.ofExcept
        (EState.result (LoopDetector.checkpoint loop_session_id detector))
      return ⟨checkpoint, ctx.steps.length, ctx.total_tokens, ctx.loop_detected,
        ctx.intervention_required⟩
  | .error e detector => do
      modify fun w => { w with audit := detector.audit }
      match loop_trip e.kind with
      | some (event, type) =>
          let ctx := detector.contexts loop_session_id
          log (.stage_event event .deny "watchdog.loop-detect" task_id inp.agent_type
            [("error_message", .text e.str)])
          throw ⟨.ApplicationError type true,
            e.str ++ [.lit " [step_count=", .int (ctx.elim 0 fun c => c.steps.length),
              .lit " total_tokens=", .int (ctx.elim 0 fun c => c.total_tokens), .lit "]"]⟩
      | none => throw e

/-! ## Tokens and the adapter -/

/-- `JITTokenIssue`. -/
def jit_token_issue (inp : JITTokenInput) : WM Tok (JITTokenResult Tok) := do
  let task_id ← require_task_id inp.task_id "jit-token-issue" inp.agent_type
  let keys ←
    if inp.protect_outbound_request then do
      let keys ← on_session_mgr generate_dpop_key_pair
      pure (some keys)
    else pure none
  let token ← on_session_mgr (issue_token A.env
    { agent_type := inp.agent_type
      requester_id := inp.requester_id
      session_id := inp.session_id
      allowed_actions := inp.allowed_actions
      role := inp.role
      rotation_key := inp.rotation_key })
  let claims ← on_session_mgr (validate_token A.env token)
  log (.stage_event "token.issued" .allow "jit-token-issue" task_id inp.agent_type
    [("jti", .str claims.jti)])
  return ⟨token, claims.jti, keys.map (·.1), keys.map (·.2)⟩

/-- The token of a retry: a new one, under the same rotation key. -/
def reissue_token (info : ActivityInfo) (inp : LLMInvokeInput Tok) (task_id : String) :
    WM Tok Tok := do
  let token ← on_session_mgr (issue_token A.env
    { agent_type := inp.agent_type
      requester_id := inp.requester_id
      session_id := inp.session_id
      allowed_actions := inp.allowed_actions
      role := inp.role
      rotation_key := inp.rotation_key })
  let claims ← on_session_mgr (validate_token A.env token)
  log (.stage_event "token.reissued" .allow "jit-token-issue" task_id inp.agent_type
    [("attempt", .int info.attempt), ("jti", .str claims.jti)])
  log (.stage_event "llm.retried" .retried "llm-invoke" task_id inp.agent_type
    [("attempt", .int info.attempt)])
  log (.lifecycle_event "llm.retried" .RETRIED task_id inp.agent_type inp.session_id "running"
    "llm-invoke" [("retry_count", .int (info.attempt - 1))])
  return token

/-- The request an execution sends, but for its credentials. -/
def llm_request (inp : LLMInvokeInput Tok) (token : Tok) (dpop_proof : Option Tok) :
    LLMRequest Tok where
  prompt := inp.sanitized_prompt
  model := inp.model
  max_tokens := inp.max_tokens
  temperature := inp.temperature
  system_prompt := inp.system_prompt
  aegis_token := token
  aegis_dpop_proof := dpop_proof

/-- The protected part: a token bound to the task's key, and a proof by that key. -/
def protect_outbound (inp : LLMInvokeInput Tok) (task_id : String) (token : Tok) :
    WM Tok (Tok × Option Tok) := do
  match inp.protected_private_key_pem, inp.protected_public_jwk with
  | some private_key_pem, some public_jwk =>
      match A.adapter.outbound_request_binding (llm_request inp token none) with
      | none => throw ⟨.ValueError,
          [.lit "Adapter ", .repr A.adapter.provider_name,
            .lit " does not expose an outbound request binding for protected flows"]⟩
      | some (http_method, http_url) =>
          let adapter_token ← on_session_mgr (issue_sender_constrained_token A.env public_jwk
            { agent_type := inp.agent_type
              requester_id := inp.requester_id
              task_id := some task_id
              session_id := inp.session_id
              allowed_actions := ["llm.invoke"]
              role := inp.role
              rotation_key := some ("scheduler-adapter:" ++ task_id) })
          let dpop_proof ← on_session_mgr (issue_dpop_proof A.env private_key_pem public_jwk
            http_method http_url (some adapter_token) none)
          let adapter_claims ← on_session_mgr (validate_token A.env adapter_token)
          log (.stage_event "token.sender_constrained_issued" .allow "jit-token-issue" task_id
            inp.agent_type [("jti", .str adapter_claims.jti)])
          return (adapter_token, some dpop_proof)
  | _, _ => throw ⟨.ValueError,
      "Protected outbound requests require DPoP key material from JITTokenIssue"⟩

/-- The credentials an execution of `LLMInvoke` presents. -/
def llm_credentials (info : ActivityInfo) (inp : LLMInvokeInput Tok) (task_id : String) :
    WM Tok (Tok × Option Tok) := do
  let token ← if 1 < info.attempt then reissue_token A info inp task_id else pure inp.token
  if inp.protect_outbound_request then protect_outbound A inp task_id token
  else return (token, none)

/-- `LLMInvoke`. -/
def llm_invoke (info : ActivityInfo) (inp : LLMInvokeInput Tok) :
    Orchestrator.Run Tok LLMInvokeResult := do
  let task_id ← Co.lift (require_task_id inp.task_id "llm-invoke" inp.agent_type)
  let (adapter_token, dpop_proof) ← Co.lift (llm_credentials A info inp task_id)
  let response ← Orchestrator.complete (llm_request inp adapter_token dpop_proof)
  Co.lift (log (.stage_event "llm.completed" .allow "llm-invoke" task_id inp.agent_type
    [("model", .str response.model), ("tokens_used", .int response.tokens_used)]))
  return ⟨response.content, response.tokens_used, response.model, response.provider,
    info.attempt - 1⟩

/-- `PostSanitize`. -/
def post_sanitize (inp : PostSanitizeInput) : WM Tok PostSanitizeResult := do
  let task_id ← require_task_id inp.task_id "post-sanitize" inp.agent_type
  let mask_result ← guard (A.guardrails.mask_pii inp.content)
  log (.stage_event "guardrails.post_sanitize" (mask_outcome mask_result.found_types)
    "post-sanitize" task_id inp.agent_type [("pii_types", .strs mask_result.found_types)])
  log (.lifecycle_event "workflow.completed" .COMPLETED task_id inp.agent_type inp.session_id
    "completed" "workflow-lifecycle" [("total_retries", .int inp.total_retries)])
  return ⟨mask_result.text, mask_result.found_types⟩

end

/-- `WorkflowAudit`: a lifecycle event, or a plain one at the level of its outcome. -/
def record_event (inp : WorkflowAuditInput) : WM Tok Unit :=
  let fields : List (String × Field) :=
    [("task_id", .str inp.task_id), ("agent_type", .str inp.agent_type)] ++ inp.details
  match inp.event_type with
  | some event_type =>
      log (.lifecycle_event inp.event event_type inp.task_id inp.agent_type inp.session_id
        inp.workflow_status inp.stage inp.details)
  | none =>
      match inp.outcome with
      | .deny => log (.warning inp.event fields)
      | .error => log (.error inp.event fields)
      | _ => log (.info inp.event fields)

end AegisActivities

end AegisOs
