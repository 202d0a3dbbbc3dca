/-
# `AegisOs.ControlPlane.Orchestrator` — the in-process pipeline

`Orchestrator.run`, stage by stage.  A stage without an await is synchronous
code on the world (`WM`); the whole run is a `Co` that awaits twice, at the
policy engine and at the adapter, and is atomic in between.

Every stage runs under `_span_stage`, which adds a `stage.error` event when an
exception leaves the stage that the stage has not itself recorded as a
refusal, and raises it again.  Spans and the error counter are left out.
-/
import AegisOs.ControlPlane.World
import AegisOs.Lib.Co

namespace AegisOs

open Lib

structure OrchestratorRequest (Tok : Type) where
  task_id : Option Uuid
  prompt : String
  agent_type : String
  requester_id : String
  session_token : Option Tok := none
  model : String := "gpt-4o-mini"
  max_tokens : ℤ := 1024
  temperature : ℚ := 7 / 10
  system_prompt : String := ""
  metadata : List (String × String) := []
  protect_outbound_request : Bool := false
  budget_session_id : Option Uuid := none
  cost_per_token : ℚ := 2 / 1000000
  loop_session_id : Option Uuid := none
  loop_signal : LoopSignal := .NO_PROGRESS
  loop_token_delta : Option ℤ := none

structure OrchestratorResult (Tok : Type) where
  task_id : Uuid
  response : LLMResponse
  session_token : Tok
  sanitized_prompt : String
  pii_found_in_prompt : List String
  pii_found_in_response : List String

/-- The injected collaborators, and whether the optional watchdogs are wired. -/
structure Orchestrator (Tok : Type) where
  env : Env Tok
  guardrails : Guardrails
  adapter : Adapter Tok
  budget_wired : Bool
  loop_wired : Bool

/-- The two awaits of a run. -/
inductive OrchCall (Tok : Type) where
  | evaluate (policy_name : String) (input : PolicyInput)
  | complete (request : LLMRequest Tok)

/-- What an await answers with. -/
@[reducible] def OrchCall.Answer {Tok : Type} : OrchCall Tok → Type
  | .evaluate _ _ => PolicyResult
  | .complete _ => LLMResponse

namespace Orchestrator

variable {Tok : Type}

/-! ## Stage instrumentation -/

/-- `isinstance(exc, _CONTROLLED_EXC)`. -/
def controlled_exc : ExcKind → Bool
  | .PolicyDeniedError | .TokenExpiredError | .TokenRevokedError | .TokenScopeError
  | .BudgetLimitError | .LoopHaltError | .LoopVelocityError | .LoopApprovalError => true
  | _ => false

/-- The `except` clause of `_span_stage`. -/
def stage_error {α : Type} (span_name task_id agent_type : String) (e : Exc) : WM Tok α := do
  if ¬controlled_exc e.kind then
    log (.stage_event "stage.error" .error span_name task_id agent_type
      [("error_message", .text e.str)])
  throw e

/-- `_span_stage` around a stage without an await. -/
def span_stage {α : Type} (span_name task_id agent_type : String) (m : WM Tok α) : WM Tok α :=
  catching m fun e => some (stage_error span_name task_id agent_type e)

abbrev Run (Tok : Type) : Type → Type :=
  Co (World Tok) Exc (OrchCall Tok) OrchCall.Answer

/-- `await self._policy_engine.evaluate(...)`. -/
def evaluate (policy_name : String) (input : PolicyInput) : Run Tok PolicyResult :=
  Co.call (OrchCall.evaluate policy_name input)

/-- `await self._adapter.complete(...)`. -/
def complete (request : LLMRequest Tok) : Run Tok LLMResponse := Co.call (OrchCall.complete request)

/-- `_span_stage` around a stage that awaits. -/
def span_stage_async {α : Type} (span_name task_id agent_type : String) (p : Run Tok α) :
    Run Tok α :=
  tryCatch p fun e => Co.lift (stage_error span_name task_id agent_type e)

/-! ## The stages -/

section
variable (O : Orchestrator Tok) (rq : OrchestratorRequest Tok) (task_id : Uuid)

/-- Stage 1. -/
def pre_sanitize : WM Tok MaskResult :=
  span_stage "pre-pii-scrub" task_id.text rq.agent_type do
    guard (O.guardrails.check_prompt_injection rq.prompt)
    let pre_mask ← guard (O.guardrails.mask_pii rq.prompt)
    log (.stage_event "guardrails.pre_sanitize" (mask_outcome pre_mask.found_types) "pre-pii-scrub"
      task_id.text rq.agent_type [("pii_types", .strs pre_mask.found_types)])
    return pre_mask

def policy_input : PolicyInput where
  agent_type := rq.agent_type
  requester_id := rq.requester_id
  action := "llm.complete"
  resource := "model:" ++ rq.model
  metadata := rq.metadata

/-- What Stage 2 does with a policy engine that is down. -/
def opa_unavailable (e : Exc) : WM Tok PolicyResult := do
  if e.kind = .OpaUnavailableError then
    log (.stage_event "policy.opa_unavailable" .error "policy-eval" task_id.text rq.agent_type
      [("requester_id", .str rq.requester_id), ("error_message", .text e.str)])
    throw ⟨.PolicyDeniedError, "OPA unavailable – request denied (fail-closed)"⟩
  throw e

/-- What Stage 2 does with an answer: deny on `allowed = False` or an explicit reject. -/
def policy_decision (policy_result : PolicyResult) : WM Tok PolicyResult := do
  if ¬policy_result.allowed ∨ policy_result.action = "reject" then
    log (.stage_event "policy.denied" .deny "policy-eval" task_id.text rq.agent_type
      [("requester_id", .str rq.requester_id), ("reasons", .strs policy_result.reasons)])
    throw ⟨.PolicyDeniedError,
      [.lit "OPA denied request for agent_type=", .repr rq.agent_type, .lit ": ",
        .reprs policy_result.reasons]⟩
  log (.stage_event "policy.allowed" .allow "policy-eval" task_id.text rq.agent_type [])
  return policy_result

/-- Stage 2. -/
def policy_eval : Run Tok PolicyResult :=
  span_stage_async "policy-eval" task_id.text rq.agent_type do
    let policy_result ← tryCatch (evaluate "agent_access" (policy_input rq))
      fun e => Co.lift (opa_unavailable rq task_id e)
    Co.lift (policy_decision rq task_id policy_result)

/-- The loop of Stage 2b: one more scrub per `"prompt"` among the fields. -/
def mask_fields (g : Guardrails) : List String → MaskResult → WM Tok MaskResult
  | [], m => pure m
  | field :: fields, m =>
      if field = "prompt" then do
        let mask_result ← guard (g.scrub m.text)
        mask_fields g fields ⟨mask_result.text, merge_types m.found_types mask_result.found_types⟩
      else mask_fields g fields m

/-- Stage 2b. -/
def policy_mask (policy_result : PolicyResult) (pre_mask : MaskResult) : WM Tok MaskResult :=
  if policy_result.action = "mask" then
    span_stage "policy-mask" task_id.text rq.agent_type do
      let m ← mask_fields O.guardrails policy_result.fields pre_mask
      log (.stage_event "policy.mask_applied" .redact "policy-eval" task_id.text rq.agent_type
        [("fields", .strs policy_result.fields)])
      return m
  else pure pre_mask

/-- A refusal of the supplied token. -/
def token_refused {α : Type} (event : String) (e : Exc) : WM Tok α := do
  log (.stage_event event .deny "jit-token-issue" task_id.text rq.agent_type
    [("requester_id", .str rq.requester_id)])
  throw e

/-- Stage 3, where a token is supplied. -/
def use_session_token (session_token : Tok) : WM Tok Tok := do
  let claims ← catching (on_session_mgr (validate_token O.env session_token)) fun e =>
    if e.kind = .TokenExpiredError then
      some (token_refused rq task_id "token.expired"
        ⟨.TokenExpiredError, "Session token has expired"⟩)
    else if e.kind = .TokenRevokedError then
      some (token_refused rq task_id "token.revoked"
        ⟨.PermissionError, "Session token has been revoked"⟩)
    else none
  if ← on_session_mgr (is_expired claims) then
    token_refused rq task_id "token.expired" ⟨.TokenExpiredError, "Session token has expired"⟩
  if claims.agent_type ≠ rq.agent_type then
    token_refused rq task_id "token.scope_violation" ⟨.TokenScopeError,
      [.lit "Token is scoped to agent_type=", .repr claims.agent_type,
        .lit " but request declares agent_type=", .repr rq.agent_type]⟩
  log (.stage_event "token.validated" .allow "jit-token-issue" task_id.text rq.agent_type [])
  return session_token

/-- Stage 3, where none is. -/
def issue_session_token : WM Tok Tok := do
  let token ← on_session_mgr (issue_token O.env
    { agent_type := rq.agent_type
      requester_id := rq.requester_id
      metadata := rq.metadata
      task_id := some task_id.text })
  let issued_claims ← on_session_mgr (validate_token O.env token)
  log (.stage_event "token.issued" .allow "jit-token-issue" task_id.text rq.agent_type
    [("jti", .str issued_claims.jti), ("requester_id", .str rq.requester_id)])
  return token

/-- The request Stage 4 sends, but for its credentials. -/
def llm_request (sanitized_prompt : String) (token : Tok) (dpop_proof : Option Tok) :
    LLMRequest Tok where
  prompt := sanitized_prompt
  model := rq.model
  max_tokens := rq.max_tokens
  temperature := rq.temperature
  system_prompt := rq.system_prompt
  aegis_token := token
  aegis_dpop_proof := dpop_proof

/-- The protected part of Stage 3: a token bound to a fresh key, and a proof by that key. -/
def protect_outbound (sanitized_prompt : String) (token : Tok) : WM Tok (Tok × Option Tok) := do
  match O.adapter.outbound_request_binding (llm_request rq sanitized_prompt token none) with
  | none => throw ⟨.ValueError,
      [.lit "Adapter ", .repr O.adapter.provider_name,
        .lit " does not expose an outbound request binding for protected flows"]⟩
  | some (http_method, http_url) =>
      let (private_key_pem, public_jwk) ← on_session_mgr generate_dpop_key_pair
      let adapter_token ← on_session_mgr (issue_sender_constrained_token O.env public_jwk
        { agent_type := rq.agent_type
          requester_id := rq.requester_id
          metadata := rq.metadata
          task_id := some task_id.text
          allowed_actions := ["llm.invoke"]
          rotation_key := some ("adapter:" ++ task_id.text) })
      let dpop_proof ← on_session_mgr (issue_dpop_proof O.env private_key_pem public_jwk
        http_method http_url (some adapter_token) none)
      let adapter_claims ← on_session_mgr (validate_token O.env adapter_token)
      log (.stage_event "token.sender_constrained_issued" .allow "jit-token-issue" task_id.text
        rq.agent_type [("jti", .str adapter_claims.jti), ("requester_id", .str rq.requester_id)])
      return (adapter_token, some dpop_proof)

/-- The supplied token, if there is one; an empty text counts as none. -/
def supplied_token : Option Tok :=
  rq.session_token.filter (fun t => decide (O.env.jose.compact t ≠ ""))

/-- Stage 3: the session token, the token for the adapter, and its proof. -/
def jit_token_issue (sanitized_prompt : String) : WM Tok (Tok × Tok × Option Tok) :=
  span_stage "jit-token-issue" task_id.text rq.agent_type do
    let token ← match supplied_token O rq with
      | some session_token => use_session_token O rq task_id session_token
      | none => issue_session_token O rq task_id
    if rq.protect_outbound_request then
      let (adapter_token, dpop_proof) ← protect_outbound O rq task_id sanitized_prompt token
      return (token, adapter_token, dpop_proof)
    else return (token, token, none)

/-- The budget session a run debits, when the enforcer is wired. -/
def budget_session : Option Uuid := if O.budget_wired then rq.budget_session_id else none

/-- Stage 3.5. -/
def watchdog_pre_llm : WM Tok Unit :=
  match budget_session O rq with
  | none => pure ()
  | some budget_session_id =>
      span_stage "watchdog.pre-llm" task_id.text rq.agent_type do
        catching (on_budget (BudgetEnforcer.check_budget budget_session_id)) fun e =>
          if e.kind = .BudgetExceededError then some (do
            log (.stage_event "budget.exceeded" .deny "watchdog.pre-llm" task_id.text rq.agent_type
              [("budget_session_id", .str budget_session_id.text), ("error_message", .text e.str)])
            throw ⟨.BudgetLimitError, e.str⟩)
          else none
        log (.stage_event "budget.pre_check" .allow "watchdog.pre-llm" task_id.text rq.agent_type
          [("budget_session_id", .str budget_session_id.text)])

/-- Stage 4. -/
def llm_invoke (sanitized_prompt : String) (adapter_token : Tok) (dpop_proof : Option Tok) :
    Run Tok LLMResponse :=
  span_stage_async "llm-invoke" task_id.text rq.agent_type do
    let llm_response ← complete (llm_request rq sanitized_prompt adapter_token dpop_proof)
    Co.lift (log (.stage_event "llm.completed" .allow "llm-invoke" task_id.text rq.agent_type
      [("model", .str rq.model), ("tokens_used", .int llm_response.tokens_used)]))
    return llm_response

/-- Stage 4.5. -/
def watchdog_record_spend (llm_response : LLMResponse) : WM Tok Unit :=
  match budget_session O rq with
  | none => pure ()
  | some budget_session_id =>
      span_stage "watchdog.record-spend" task_id.text rq.agent_type do
        let spend := Decimal.mul llm_response.tokens_used rq.cost_per_token
        let _ ← catching (on_budget (BudgetEnforcer.record_spend budget_session_id spend none))
          fun e =>
            if e.kind = .BudgetExceededError then some (do
              log (.stage_event "budget.exceeded_on_record" .deny "watchdog.record-spend"
                task_id.text rq.agent_type [("error_message", .text e.str)])
              throw ⟨.BudgetLimitError, e.str⟩)
            else none
        log (.stage_event "budget.spend_recorded" .allow "watchdog.record-spend" task_id.text
          rq.agent_type [])

/-- A trip of the circuit breaker: the event and the class the caller sees. -/
def loop_trip : ExcKind → Option (String × ExcKind)
  | .LoopDetectedError => some ("loop.halted", .LoopHaltError)
  | .TokenVelocityError => some ("loop.velocity_exceeded", .LoopVelocityError)
  | .PendingApprovalError => some ("loop.pending_approval", .LoopApprovalError)
  | _ => none

/-- Stage 4.6. -/
def watchdog_loop_detect (llm_response : LLMResponse) : WM Tok Unit :=
  match (if O.loop_wired then rq.loop_session_id else none) with
  | none => pure ()
  | some loop_session_id =>
      span_stage "watchdog.loop-detect" task_id.text rq.agent_type do
        let token_delta := rq.loop_token_delta.getD llm_response.tokens_used
        let _ ← catching
          (on_loop (LoopDetector.record_step loop_session_id token_delta rq.loop_signal ""))
          fun e =>
            match loop_trip e.kind with
            | some (event, kind) => some (do
                log (.stage_event event .deny "watchdog.loop-detect" task_id.text rq.agent_type
                  [("error_message", .text e.str)])
                throw ⟨kind, e.str⟩)
            | none => none
        log (.stage_event "loop.step_recorded" .allow "watchdog.loop-detect" task_id.text
          rq.agent_type [])

/-- Stage 5. -/
def post_sanitize (llm_response : LLMResponse) : WM Tok MaskResult :=
  span_stage "post-sanitize" task_id.text rq.agent_type do
    let post_mask ← guard (O.guardrails.mask_pii llm_response.content)
    log (.stage_event "guardrails.post_sanitize" (mask_outcome post_mask.found_types)
      "post-sanitize" task_id.text rq.agent_type [("pii_types", .strs post_mask.found_types)])
    return post_mask

/-! ## The run -/

/-- What follows the adapter call, without an await. -/
def after_llm (m : MaskResult) (token : Tok) (llm_response : LLMResponse) :
    WM Tok (OrchestratorResult Tok) := do
  watchdog_record_spend O rq task_id llm_response
  watchdog_loop_detect O rq task_id llm_response
  let post_mask ← post_sanitize O rq task_id llm_response
  return {
    task_id := task_id
    response := { llm_response with content := post_mask.text }
    session_token := token
    sanitized_prompt := m.text
    pii_found_in_prompt := m.found_types
    pii_found_in_response := post_mask.found_types }

/-- What lies between the two awaits: the prompt and the credentials of the adapter call. -/
def before_llm (policy_result : PolicyResult) (pre_mask : MaskResult) :
    WM Tok (MaskResult × Tok × Tok × Option Tok) := do
  let m ← policy_mask O rq task_id policy_result pre_mask
  let (token, adapter_token, dpop_proof) ← jit_token_issue O rq task_id m.text
  watchdog_pre_llm O rq task_id
  return (m, token, adapter_token, dpop_proof)

end

/-- `Orchestrator.run`. -/
def run (O : Orchestrator Tok) (rq : OrchestratorRequest Tok) :
    Run Tok (OrchestratorResult Tok) :=
  match rq.task_id with
  | none => throw ⟨.MissingTaskIdError,
      "task_id must not be None — every pipeline request requires a unique task identifier for audit correlation"⟩
  | some task_id => do
      let pre_mask ← Co.lift (pre_sanitize O rq task_id)
      let policy_result ← policy_eval rq task_id
      let (m, token, adapter_token, dpop_proof) ←
        Co.lift (before_llm O rq task_id policy_result pre_mask)
      let llm_response ← llm_invoke rq task_id m.text adapter_token dpop_proof
      Co.lift (after_llm O rq task_id m token llm_response)

end Orchestrator

end AegisOs
