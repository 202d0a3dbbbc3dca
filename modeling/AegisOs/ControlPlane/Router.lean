/-
# `AegisOs.ControlPlane.Router` — the task endpoint

`POST /tasks` of `router.py`: the request is turned into one for the
orchestrator, what the orchestrator raises into an `HTTPException`, and what it
returns into the response, whose labels are those of the prompt and of the
answer without repetition.

A `TaskRequest` carries the length constraints of its fields, so that there is
no value of it that pydantic would have refused.  `description`, which nothing
reads, is left out.
-/
import AegisOs.ControlPlane.Pipeline

namespace AegisOs

open Lib Lib.EState

/-- `AgentType`. -/
inductive AgentType where
  | FINANCE | HR | IT | LEGAL | GENERAL
  deriving DecidableEq

def AgentType.value : AgentType → String
  | .FINANCE => "finance"
  | .HR => "hr"
  | .IT => "it"
  | .LEGAL => "legal"
  | .GENERAL => "general"

structure TaskRequest where
  task_id : Uuid
  prompt : String
  agent_type : AgentType := .GENERAL
  requester_id : String
  model : String := "gpt-4o-mini"
  max_tokens : ℤ := 1024
  temperature : ℚ := 7 / 10
  system_prompt : String := ""
  metadata : List (String × String) := []
  protect_outbound_request : Bool := false
  prompt_length : 1 ≤ prompt.length ∧ prompt.length ≤ 32768
  requester_id_length : 1 ≤ requester_id.length ∧ requester_id.length ≤ 256

structure TaskResponse (Tok : Type) where
  task_id : Uuid
  agent_type : AgentType
  session_token : Tok
  message : String
  tokens_used : ℤ
  model : String
  pii_found : List String

/-- `list(dict.fromkeys(keys))`: each key once, where it first stands. -/
def dict_fromkeys (keys : List String) : List String := merge_types [] keys

/-- `isinstance(exc, PermissionError)`. -/
def ExcKind.isPermissionError : ExcKind → Bool
  | .PermissionError | .PolicyDeniedError | .TokenScopeError | .TokenExpiredError
  | .TokenRevokedError | .TokenActionError | .TokenBindingError | .DPoPProofError
  | .DPoPReplayError => true
  | .other cls => decide (cls = "AdapterSecurityError")
  | _ => false

/-- `isinstance(exc, ValueError)`; the named ones are those an adapter's client may let through. -/
def ExcKind.isValueError : ExcKind → Bool
  | .ValueError | .PromptInjectionError | .MissingTaskIdError | .ValidationError => true
  | .other cls => decide (cls ∈ ["JSONDecodeError", "UnicodeDecodeError", "UnicodeEncodeError"])
  | _ => false

namespace Router

variable {Tok : Type}

/-- The request `route_task` makes of the orchestrator. -/
def orchestrator_request (request : TaskRequest) : OrchestratorRequest Tok where
  task_id := some request.task_id
  prompt := request.prompt
  agent_type := request.agent_type.value
  requester_id := request.requester_id
  model := request.model
  max_tokens := request.max_tokens
  temperature := request.temperature
  system_prompt := request.system_prompt
  metadata := request.metadata
  protect_outbound_request := request.protect_outbound_request

/-- The response `route_task` makes of a result. -/
def task_response (request : TaskRequest) (result : OrchestratorResult Tok) : TaskResponse Tok where
  task_id := result.task_id
  agent_type := request.agent_type
  session_token := result.session_token
  message := result.response.content
  tokens_used := result.response.tokens_used
  model := result.response.model
  pii_found := dict_fromkeys (result.pii_found_in_prompt ++ result.pii_found_in_response)

/-- The `except` clauses around the orchestrator, in their order. -/
def pipeline_error {α : Type} (request : TaskRequest) (e : Exc) : WM Tok α :=
  if e.kind = .BudgetLimitError then throw ⟨.HTTPException 429, e.str⟩
  else if e.kind.isPermissionError then throw ⟨.HTTPException 403, e.str⟩
  else if e.kind.isValueError then throw ⟨.HTTPException 400, e.str⟩
  else do
    log (.error "task.error" [("task_id", .str request.task_id.text), ("error", .text e.str)])
    throw ⟨.HTTPException 500, "Internal pipeline error"⟩

/-- `_require_orchestrator`. -/
def require_orchestrator (orchestrator : Option (Orchestrator Tok)) :
    Orchestrator.Run Tok (Orchestrator Tok) :=
  match orchestrator with
  | some orc => return orc
  | none => throw ⟨.other "RuntimeError",
      "Orchestrator has not been configured.  Call configure_orchestrator() during app startup."⟩

/-- `route_task`. -/
def route_task (orchestrator : Option (Orchestrator Tok)) (request : TaskRequest) :
    Orchestrator.Run Tok (TaskResponse Tok) := do
  let orc ← require_orchestrator orchestrator
  Co.lift (log (.info "task.routing"
    [("task_id", .str request.task_id.text), ("agent_type", .str request.agent_type.value),
      ("requester_id", .str request.requester_id)]))
  let result ← tryCatch (orc.run (orchestrator_request request))
    fun e => Co.lift (pipeline_error request e)
  Co.lift (log (.info "task.routed"
    [("task_id", .str request.task_id.text), ("agent_type", .str request.agent_type.value)]))
  return task_response request result

/-! ## What becomes of a run behind the endpoint -/

theorem pipeline_error_eq_error (α : Type) (request : TaskRequest) (e : Exc) (w : World Tok) :
    ∃ status msg w', (pipeline_error request e : WM Tok α) w =
      .error ⟨.HTTPException status, msg⟩ w' ∧ OnlyAudit w w' := by
  unfold pipeline_error
  split
  · exact ⟨_, _, w, rfl, .refl w⟩
  · split
    · exact ⟨_, _, w, rfl, .refl w⟩
    · split
      · exact ⟨_, _, w, rfl, .refl w⟩
      · exact ⟨_, _, _, rfl, rfl, rfl, rfl⟩

section
variable {O : Orchestrator Tok} {request : TaskRequest} {w₀ w : World Tok}
  {h : Orchestrator.Answered Tok}
  {env : (q : OrchCall Tok) → World Tok → Except Exc q.Answer → World Tok → Prop}
  {C : Orchestrator.Answered Tok → World Tok → OrchCall Tok → World Tok → Prop}
  {D : Orchestrator.Answered Tok → World Tok → TaskResponse Tok → World Tok → Prop}
  {X : Orchestrator.Answered Tok → World Tok → Exc → World Tok → Prop}

/-- The endpoint adds nothing to a run but the records around it: it responds with what the run
returns, and raises an `HTTPException` when the run raises. -/
theorem safe_route_task
    (hrun : ∀ w', OnlyAudit w w' → Co.Safe env C
      (fun h w₀ result w => ∀ w', OnlyAudit w w' → D h w₀ (task_response request result) w')
      (fun h w₀ _ w => ∀ status msg w', OnlyAudit w w' → X h w₀ ⟨.HTTPException status, msg⟩ w')
      h w₀ (O.run (orchestrator_request request)) w') :
    Co.Safe env C D X h w₀ (route_task (some O) request) w := by
  refine Co.Safe.bind (Co.Safe.pure (Co.Safe.bind (Co.Safe.lift ?_ ?_)))
  · intro _ w₁ hlog
    refine Co.Safe.bind (Co.Safe.tryCatch ((hrun w₁ ((onlyAudit_log _).ok hlog)).mono
      (fun _ _ _ _ hc => hc) ?_ ?_))
    · intro h w₀ result w hd
      refine Co.Safe.bind (Co.Safe.lift ?_ ?_)
      · intro _ w₂ hlog₂
        exact Co.Safe.pure (hd w₂ ((onlyAudit_log _).ok hlog₂))
      · intro e w₂ hlog₂
        cases hlog₂
    · intro h w₀ e w hx
      obtain ⟨status, msg, w₂, herr, hsame⟩ :=
        pipeline_error_eq_error (OrchestratorResult Tok) request e w
      refine Co.Safe.lift ?_ ?_
      · intro a w₃ hok
        rw [herr] at hok
        cases hok
      · intro e' w₃ he
        rw [herr] at he
        cases he
        exact hx status msg w₂ hsame
  · intro e w₁ hlog
    cases hlog

end

end Router

end AegisOs
