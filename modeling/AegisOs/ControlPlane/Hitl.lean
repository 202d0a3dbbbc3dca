/-
# `AegisOs.ControlPlane.Hitl` — the approve and deny endpoints

`approve_task` and `deny_task` of `router.py`, with `_authorize_hitl_action`.
A request is authorised by the token of its `Authorization` header, by the
snapshot of the workflow it is about and by the policy engine, in this order,
and only then handed to the approval service.

A request is a `Co` on the world of the server.  It awaits the Temporal client
and the policy engine; the service's own programs run inside it, with each of
their calls made by the request (`service`).

**What is read off the wire.**  A header comes in as the two halves of
`authorization.partition(" ")`, and a body field that is missing or is not a
text is `none`.  What pydantic reports about a bad body is reduced to the names
of the fields.
-/
import AegisOs.ControlPlane.Approval

namespace AegisOs

open Lib

/-- The two halves of an `Authorization` header; an empty second half is the empty token text. -/
structure AuthorizationHeader (Tok : Type) where
  scheme : String
  token : Tok

/-- A request to one of the endpoints. -/
structure HitlRequest (Tok : Type) where
  task_id : Uuid
  authorization : Option (AuthorizationHeader Tok) := none
  approver_id : Option String := none
  reason : Option String := none

structure ApprovalDecisionRequest where
  approver_id : String
  reason : String

structure ApprovalDecisionResponse where
  task_id : Uuid
  status : String
  actor_id : String
  timestamp : ℚ

/-- What a request awaits. -/
inductive HitlCall where
  | temporal (q : TemporalCall)
  | evaluate (policy_name : String) (input : PolicyInput)
  deriving DecidableEq

def HitlCall.Answer : HitlCall → Type
  | .temporal q => q.Answer
  | .evaluate _ _ => PolicyResult

/-- The name of the action in scopes, policies and audit events. -/
def SignalName.action : SignalName → String
  | .approve => "approve"
  | .deny => "deny"

namespace Hitl

variable {Tok : Type}

abbrev Run (Tok : Type) : Type → Type := Co (World Tok) Exc HitlCall HitlCall.Answer

/-- A program of the approval service, run by the request. -/
def service {α : Type} (p : TaskApprovalService.Service α) : Run Tok α :=
  Co.handle (fun _ => ()) (fun _ w => w) (fun q => Co.call (HitlCall.temporal q)) p

/-- `await policy_engine.evaluate(...)`. -/
def evaluate (policy_name : String) (input : PolicyInput) : Run Tok PolicyResult :=
  Co.call (HitlCall.evaluate policy_name input)

/-! ## The request itself -/

/-- `_error_response`: the three entries of the structured detail, in order. -/
def error_response (status_code : ℕ) (code : String) (message : Text) (task_id : Uuid) : Exc :=
  ⟨.HTTPException status_code, [.lit code, .lit ": "] ++ message ++ [.lit ": ", .lit task_id.text]⟩

/-- A required text field of between one and `max_length` characters. -/
def body_field (max_length : ℕ) (field : Option String) : Option String :=
  field.filter (fun s => decide (1 ≤ s.length ∧ s.length ≤ max_length))

/-- `_parse_approval_request`. -/
def parse_approval_request (rq : HitlRequest Tok) : Except Exc ApprovalDecisionRequest :=
  match body_field 256 rq.approver_id, body_field 4096 rq.reason with
  | some approver_id, some reason => .ok ⟨approver_id, reason⟩
  | approver_id, reason => .error (error_response 400 "invalid_request"
      [.lit "Invalid approval request body: ",
        .reprs ((if approver_id.isNone then ["approver_id"] else []) ++
          if reason.isNone then ["reason"] else [])] rq.task_id)

/-- `_extract_bearer_token`.  No letter outside ASCII is lowered to one of those in `"bearer"`, so
lowering ASCII letters is enough. -/
def extract_bearer_token (E : Env Tok) : Option (AuthorizationHeader Tok) → Except Exc Tok
  | none => .error ⟨.HTTPException 401, "Missing Authorization header"⟩
  | some header =>
      if header.scheme.toLower ≠ "bearer" ∨ E.jose.compact header.token = "" then
        .error ⟨.HTTPException 401, "Invalid Authorization header"⟩
      else .ok header.token

/-! ## Authorisation -/

/-- What one of the checks does when it refuses. -/
def refuse {α : Type} (event : String) (task_id : Uuid) (action : String)
    (extra : List (String × Field)) (status : ℕ) (detail : Text) : WM Tok α := do
  log (.warning event ([("task_id", .str task_id.text), ("action", .str action)] ++ extra))
  throw ⟨.HTTPException status, detail⟩

/-- The clauses around the checks of the token. -/
def token_refused {α : Type} (task_id : Uuid) (action : String) (e : Exc) : Option (WM Tok α) :=
  if e.kind = .TokenExpiredError then
    some (refuse "jit.expired" task_id action [] 401 "JIT token expired")
  else if e.kind = .TokenRevokedError then
    some (refuse "jit.revoked" task_id action [] 401 "JIT token revoked")
  else if e.kind = .TokenActionError then
    some (refuse "jit.action_denied" task_id action [] 403 e.str)
  else if e.kind.isJWTError then
    some (refuse "jit.invalid" task_id action [] 401 "Malformed or invalid JIT token")
  else none

/-- The checks of the token: it is a valid one, and it allows `hitl:{action}`. -/
def check_token (E : Env Tok) (token : Tok) (action : String) : SM Tok TokenClaims := do
  let claims ← validate_token E token
  ensure_action_allowed claims ("hitl:" ++ action)
  return claims

/-- The `try` block of `_authorize_hitl_action`. -/
def checked_claims (E : Env Tok) (task_id : Uuid) (action : String) (token : Tok) :
    WM Tok TokenClaims :=
  catching (on_session_mgr (check_token E token action)) (token_refused task_id action)

/-- A token that names a session is good for tasks of that session only. -/
def check_session (task_id : Uuid) (action : String) (claims : TokenClaims)
    (snapshot : ApprovalStatusSnapshot) : WM Tok Unit :=
  match claims.session_id, snapshot.session_id with
  | some token_session_id, some workflow_session_id =>
      if token_session_id ≠ workflow_session_id then
        refuse "audit.cross_session_attempt" task_id action
          [("token_session_id", .str token_session_id),
            ("workflow_session_id", .str workflow_session_id)]
          403 "Token session does not match task session"
      else pure ()
  | _, _ => pure ()

def policy_input (action : String) (claims : TokenClaims) (snapshot : ApprovalStatusSnapshot) :
    PolicyInput where
  agent_type := snapshot.agent_type
  requester_id := claims.sub
  action := action
  resource := "workflow:pending_approval"
  principal_role := claims.role
  token_expired := false
  metadata := claims.metadata

/-- `if not result.allowed`. -/
def check_policy (task_id : Uuid) (action : String) (claims : TokenClaims) (result : PolicyResult) :
    WM Tok Unit :=
  if ¬result.allowed then
    refuse "hitl.rbac_denied" task_id action
      [("role", .str (claims.role.getD "")), ("reasons", .strs result.reasons)]
      403 "OPA denied HITL action"
  else pure ()

/-- What `_authorize_hitl_action` does with the claims of an accepted token. -/
def authorize_claims (task_id : Uuid) (action : String) (claims : TokenClaims) :
    Run Tok (PolicyInput × String) := do
  let snapshot ← service (TaskApprovalService.get_snapshot task_id)
  Co.lift (check_session task_id action claims snapshot)
  let result ← evaluate "agent_access" (policy_input action claims snapshot)
  Co.lift (check_policy task_id action claims result)
  return (policy_input action claims snapshot, claims.sub)

/-- `_authorize_hitl_action`. -/
def authorize_hitl_action (E : Env Tok) (task_id : Uuid) (action : String)
    (authorization : Option (AuthorizationHeader Tok)) : Run Tok (PolicyInput × String) := do
  let token ← Co.lift (MonadExcept.ofExcept (extract_bearer_token E authorization))
  let claims ← Co.lift (checked_claims E task_id action token)
  authorize_claims task_id action claims

/-! ## The endpoints -/

/-- The clauses around the authorisation and the service call. -/
def approval_failed {α : Type} (task_id : Uuid) (e : Exc) : Run Tok α :=
  if e.kind = .PendingApprovalConflictError then
    throw (error_response 409 "pending_approval_conflict" e.str task_id)
  else if e.kind = .PendingApprovalNotFoundError then
    throw (error_response 404 "pending_approval_not_found" e.str task_id)
  else throw e

/-- The body the two endpoints share. -/
def decide_task (name : SignalName)
    (decide : Uuid → String → String → TaskApprovalService.Service ApprovalDecisionResult)
    (E : Env Tok) (rq : HitlRequest Tok) : Run Tok ApprovalDecisionResponse := do
  let request ← Co.lift (MonadExcept.ofExcept (parse_approval_request rq))
  let result ← tryCatch (do
      let _ ← authorize_hitl_action E rq.task_id name.action rq.authorization
      service (decide rq.task_id request.approver_id request.reason))
    (approval_failed rq.task_id)
  let timestamp ← Co.lift (on_session_mgr time)
  return ⟨rq.task_id, result.status, result.actor_id, timestamp⟩

/-- `POST /tasks/{task_id}/approve`. -/
def approve_task : Env Tok → HitlRequest Tok → Run Tok ApprovalDecisionResponse :=
  decide_task .approve TaskApprovalService.approve

/-- `POST /tasks/{task_id}/deny`. -/
def deny_task : Env Tok → HitlRequest Tok → Run Tok ApprovalDecisionResponse :=
  decide_task .deny TaskApprovalService.deny

/-- The endpoint of a decision. -/
def endpoint : SignalName → Env Tok → HitlRequest Tok → Run Tok ApprovalDecisionResponse
  | .approve => approve_task
  | .deny => deny_task

end Hitl

end AegisOs
