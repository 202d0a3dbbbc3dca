/-
# `AegisOs.Adapters.Base` — the adapters and their security gate

`adapters/base.py` and the three adapters.  Before its request goes out, an
adapter has the token and the proof in the request's metadata validated by its
own session manager.  The three `complete` methods share the gate word for
word, so `complete` is one definition over an `LLMAdapter`, which holds what
the three say differently: name, URL, headers and payload.

What the provider answers is outside the repository: `server` is the exchange
and the reading of its response.  `sent` is a history variable, the requests
that went out; nothing reads it.

An exception is raised with a cause (`raise ... from exc`), which the gate's
handler looks at.
-/
import AegisOs.Governance.SessionMgr

namespace AegisOs

open Lib

/-! ## Requests -/

/-- `LLMRequest`, with the three entries of `metadata` an adapter looks at. -/
structure OutboundRequest (Tok : Type) where
  prompt : String
  model : String
  max_tokens : ℤ := 1024
  temperature : ℚ := 7 / 10
  system_prompt : String := ""
  aegis_token : Option Tok := none
  aegis_dpop_proof : Option Tok := none
  aegis_protected : Option String := none

/-- The JSON body of a provider's request. -/
structure ChatPayload where
  model : String
  messages : List (String × String)
  max_tokens : ℤ
  temperature : Option ℚ := none
  system : Option String := none
  deriving DecidableEq

/-- `client.post(url, json=payload, headers=headers)`. -/
structure HttpPost where
  url : String
  payload : ChatPayload
  headers : List (String × String)
  deriving DecidableEq

/-- What an adapter reads in the response. -/
structure ProviderReply where
  content : String
  tokens_used : ℤ
  finish_reason : String

/-- `LLMResponse`. -/
structure AdapterResponse where
  content : String
  tokens_used : ℤ
  model : String
  provider : String
  finish_reason : String
  deriving DecidableEq

/-- What distinguishes the adapters. -/
structure LLMAdapter where
  provider_name : String
  http_method : String := "POST"
  http_url : String
  default_model : String
  headers : List (String × String)
  /-- The payload for a model, given prompt, system prompt, token limit and temperature. -/
  payload : (model prompt system_prompt : String) → ℤ → ℚ → ChatPayload

/-- The messages of the OpenAI dialect. -/
def chat_messages (prompt system_prompt : String) : List (String × String) :=
  (if system_prompt = "" then [] else [("system", system_prompt)]) ++ [("user", prompt)]

def OpenAIAdapter (api_key : String) (default_model : String := "gpt-4o-mini") : LLMAdapter where
  provider_name := "openai"
  http_url := "https://api.openai.com/v1" ++ "/chat/completions"
  default_model := default_model
  headers := [("Authorization", "Bearer " ++ api_key)]
  payload model prompt system_prompt max_tokens temperature :=
    { model := model, messages := chat_messages prompt system_prompt, max_tokens := max_tokens,
      temperature := some temperature }

def AnthropicAdapter (api_key : String) (default_model : String := "claude-3-5-haiku-20241022") :
    LLMAdapter where
  provider_name := "anthropic"
  http_url := "https://api.anthropic.com/v1" ++ "/messages"
  default_model := default_model
  headers := [("x-api-key", api_key), ("anthropic-version", "2023-06-01")]
  payload model prompt system_prompt max_tokens _ :=
    { model := model, messages := [("user", prompt)], max_tokens := max_tokens,
      system := if system_prompt = "" then none else some system_prompt }

/-- `base_url.rstrip("/")`. -/
def rstrip_slash (base_url : String) : String :=
  String.ofList ((base_url.toList.reverse.dropWhile (· == '/')).reverse)

def LocalLlamaAdapter (base_url : String := "http://localhost:11434/v1")
    (default_model : String := "llama3") : LLMAdapter where
  provider_name := "local_llama"
  http_url := rstrip_slash base_url ++ "/chat/completions"
  default_model := default_model
  headers := []
  payload model prompt system_prompt max_tokens temperature :=
    { model := model, messages := chat_messages prompt system_prompt, max_tokens := max_tokens,
      temperature := some temperature }

namespace Adapters

/-! ## The gate -/

/-- What an adapter raises: its own class, with the `__cause__`, or what it lets through. -/
inductive Raised where
  | AdapterSecurityError (msg : Text) (cause : Option Exc)
  | other (e : Exc)
  deriving DecidableEq

/-- `isinstance(exc, AdapterSecurityError)`. -/
def Raised.isSecurityError : Raised → Bool
  | .AdapterSecurityError _ _ => true
  | .other _ => false

/-- `str(exc)`. -/
def Raised.str : Raised → Text
  | .AdapterSecurityError msg _ => msg
  | .other e => e.str

/-- `exc.__cause__`. -/
def Raised.cause : Raised → Option Exc
  | .AdapterSecurityError _ cause => cause
  | .other _ => none

variable {Tok : Type}

/-- Code of the session manager, called by an adapter. -/
def raising {α : Type} (m : SM Tok α) : EStateM Raised (SessionManager Tok) α := fun s =>
  match m s with
  | .ok a s' => .ok a s'
  | .error e s' => .error (.other e) s'

/-- The classes `require_sender_constrained_request` turns into an `AdapterSecurityError`; a
`DPoPReplayError` is a `DPoPProofError`. -/
def translated : List ExcKind := [.DPoPReplayError, .DPoPProofError, .TokenBindingError]

/-- An entry of the metadata that counts as given: present and not empty. -/
def given (E : Env Tok) (entry : Option Tok) : Option Tok :=
  entry.filter fun tok => decide (E.jose.compact tok ≠ "")

/-- Whether a request needs a proof. -/
def is_protected (E : Env Tok) (rq : OutboundRequest Tok) : Bool :=
  rq.aegis_protected == some "true" || E.settings.require_sender_constrained_tokens

/-- `require_sender_constrained_request`. -/
def require_sender_constrained_request (E : Env Tok) (rq : OutboundRequest Tok)
    (http_method http_url : String) : EStateM Raised (SessionManager Tok) (Option TokenClaims) :=
  if ¬is_protected E rq then return none
  else
    match given E rq.aegis_token, given E rq.aegis_dpop_proof with
    | some token, some proof =>
        catching
          (some <$> raising
            (validate_sender_constrained_token E token proof http_method http_url none none))
          fun
            | .other e =>
                if e.kind ∈ translated then some (throw (.AdapterSecurityError e.str (some e)))
                else none
            | .AdapterSecurityError _ _ => none
    | _, _ => throw (.AdapterSecurityError
        "Protected outbound LLM requests must include both aegis_token and aegis_dpop_proof metadata"
        none)

/-! ## `complete` -/

/-- An adapter's session manager, its audit log and what it has sent. -/
structure AdapterState (Tok : Type) where
  session_mgr : SessionManager Tok
  audit : List AuditEvent
  sent : List HttpPost

abbrev AM (Tok : Type) : Type → Type := EStateM Raised (AdapterState Tok)

def on_adapter_session {α : Type} (m : EStateM Raised (SessionManager Tok) α) : AM Tok α :=
  zoom AdapterState.session_mgr (fun s w => { w with session_mgr := s }) m

def adapter_log (event : AuditEvent) : AM Tok Unit :=
  modify fun w => { w with audit := w.audit ++ [event] }

/-- A text that is used unless it is absent or empty. -/
def or_unknown (text : Option String) : String :=
  match text with
  | some t => if t = "" then "unknown" else t
  | none => "unknown"

/-- Whose request is refused, as far as its token says so: `task_id` and `agent_type`. -/
def rejected_identity (E : Env Tok) (rq : OutboundRequest Tok) :
    EStateM Raised (SessionManager Tok) (String × String) :=
  match given E rq.aegis_token with
  | none => return ("unknown", "unknown")
  | some token =>
      catching
        ((fun claims : TokenClaims => (or_unknown claims.task_id, claims.agent_type)) <$>
          raising (validate_token E token))
        fun _ => some (return ("unknown", "unknown"))

/-- The name of the event of a refusal. -/
def denial_event (r : Raised) : String :=
  if r.cause.map (·.kind) = some .DPoPReplayError then "dpop.proof.replayed"
  else "dpop.proof.rejected"

/-- The `except AdapterSecurityError` clause. -/
def refuse (A : LLMAdapter) (E : Env Tok) (rq : OutboundRequest Tok) (r : Raised) :
    AM Tok (Option TokenClaims) := do
  let (task_id, agent_type) ← on_adapter_session (rejected_identity E rq)
  adapter_log (.stage_event (denial_event r) .deny "llm-invoke" task_id agent_type
    [("provider", .str A.provider_name), ("error_message", .text r.str)])
  throw r

/-- The security gate of `complete`. -/
def security_gate (A : LLMAdapter) (E : Env Tok) (rq : OutboundRequest Tok) : AM Tok Unit := do
  let claims ← catching
    (on_adapter_session (require_sender_constrained_request E rq A.http_method A.http_url))
    fun r => if r.isSecurityError then some (refuse A E rq r) else none
  match claims with
  | none => pure ()
  | some claims => adapter_log (.stage_event "dpop.proof.validated" .allow "llm-invoke"
      (or_unknown claims.task_id) claims.agent_type
      [("provider", .str A.provider_name), ("jti", .str claims.jti)])

/-- `await client.post(...)` and what is read in the response. -/
def post (server : HttpPost → Except Exc ProviderReply) (request : HttpPost) :
    AM Tok ProviderReply := do
  modify fun w => { w with sent := w.sent ++ [request] }
  match server request with
  | .ok reply => pure reply
  | .error e => throw (.other e)

/-- `complete`. -/
def complete (A : LLMAdapter) (E : Env Tok) (server : HttpPost → Except Exc ProviderReply)
    (rq : OutboundRequest Tok) : AM Tok AdapterResponse := do
  security_gate A E rq
  let model := if rq.model = "" then A.default_model else rq.model
  let reply ← post server
    { url := A.http_url
      payload := A.payload model rq.prompt rq.system_prompt rq.max_tokens rq.temperature
      headers := A.headers }
  return {
    content := reply.content
    tokens_used := reply.tokens_used
    model := model
    provider := A.provider_name
    finish_reason := reply.finish_reason }

end Adapters

end AegisOs
