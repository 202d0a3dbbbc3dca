/-
# `AegisOs.ControlPlane.Wire` — the requests a run sends, and what it makes of the responses

The pipeline once more, with its two calls carried out by the code that carries them out:
the policy engine posts to its server, and the adapter has its gate checked and posts to
its provider.  What is left to the environment is what a server answers, anything at all,
and what happens to the components in the meantime.

The traffic of a run is then one of

    nothing    a question to the policy server    the same, and a request to the provider

and the request to the provider goes out only where the *bytes* of the policy server's
answer permit it (`Permitted`), carries the masked prompt, and, when it is to be protected,
has had its proof accepted for the very URL it goes to (`Released`).  What a run returns is
the masked text that stands in the body of the provider's response (`Returned`).

The orchestrator and the adapter share a session manager and a log.
-/
import AegisOs.Lib.Handling
import AegisOs.Governance.OpaClient
import AegisOs.Adapters.Exchange
import AegisOs.Adapters.Security
import AegisOs.ControlPlane.Pipeline
import AegisOs.ControlPlane.Egress

namespace AegisOs

open Lib Lib.EState

variable {Tok : Type}

/-! ## The system -/

/-- A request on the wire: a question to the policy server, or a prompt to the provider. -/
inductive HttpCall where
  | policy (url : String) (input : PolicyInput)
  | provider (request : HttpPost)

abbrev Traffic : Type := Co.Hist Exc HttpCall fun _ => HttpResponse

abbrev Wire (Tok : Type) : Type → Type := Co (World Tok) Exc HttpCall fun _ => HttpResponse

structure Wiring (Tok : Type) where
  env : Env Tok
  guardrails : Guardrails
  budget_wired : Bool := true
  loop_wired : Bool := true
  opa_url : String
  provider : Provider
  lax_int : Json → Option ℤ

namespace Wiring

variable (D : Wiring Tok)

def orchestrator : Orchestrator Tok where
  env := D.env
  guardrails := D.guardrails
  adapter :=
    { provider_name := D.provider.adapter.provider_name
      outbound_request_binding := fun _ =>
        some (D.provider.adapter.http_method, D.provider.adapter.http_url) }
  budget_wired := D.budget_wired
  loop_wired := D.loop_wired

/-- The request of Stage 4, with its metadata. -/
def outbound (req : LLMRequest Tok) : OutboundRequest Tok where
  prompt := req.prompt
  model := req.model
  max_tokens := req.max_tokens
  temperature := req.temperature
  system_prompt := req.system_prompt
  aegis_token := some req.aegis_token
  aegis_dpop_proof := req.aegis_dpop_proof
  aegis_protected := req.aegis_dpop_proof.map fun _ => "true"

/-- `request.model or self._default_model`. -/
def model (req : LLMRequest Tok) : String :=
  if req.model = "" then D.provider.adapter.default_model else req.model

/-- What the adapter posts. -/
def request (req : LLMRequest Tok) : HttpPost where
  url := D.provider.adapter.http_url
  payload := D.provider.adapter.payload (D.model req) req.prompt req.system_prompt req.max_tokens
    req.temperature
  headers := D.provider.adapter.headers

/-- The response as the orchestrator is handed it. -/
def response (req : LLMRequest Tok) (reply : ProviderReply) : LLMResponse where
  content := reply.content
  tokens_used := reply.tokens_used
  model := D.model req
  provider := D.provider.adapter.provider_name
  finish_reason := reply.finish_reason

end Wiring

/-- An adapter's exception, as its caller sees it. -/
def Adapters.Raised.exc : Adapters.Raised → Exc
  | .AdapterSecurityError msg _ => ⟨.other "AdapterSecurityError", msg⟩
  | .other e => e

namespace Wiring

variable (D : Wiring Tok)

/-- The components an adapter has, in the world. -/
def adapter_state (w : World Tok) : Adapters.AdapterState Tok := ⟨w.session_mgr, w.audit, []⟩

def adapter_left (w : World Tok) (a : Adapters.AdapterState Tok) : World Tok :=
  { w with session_mgr := a.session_mgr, audit := a.audit }

/-- The security gate of `complete`. -/
def gate (req : LLMRequest Tok) : WM Tok Unit := fun w =>
  match Adapters.security_gate D.provider.adapter D.env (outbound req) (adapter_state w) with
  | .ok u a => .ok u (adapter_left w a)
  | .error r a => .error r.exc (adapter_left w a)

/-- What comes of the call of the adapter, when the provider has answered. -/
def read_answer (req : LLMRequest Tok) (answer : Except Exc HttpResponse) :
    Except Exc LLMResponse := do
  D.response req <$> D.provider.read_response D.lax_int (← answer)

/-- `PolicyEngine.evaluate`. -/
def evaluate (policy_name : String) (input : PolicyInput) : Wire Tok PolicyResult := do
  let answer ← (Co.call (.policy (PolicyEngine.policy_url D.opa_url policy_name) input)).attempt
  Co.lift (guard (PolicyEngine.read_reply D.opa_url policy_name answer))

/-- `complete` of the adapter. -/
def complete (req : LLMRequest Tok) : Wire Tok LLMResponse := do
  Co.lift (D.gate req)
  let answer ← (Co.call (.provider (D.request req))).attempt
  Co.lift (guard (D.read_answer req answer))

def carry_out : (q : OrchCall Tok) → Wire Tok q.Answer
  | .evaluate policy_name input => D.evaluate policy_name input
  | .complete req => D.complete req

/-- `Orchestrator.run` with its calls carried out. -/
def run (rq : OrchestratorRequest Tok) : Wire Tok (OrchestratorResult Tok) :=
  Co.handle id (fun w _ => w) D.carry_out (Orchestrator.run D.orchestrator rq)

/-! ## What a run may send -/

/-- The question a run asks the policy server. -/
def question (rq : OrchestratorRequest Tok) : HttpCall :=
  .policy (PolicyEngine.policy_url D.opa_url "agent_access") (Orchestrator.policy_input rq)

/-- The gate of the adapter has let the request pass: one that is to be protected carries a token
and a proof that the session manager has accepted for the provider's URL. -/
def Passed (req : LLMRequest Tok) (w w' : World Tok) : Prop :=
  D.gate req w = .ok () w' ∧
    (Adapters.is_protected D.env (outbound req) = true → ∃ proof claims s',
      req.aegis_dpop_proof = some proof ∧
      validate_sender_constrained_token D.env req.aegis_token proof D.provider.adapter.http_method
        D.provider.adapter.http_url none none w.session_mgr = .ok claims s')

/-- A request of the run `rq` may go to the provider: the policy server has answered with a
permission, and the stages have made of it a call of the adapter that has passed the gate. -/
structure Released (rq : OrchestratorRequest Tok) (answer : Except Exc HttpResponse)
    (w₀ : World Tok) (request : HttpPost) (w : World Tok) : Prop where
  released : ∃ pr req w₁, PolicyEngine.Permitted answer pr ∧
    Orchestrator.AdapterCall D.orchestrator rq
      [⟨.evaluate "agent_access" (Orchestrator.policy_input rq), .ok pr⟩] w₀ req w₁ ∧
    (rq.protect_outbound_request = true → req.aegis_dpop_proof.isSome = true) ∧
    D.Passed req w₁ w ∧ request = D.request req

/-- The assertion at a request. -/
def MaySend (rq : OrchestratorRequest Tok) (h : Traffic) (w₀ : World Tok) :
    HttpCall → World Tok → Prop
  | .policy url input, _ => h = [] ∧ HttpCall.policy url input = D.question rq
  | .provider request, w =>
      ∃ answer, h = [⟨D.question rq, answer⟩] ∧ D.Released rq answer w₀ request w

/-- The traffic of a run that has come to an end. -/
inductive Ended (rq : OrchestratorRequest Tok) : Traffic → Prop
  | silent : Ended rq []
  | asked (answer : Except Exc HttpResponse) : Ended rq [⟨D.question rq, answer⟩]
  | posted {answer : Except Exc HttpResponse} {w₀ w : World Tok} {request : HttpPost}
      (answer' : Except Exc HttpResponse) : D.Released rq answer w₀ request w →
      Ended rq [⟨D.question rq, answer⟩, ⟨.provider request, answer'⟩]

/-- What a run returns: the masked text in the body of the provider's good response. -/
def Returned (rq : OrchestratorRequest Tok) (h : Traffic) (r : OrchestratorResult Tok) : Prop :=
  ∃ answer w₀ w request response body raw content post_mask,
    h = [⟨D.question rq, answer⟩, ⟨.provider request, .ok response⟩] ∧
    D.Released rq answer w₀ request w ∧
    200 ≤ response.status_code ∧ response.status_code < 300 ∧ response.body = some body ∧
    D.provider.read body = .ok raw ∧ raw.content = .str content ∧
    D.lax_int raw.tokens_used = some r.response.tokens_used ∧
    D.guardrails.mask_pii content = .ok post_mask ∧ r.response.content = post_mask.text

/-! ## The pieces -/

section
variable {D : Wiring Tok} {rq : OrchestratorRequest Tok} {req : LLMRequest Tok} {w w' : World Tok}

/-- The names and documents of the calls, of which nothing depends on a state. -/
def Requests (rq : OrchestratorRequest Tok) : OrchCall Tok → Prop
  | .evaluate policy_name input =>
      policy_name = "agent_access" ∧ input = Orchestrator.policy_input rq
  | .complete req => rq.protect_outbound_request = true → req.aegis_dpop_proof.isSome = true

theorem protected_of_before_llm {O : Orchestrator Tok} {task_id : Uuid} {pr : PolicyResult}
    {m m' : MaskResult} {token adapter_token : Tok} {proof : Option Tok}
    (h : Orchestrator.before_llm O rq task_id pr m w = .ok (m', token, adapter_token, proof) w')
    (hprot : rq.protect_outbound_request = true) : proof.isSome = true := by
  obtain ⟨_, _, _, h₁⟩ := bind_eq_ok.mp h
  obtain ⟨⟨t, at', pf⟩, _, htok, h₂⟩ := bind_eq_ok.mp h₁
  obtain ⟨_, _, _, h₃⟩ := bind_eq_ok.mp h₂
  cases h₃
  rw [Orchestrator.jit_token_issue_steps, Orchestrator.span_stage_eq_ok] at htok
  obtain ⟨_, _, _, hcred⟩ := bind_eq_ok.mp htok
  unfold Orchestrator.adapter_credentials at hcred
  rw [if_pos hprot] at hcred
  obtain ⟨⟨at'', pf'⟩, _, hout, hret⟩ := bind_eq_ok.mp hcred
  cases hret
  unfold Orchestrator.protect_outbound at hout
  cases hbinding : O.adapter.outbound_request_binding
      (Orchestrator.llm_request rq _ _ none) with
  | none =>
      rw [hbinding] at hout
      cases hout
  | some binding =>
      obtain ⟨http_method, http_url⟩ := binding
      rw [hbinding] at hout
      obtain ⟨⟨pem, jwk⟩, _, _, h₄⟩ := bind_eq_ok.mp hout
      obtain ⟨_, _, _, h₅⟩ := bind_eq_ok.mp h₄
      obtain ⟨_, _, _, h₆⟩ := bind_eq_ok.mp h₅
      obtain ⟨_, _, _, h₇⟩ := bind_eq_ok.mp h₆
      obtain ⟨_, _, _, h₈⟩ := bind_eq_ok.mp h₇
      cases h₈
      rfl

theorem run_requests (O : Orchestrator Tok) (rq : OrchestratorRequest Tok) :
    Co.Asks (fun _ _ => True) (Requests rq) (fun _ => True) (Orchestrator.run O rq) := by
  unfold Orchestrator.run
  cases rq.task_id with
  | none => trivial
  | some task_id =>
      refine Co.Asks.andThen (Co.Asks.lift fun _ _ _ _ => trivial) fun pre_mask => ?_
      refine Co.Asks.andThen ?_ fun pr => ?_
      · refine Orchestrator.span_stage_asks (Co.Asks.andThen (Co.Asks.tryCatch ?_ ?_) fun _ => ?_)
        · exact fun _ => Co.Asks.lift fun _ _ _ _ => trivial
        · have hq : Requests rq (.evaluate "agent_access" (Orchestrator.policy_input rq)) :=
            ⟨rfl, rfl⟩
          exact Co.Asks.call hq fun _ _ => trivial
        · exact Co.Asks.lift fun _ _ _ _ => trivial
      refine Co.Asks.bind (Co.Asks.lift ?_)
      rintro _ ⟨m, token, adapter_token, proof⟩ _ hbefore
      refine Co.Asks.andThen (Orchestrator.llm_invoke_asks ?_) fun _ => ?_
      · exact fun hprot => protected_of_before_llm hbefore hprot
      · exact Co.Asks.lift fun _ _ _ _ => trivial

theorem given_eq_some {E : Env Tok} {entry : Option Tok} {tok : Tok}
    (h : Adapters.given E entry = some tok) : entry = some tok := by
  cases entry with
  | none => cases h
  | some t =>
      unfold Adapters.given at h
      rw [Option.filter_some] at h
      split at h
      · exact h
      · cases h

/-- A refusal raises what it refuses. -/
theorem refuse_neverReturns (A : LLMAdapter) (E : Env Tok) (rq : OutboundRequest Tok)
    (r : Adapters.Raised) : NeverReturns (Adapters.refuse A E rq r) := by
  intro a b a' h
  obtain ⟨_, _, _, h₁⟩ := bind_eq_ok.mp h
  obtain ⟨_, _, _, h₂⟩ := bind_eq_ok.mp h₁
  cases h₂

/-- Where a proof is required, whoever passes has had one accepted. -/
theorem require_returns {E : Env Tok} {rq : OutboundRequest Tok} {http_method http_url : String}
    {s s' : SessionManager Tok} {claims : Option TokenClaims}
    (h : Adapters.require_sender_constrained_request E rq http_method http_url s = .ok claims s')
    (hprot : Adapters.is_protected E rq = true) : ∃ token proof c s₁,
      rq.aegis_token = some token ∧ rq.aegis_dpop_proof = some proof ∧
      validate_sender_constrained_token E token proof http_method http_url none none s =
        .ok c s₁ := by
  by_cases hgiven : Adapters.given E rq.aegis_token = none ∨
      Adapters.given E rq.aegis_dpop_proof = none
  · obtain ⟨msg, herr⟩ : ∃ msg, Adapters.require_sender_constrained_request E rq http_method
        http_url s = .error (.AdapterSecurityError msg none) s :=
      Adapters.require_missing hprot hgiven
    rw [herr] at h
    cases h
  · push Not at hgiven
    obtain ⟨token, htoken⟩ := Option.ne_none_iff_exists'.mp hgiven.1
    obtain ⟨proof, hproof⟩ := Option.ne_none_iff_exists'.mp hgiven.2
    have hrun : Adapters.require_sender_constrained_request E rq http_method http_url s = _ :=
      Adapters.require_run hprot htoken hproof
    cases hv : validate_sender_constrained_token E token proof http_method http_url none none s with
    | ok c s₁ => exact ⟨token, proof, c, s₁, given_eq_some htoken, given_eq_some hproof, hv⟩
    | error e s₁ =>
        rw [hrun, hv] at h
        cases h

theorem passed_of_gate (h : D.gate req w = .ok () w') : D.Passed req w w' := by
  refine ⟨h, fun hprot => ?_⟩
  unfold gate at h
  cases hgate : Adapters.security_gate D.provider.adapter D.env (outbound req) (adapter_state w) with
  | error r a =>
      rw [hgate] at h
      cases h
  | ok u a =>
      obtain ⟨claims, a₁, hcatch, -⟩ := bind_eq_ok.mp hgate
      have hbody := (catching_eq_ok_iff_body fun _ _ =>
        .clause (refuse_neverReturns _ _ _ _) .no_clause).mp hcatch
      obtain ⟨s', hrun, -⟩ := zoom_eq_ok.mp hbody
      obtain ⟨token, proof, c, s₁, htoken, hproof, hv⟩ := require_returns hrun hprot
      cases htoken
      exact ⟨proof, c, s₁, hproof, hv⟩

theorem read_answer_eq_ok {answer : Except Exc HttpResponse} {resp : LLMResponse} :
    D.read_answer req answer = .ok resp ↔ ∃ response reply, answer = .ok response ∧
      D.provider.read_response D.lax_int response = .ok reply ∧ D.response req reply = resp := by
  unfold read_answer
  simp only [except_bind_eq_ok_iff]
  constructor
  · rintro ⟨response, rfl, hmap⟩
    cases hread : D.provider.read_response D.lax_int response with
    | error e =>
        rw [hread] at hmap
        cases hmap
    | ok reply =>
        rw [hread] at hmap
        cases hmap
        exact ⟨response, reply, rfl, hread, rfl⟩
  · rintro ⟨response, reply, rfl, hread, rfl⟩
    exact ⟨response, rfl, by rw [hread]; rfl⟩

end

/-! ## The adapter on the wire is the adapter -/

/-- Nobody interferes, and the provider answers as `client` does. -/
def oracle (client : HttpPost → Except Exc HttpResponse) :
    Co.Oracle (World Tok) Exc HttpCall fun _ => HttpResponse where
  reply
    | .policy _ _, _ => .error ⟨.other "UnsupportedProtocol", []⟩
    | .provider request, _ => client request

/-- An outcome of the adapter's `complete`, and the world it leaves. -/
def outcome (w : World Tok) :
    EStateM.Result Adapters.Raised (Adapters.AdapterState Tok) AdapterResponse →
      Except Exc LLMResponse × World Tok
  | .ok r a => (.ok ⟨r.content, r.tokens_used, r.model, r.provider, r.finish_reason⟩,
      adapter_left w a)
  | .error e a => (.error e.exc, adapter_left w a)

/-- Where nobody interferes, the call on the wire is `complete` of the adapter. -/
theorem complete_adapter (D : Wiring Tok) (req : LLMRequest Tok)
    (client : HttpPost → Except Exc HttpResponse) (w : World Tok) :
    ((D.complete req).exec (oracle client) w).2 =
      outcome w (Adapters.complete D.provider.adapter D.env (D.provider.exchange D.lax_int client)
        (outbound req) (adapter_state w)) := by
  unfold complete Adapters.complete
  cases hgate : Adapters.security_gate D.provider.adapter D.env (outbound req) (adapter_state w) with
  | error e a =>
      have hrefused : D.gate req w = .error e.exc (adapter_left w a) := by
        unfold gate
        rw [hgate]
      rw [Co.exec_lift_bind_error hrefused, bind_error hgate]
      rfl
  | ok u a =>
      have hpassed : D.gate req w = .ok u (adapter_left w a) := by
        unfold gate
        rw [hgate]
      rw [Co.exec_lift_bind hpassed, bind_ok hgate, Co.exec_attempt_call, Co.exec_lift]
      have hanswer : D.read_answer req (client (D.request req)) =
          D.response req <$> D.provider.exchange D.lax_int client (D.request req) := by
        unfold read_answer Provider.exchange
        cases client (D.request req) <;> rfl
      show (result (guard (D.read_answer req (client (D.request req))) (adapter_left w a)),
        after (guard (D.read_answer req (client (D.request req))) (adapter_left w a))) = _
      rw [hanswer]
      cases hx : D.provider.exchange D.lax_int client (D.request req) with
      | error e =>
          have hpost : Adapters.post (D.provider.exchange D.lax_int client) (D.request req) a =
              .error (.other e) { a with sent := a.sent ++ [D.request req] } := by
            unfold Adapters.post
            rw [hx]
            rfl
          exact congrArg (outcome w) (bind_error hpost).symm
      | ok reply =>
          have hpost : Adapters.post (D.provider.exchange D.lax_int client) (D.request req) a =
              .ok reply { a with sent := a.sent ++ [D.request req] } := by
            unfold Adapters.post
            rw [hx]
            rfl
          refine Eq.trans ?_ (congrArg (outcome w) (bind_ok hpost)).symm
          rfl

/-! ## Along the run -/

section
variable {D : Wiring Tok} {rq : OrchestratorRequest Tok}

/-- What has become of the calls of the pipeline.  The two segments are the same but after a call
that the gate has refused. -/
inductive CarriedOut (D : Wiring Tok) (rq : OrchestratorRequest Tok) :
    Orchestrator.Answered Tok → Traffic → World Tok → World Tok → Prop
  | start {w : World Tok} : CarriedOut D rq [] [] w w
  | asked {answer : Except Exc HttpResponse} {w : World Tok} :
      CarriedOut D rq
        [⟨.evaluate "agent_access" (Orchestrator.policy_input rq),
          PolicyEngine.read_reply D.opa_url "agent_access" answer⟩]
        [⟨D.question rq, answer⟩] w w
  | refused {q : OrchCall Tok} {r : Except Exc q.Answer} {answer : Except Exc HttpResponse}
      {req : LLMRequest Tok} {e : Exc} {w₀ r₀ : World Tok} :
      CarriedOut D rq [⟨q, r⟩, ⟨.complete req, .error e⟩] [⟨D.question rq, answer⟩] w₀ r₀
  | posted {q : OrchCall Tok} {r : Except Exc q.Answer} {answer answer' : Except Exc HttpResponse}
      {req : LLMRequest Tok} {w w₁ w₂ : World Tok} :
      D.Released rq answer w₁ (D.request req) w₂ →
      CarriedOut D rq [⟨q, r⟩, ⟨.complete req, D.read_answer req answer'⟩]
        [⟨D.question rq, answer⟩, ⟨.provider (D.request req), answer'⟩] w w

variable {env : (q : HttpCall) → World Tok → Except Exc HttpResponse → World Tok → Prop}

/-- The policy engine posts the question, and hands on what it reads. -/
theorem evaluate_safe {w₀ w : World Tok} :
    Co.Safe env (fun h w₀ q w => D.MaySend rq h w₀ q w)
      (fun h w₀ pr w => CarriedOut D rq
        [⟨.evaluate "agent_access" (Orchestrator.policy_input rq), .ok pr⟩] h w₀ w)
      (fun h w₀ e w => CarriedOut D rq
        [⟨.evaluate "agent_access" (Orchestrator.policy_input rq), .error e⟩] h w₀ w)
      [] w₀ (D.evaluate "agent_access" (Orchestrator.policy_input rq)) w := by
  have hread : ∀ (answer : Except Exc HttpResponse) (w : World Tok),
      Co.Safe env (fun h w₀ q w => D.MaySend rq h w₀ q w)
        (fun h w₀ pr w => CarriedOut D rq
          [⟨.evaluate "agent_access" (Orchestrator.policy_input rq), .ok pr⟩] h w₀ w)
        (fun h w₀ e w => CarriedOut D rq
          [⟨.evaluate "agent_access" (Orchestrator.policy_input rq), .error e⟩] h w₀ w)
        [⟨D.question rq, answer⟩] w
        (Co.lift (guard (PolicyEngine.read_reply D.opa_url "agent_access" answer))) w := by
    intro answer w
    refine Co.Safe.lift ?_ ?_
    · intro pr w' h
      obtain ⟨hread, rfl⟩ := Orchestrator.guard_eq_ok.mp h
      rw [← hread]
      exact .asked
    · intro e w' h
      obtain ⟨hread, rfl⟩ := Orchestrator.guard_eq_error.mp h
      rw [← hread]
      exact .asked
  refine Co.Safe.bind (Co.Safe.attempt (Co.Safe.call ⟨rfl, rfl⟩ ?_ ?_))
  · exact fun response w' _ => hread (.ok response) w'
  · exact fun e w' _ => hread (.error e) w'

/-- The adapter has its gate checked, posts the request, and hands on what it reads. -/
theorem complete_safe {answer : Except Exc HttpResponse} {pr : PolicyResult} {req : LLMRequest Tok}
    {w₀ w : World Tok} (hpermit : PolicyEngine.Permitted answer pr)
    (hcall : Orchestrator.AdapterCall D.orchestrator rq
      [⟨.evaluate "agent_access" (Orchestrator.policy_input rq), .ok pr⟩] w₀ req w)
    (hproof : rq.protect_outbound_request = true → req.aegis_dpop_proof.isSome = true) :
    Co.Safe env (fun h w₀ q w => D.MaySend rq h w₀ q w)
      (fun h w₀ resp w => CarriedOut D rq
        [⟨.evaluate "agent_access" (Orchestrator.policy_input rq), .ok pr⟩,
          ⟨.complete req, .ok resp⟩] h w₀ w)
      (fun h w₀ e w => CarriedOut D rq
        [⟨.evaluate "agent_access" (Orchestrator.policy_input rq), .ok pr⟩,
          ⟨.complete req, .error e⟩] h w₀ w)
      [⟨D.question rq, answer⟩] w₀ (D.complete req) w := by
  refine Co.Safe.bind (Co.Safe.lift ?_ ?_)
  · intro _ w₁ hgate
    have hrel : D.Released rq answer w₀ (D.request req) w₁ :=
      ⟨pr, req, w, hpermit, hcall, hproof, passed_of_gate hgate, rfl⟩
    have hread : ∀ (answer' : Except Exc HttpResponse) (w₂ : World Tok),
        Co.Safe env (fun h w₀ q w => D.MaySend rq h w₀ q w)
          (fun h w₀ resp w => CarriedOut D rq
            [⟨.evaluate "agent_access" (Orchestrator.policy_input rq), .ok pr⟩,
              ⟨.complete req, .ok resp⟩] h w₀ w)
          (fun h w₀ e w => CarriedOut D rq
            [⟨.evaluate "agent_access" (Orchestrator.policy_input rq), .ok pr⟩,
              ⟨.complete req, .error e⟩] h w₀ w)
          [⟨D.question rq, answer⟩, ⟨.provider (D.request req), answer'⟩] w₂
          (Co.lift (guard (D.read_answer req answer'))) w₂ := by
      intro answer' w₂
      refine Co.Safe.lift ?_ ?_
      · intro resp w₃ h
        obtain ⟨hread, rfl⟩ := Orchestrator.guard_eq_ok.mp h
        rw [← hread]
        exact .posted hrel
      · intro e w₃ h
        obtain ⟨hread, rfl⟩ := Orchestrator.guard_eq_error.mp h
        rw [← hread]
        exact .posted hrel
    refine Co.Safe.bind (Co.Safe.attempt (Co.Safe.call ⟨answer, rfl, hrel⟩ ?_ ?_))
    · exact fun response w₂ _ => hread (.ok response) w₂
    · exact fun e w₂ _ => hread (.error e) w₂
  · intro e w₁ _
    exact .refused

theorem CarriedOut.asked_inv {h : Orchestrator.Answered Tok} {h' : Traffic} {w₀ r₀ : World Tok}
    {r : Except Exc PolicyResult} (hs : CarriedOut D rq h h' w₀ r₀)
    (hh : h = [⟨.evaluate "agent_access" (Orchestrator.policy_input rq), r⟩]) :
    w₀ = r₀ ∧ ∃ answer, h' = [⟨D.question rq, answer⟩] ∧
      PolicyEngine.read_reply D.opa_url "agent_access" answer = r := by
  cases hs with
  | asked =>
      rename_i answer
      simp only [List.cons.injEq, Sigma.mk.injEq, heq_eq_eq, true_and, and_true] at hh
      exact ⟨rfl, answer, rfl, hh⟩
  | start | refused | posted => simp at hh

theorem CarriedOut.posted_inv {h : Orchestrator.Answered Tok} {h' : Traffic} {w₀ r₀ : World Tok}
    {q : OrchCall Tok} {r : Except Exc q.Answer} {req : LLMRequest Tok} {resp : LLMResponse}
    (hs : CarriedOut D rq h h' w₀ r₀) (hh : h = [⟨q, r⟩, ⟨.complete req, .ok resp⟩]) :
    ∃ answer answer' w₁ w₂, h' = [⟨D.question rq, answer⟩, ⟨.provider (D.request req), answer'⟩] ∧
      D.Released rq answer w₁ (D.request req) w₂ ∧ D.read_answer req answer' = .ok resp := by
  cases hs with
  | start | asked => simp at hh
  | refused => simp at hh
  | posted hrel =>
      rename_i q' r' answer answer' req' w₁ w₂
      simp only [List.cons.injEq, Sigma.mk.injEq, OrchCall.complete.injEq, and_true] at hh
      obtain ⟨-, rfl, hread⟩ := hh
      exact ⟨answer, answer', w₁, w₂, rfl, hrel, eq_of_heq hread⟩

/-- The safety of the pipeline and the contract of its calls, read off the wire. -/
theorem run_safe (D : Wiring Tok) (rq : OrchestratorRequest Tok) (w : World Tok) :
    Co.Safe env (fun h w₀ q w => D.MaySend rq h w₀ q w) (fun h _ r _ => D.Returned rq h r)
      (fun h _ _ _ => D.Ended rq h) [] w (D.run rq) w := by
  have hrun := (Orchestrator.run_safe D.orchestrator rq w Co.anyEnv).and
    ((run_requests D.orchestrator rq).safe (fun _ _ _ _ _ => trivial) [] w w)
  refine Co.Safe.simulate (S := CarriedOut D rq) (fun _ _ => rfl) ?_ ?_ ?_ hrun .start
  · rintro (⟨name, input⟩ | req) h r₀ h' w₀ w hs ⟨hawait, hask⟩
    · obtain ⟨rfl, rfl⟩ := hask
      cases hawait
      cases hs
      exact evaluate_safe
    · obtain ⟨pr, hh, hallowed, hreject, hprompt⟩ := hawait.policy
      obtain ⟨rfl, answer, rfl, hread⟩ := hs.asked_inv hh
      subst hh
      exact complete_safe (PolicyEngine.read_reply_permits_iff.mp ⟨hread, hallowed, hreject⟩)
        hawait hask
  · rintro h r₀ h' w₀ r w hs ⟨⟨q, pr, req, resp, post_mask, -, hh, hmask, hresp⟩, -⟩
    obtain ⟨answer, answer', w₁, w₂, rfl, hrel, hread⟩ := hs.posted_inv hh
    obtain ⟨response, reply, rfl, hreply, rfl⟩ := read_answer_eq_ok.mp hread
    obtain ⟨hle, hlt, body, raw, hbody, hraw, hcontent, htokens, -⟩ :=
      Provider.read_response_eq_ok_iff.mp hreply
    refine ⟨answer, w₁, w₂, _, response, body, raw, reply.content, post_mask, rfl, hrel, hle, hlt,
      hbody, hraw, hcontent, ?_, hmask, ?_⟩
    · rw [hresp]
      exact htokens
    · rw [hresp]
  · rintro h r₀ h' w₀ e w hs -
    cases hs with
    | start => exact .silent
    | asked | refused => exact .asked _
    | posted hrel => exact .posted _ hrel

/-- **The traffic of a run**, whatever the servers answer and whatever happens to the components
while the run waits: nothing is sent but what may be, and what is returned is what the provider's
body says, masked. -/
theorem traffic_governed (D : Wiring Tok) (rq : OrchestratorRequest Tok) (w : World Tok)
    {c : Co.Conf (World Tok) Exc HttpCall (fun _ => HttpResponse) (OrchestratorResult Tok)}
    (hr : Co.Conf.Reachable (fun _ _ => True) (fun _ _ _ => True) (D.run rq) w c) :
    (∀ q k, c.point = .waiting q k → D.MaySend rq c.hist c.seg q c.stop) ∧
      (∀ r, c.point = .done r → D.Returned rq c.hist r) ∧
      ∀ e, c.point = .failed e → D.Ended rq c.hist := by
  have hgood := (Co.Conf.good_of_reachable (run_safe D rq w) hr).stopOk
  refine ⟨?_, ?_, ?_⟩
  · intro q k hpoint
    rw [hpoint] at hgood
    exact hgood.1
  · intro r hpoint
    rw [hpoint] at hgood
    exact hgood
  · intro e hpoint
    rw [hpoint] at hgood
    exact hgood

end

/-! ### A run on the wire -/

def plainWiring : Wiring SymToken where
  env := symbolicEnv {}
  guardrails := Orchestrator.plainGuardrails
  loop_wired := false
  opa_url := "http://localhost:8181"
  provider := openai "sk"
  lax_int
    | .num q => if q.den = 1 then some q.num else none
    | _ => none

/-- The policy server answers in words, and "false" is as good as any. -/
def plainServers : HttpCall → Except Exc HttpResponse
  | .policy _ _ => .ok ⟨200, some (.obj [("result", .obj [("allow", .str "false")])])⟩
  | .provider _ => .ok ⟨200, some (.obj
      [("choices", .arr [.obj [("message", .obj [("content", .str "hi")])]]),
        ("usage", .obj [("total_tokens", .num 7)])])⟩

def plainTraffic :=
  (Co.Conf.respond plainServers)^[2]
    (Co.Conf.start (plainWiring.run Orchestrator.plainRequest) Orchestrator.plainWorld)

theorem plainTraffic_governed :
    plainTraffic.hist.length = 2 ∧ plainTraffic.point.returned.isSome = true ∧
    ∀ r, plainTraffic.point = .done r →
      plainWiring.Returned Orchestrator.plainRequest plainTraffic.hist r := by
  refine ⟨by decide +kernel, by decide +kernel, ?_⟩
  exact (traffic_governed plainWiring Orchestrator.plainRequest Orchestrator.plainWorld
    (Co.Conf.Reachable.responds .refl plainServers (fun _ _ => trivial) 2)).2.1

end Wiring

end AegisOs
