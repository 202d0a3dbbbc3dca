/-
# `AegisOs.ControlPlane.PipelineAgreement` — two pipelines, one governance loop

The durable pipeline does what `ControlPlane.Governed` says the governance loop
is for, with different data flow: three lists of labels that are merged, a loop
that collects what it finds, an error translation of its own, and retries.
`execute_governed` is the rule that takes the retries out: an activity that
fails only when the request is refused fails at every attempt, and the adapter
has then not been asked.

So both pipelines, each in an environment of its own in which the policy engine
and the adapter behave alike, do the same (`pipelines_agree`).
-/
import AegisOs.ControlPlane.Governed
import AegisOs.ControlPlane.TokenLife

namespace AegisOs

open Lib Lib.EState Guardrails

variable {Tok : Type}

/-! ## The activities -/

namespace AegisActivities

open Orchestrator (returns_log)

section
variable {U : Unicode} {A : AegisActivities Tok} {w w' : World Tok}

theorem returns_require_task_id {task_id stage agent_type : String} (htask : task_id ≠ "") :
    Returns (fun id w' => id = task_id ∧ w' = w) (require_task_id task_id stage agent_type) w := by
  unfold require_task_id
  rw [if_neg htask]
  exact Returns.pure ⟨rfl, rfl⟩

theorem returns_pre_pii_scrub (hg : A.guardrails = standard U) {inp : WorkflowInput}
    (htask : inp.task_id ≠ "") (hno : injection U inp.prompt = none) :
    Returns (fun r _ => r = ⟨(masked U inp.prompt).text, (masked U inp.prompt).found_types⟩)
      (A.pre_pii_scrub inp) w := by
  unfold pre_pii_scrub
  rw [hg]
  refine Returns.bind ((returns_require_task_id htask).mono ?_)
  rintro _ _ ⟨rfl, rfl⟩
  refine Returns.bind (returns_log fun _ _ => ?_)
  refine Returns.bind (Returns.ofExcept (check_prompt_injection_ok hno) ?_)
  refine Returns.bind (Returns.ofExcept rfl (Returns.bind (returns_log fun _ _ => ?_)))
  exact Returns.pure rfl

theorem mask_fields_run (fields : List String) : ∀ text extra,
    mask_fields (standard U) fields (text, extra) w =
      .ok (wiped U (fields.count "prompt") text, extra ++ spotted U (fields.count "prompt") text) w := by
  induction fields with
  | nil =>
      intro text extra
      exact congrArg (fun l => EStateM.Result.ok (text, l) w) (List.append_nil extra).symm
  | cons fld fields ih =>
      intro text extra
      unfold mask_fields
      split
      · rename_i hf
        have hguard : guard ((standard U).scrub text) w = .ok (masked U text) w := rfl
        refine (bind_ok hguard).trans ((ih _ _).trans ?_)
        rw [hf, List.count_cons_self]
        exact congrArg (fun l => EStateM.Result.ok (_, l) w) (List.append_assoc _ _ _)
      · rename_i hf
        exact (ih text extra).trans (by rw [List.count_cons_of_ne hf])

theorem returns_policy_decision (hg : A.guardrails = standard U) {inp : PolicyEvalInput}
    {task_id : String} {pr : PolicyResult} (hallow : pr.allowed = true)
    (hreject : pr.action ≠ "reject") :
    Returns (fun r _ =>
        r.sanitized_prompt = wiped U (Orchestrator.rescrubs pr) inp.sanitized_prompt ∧
        r.extra_pii_types = spotted U (Orchestrator.rescrubs pr) inp.sanitized_prompt)
      (A.policy_decision inp task_id pr) w := by
  have hgo : ¬(¬pr.allowed = true ∨ pr.action = "reject") := by
    rintro (hno | hno)
    · exact hno hallow
    · exact hreject hno
  unfold policy_decision Orchestrator.rescrubs
  rw [if_neg hgo, hg]
  refine Returns.bind (returns_log fun w₁ _ => ?_)
  split
  · refine Returns.bind ⟨_, w₁, mask_fields_run pr.fields inp.sanitized_prompt [], ?_⟩
    exact Returns.bind (returns_log fun _ _ => Returns.pure ⟨rfl, rfl⟩)
  · exact Returns.pure ⟨rfl, rfl⟩

theorem policy_decision_refused {inp : PolicyEvalInput} {task_id : String} {pr : PolicyResult}
    {r : PolicyEvalResult} (hno : ¬(pr.allowed = true ∧ pr.action ≠ "reject")) :
    A.policy_decision inp task_id pr w ≠ .ok r w' := by
  intro h
  have hrefused : ¬pr.allowed = true ∨ pr.action = "reject" := by
    by_cases hallow : pr.allowed = true
    · exact .inr (not_not.mp fun hreject => hno ⟨hallow, hreject⟩)
    · exact .inl hallow
  unfold policy_decision at h
  rw [if_pos hrefused] at h
  obtain ⟨_, _, _, h₁⟩ := bind_eq_ok.mp h
  cases h₁

/-- What a decision that lets the request through comes to. -/
theorem policy_decision_eq_ok (hg : A.guardrails = standard U) {inp : PolicyEvalInput}
    {task_id : String} {pr : PolicyResult} {r : PolicyEvalResult}
    (h : A.policy_decision inp task_id pr w = .ok r w') :
    (pr.allowed = true ∧ pr.action ≠ "reject") ∧
      r.sanitized_prompt = wiped U (Orchestrator.rescrubs pr) inp.sanitized_prompt ∧
      r.extra_pii_types = spotted U (Orchestrator.rescrubs pr) inp.sanitized_prompt := by
  have hgo : pr.allowed = true ∧ pr.action ≠ "reject" := by
    by_contra hno
    exact policy_decision_refused hno h
  obtain ⟨r', w₁, hrun, hres⟩ := returns_policy_decision (w := w) hg hgo.1 hgo.2
  rw [h] at hrun
  cases hrun
  exact ⟨hgo, hres⟩

theorem opa_unavailable_ne_ok {task_id agent_type : String} {e : Exc} {r : PolicyResult} :
    opa_unavailable task_id agent_type e w ≠ .ok r w' := by
  intro h
  unfold opa_unavailable at h
  split at h
  · obtain ⟨_, _, _, h₁⟩ := bind_eq_ok.mp h
    cases h₁
  · cases h

theorem policy_decision_error {inp : PolicyEvalInput} {task_id : String} {pr : PolicyResult}
    (hg : A.guardrails = standard U) {e : Exc} (h : A.policy_decision inp task_id pr w = .error e w') :
    ¬(pr.allowed = true ∧ pr.action ≠ "reject") := by
  rintro ⟨hallow, hreject⟩
  obtain ⟨r, w₁, hok, -⟩ := returns_policy_decision (w := w) hg hallow hreject
  rw [hok] at h
  cases h

/-- What `JITTokenIssue` hands on to `LLMInvoke`: a good key pair, when the call is protected. -/
def Equipped (E : Env Tok) (protect : Bool) (pem : Option String) (jwk : Option Jwk) : Prop :=
  protect = true → ∃ pair, GoodPair E pair ∧ pem = some pair.1 ∧ jwk = some pair.2

/-- What `JITTokenIssue` does once it has its key pair. -/
theorem returns_jit_issue {protect : Bool} (hJ : A.env.jose.Uniform) (hkeys : KeysMatch A.env)
    (hs : Able A.env protect 5 w.session_mgr) {a : IssueArgs}
    (hn : ¬(a.agent_type = "" ∨ a.requester_id = "")) (hexp : a.expires_in_seconds = none)
    (hconf : a.confirmation_jwk = none) {task_id agent_type : String} (keys : Option (String × Jwk))
    (hkeypair : Equipped A.env protect (keys.map (·.1)) (keys.map (·.2))) :
    Returns (fun r _ => Equipped A.env protect r.protected_private_key_pem r.protected_public_jwk) (do
      let token ← on_session_mgr (issue_token A.env a)
      let claims ← on_session_mgr (validate_token A.env token)
      log (.stage_event "token.issued" .allow "jit-token-issue" task_id agent_type
        [("jti", .str claims.jti)])
      return ⟨token, claims.jti, keys.map (·.1), keys.map (·.2)⟩ : WM Tok (JITTokenResult Tok)) w := by
  have hcnf : ∃ cnf, confirmation A.env a = .ok cnf := by
    unfold confirmation
    rw [hconf]
    exact ⟨none, rfl⟩
  refine Returns.bind (Returns.zoom ((returns_issue_token (k := 3) hJ hkeys hs hn hexp hcnf).mono ?_))
  rintro token s₁ ⟨hs₁, hlive⟩
  obtain ⟨c, s₂, hvalid⟩ := hlive.accepts
  refine Returns.bind (Returns.zoom ⟨c, s₂, hvalid, ?_⟩)
  exact Returns.bind (returns_log fun _ _ => Returns.pure hkeypair)

theorem returns_jit_token_issue (hJ : A.env.jose.Uniform) (hkeys : KeysMatch A.env)
    {inp : JITTokenInput} (hs : Able A.env inp.protect_outbound_request 8 w.session_mgr)
    (htask : inp.task_id ≠ "") (hn : ¬(inp.agent_type = "" ∨ inp.requester_id = "")) :
    Returns (fun r _ => Equipped A.env inp.protect_outbound_request r.protected_private_key_pem
      r.protected_public_jwk) (A.jit_token_issue inp) w := by
  have hs₅ : Able A.env inp.protect_outbound_request 5 w.session_mgr :=
    hs.later (j := 0) hs.ids (fun _ => rfl) (by omega) rfl
  unfold jit_token_issue
  refine Returns.bind ((returns_require_task_id htask).mono ?_)
  rintro _ _ ⟨rfl, rfl⟩
  split
  · rename_i hprotect
    rw [hprotect] at hs₅ ⊢
    refine Returns.bind (Returns.zoom ((returns_generate_dpop_key_pair hs₅).mono ?_))
    rintro pair s₁ ⟨hpair, hs₁⟩
    exact returns_jit_issue hJ hkeys hs₁ hn rfl rfl (some pair) fun _ => ⟨pair, hpair, rfl, rfl⟩
  · rename_i hprotect
    exact returns_jit_issue hJ hkeys hs₅ hn rfl rfl none fun h => absurd h hprotect

theorem keysMatch_of_jit_token_issue {inp : JITTokenInput} {r : JITTokenResult Tok}
    (h : A.jit_token_issue inp w = .ok r w') : KeysMatch A.env := by
  obtain ⟨s, s₁, claims, -, hissue, hvalid⟩ := jit_token_issue_calls h
  exact keysMatch_of_accepted hissue ⟨claims, _, hvalid⟩

theorem returns_protect_outbound (hJ : A.env.jose.Uniform) (hkeys : KeysMatch A.env)
    (hblind : A.adapter.Blind) {inp : LLMInvokeInput Tok} {task_id : String} {token : Tok}
    (hbind : Bindable A.adapter (llm_request inp token none).bare)
    (hequipped : Equipped A.env true inp.protected_private_key_pem inp.protected_public_jwk)
    (hs : Able A.env true 3 w.session_mgr) (hn : ¬(inp.agent_type = "" ∨ inp.requester_id = "")) :
    Returns (fun _ _ => True) (A.protect_outbound inp task_id token) w := by
  obtain ⟨⟨http_method, http_url⟩, hbinding⟩ := hbind.binding hblind
  obtain ⟨pair, hpair, hpem, hjwk⟩ := hequipped rfl
  unfold protect_outbound
  rw [hpem, hjwk]
  simp only [hbinding]
  refine Returns.bind (Returns.zoom
    ((returns_issue_token (k := 1) hJ hkeys hs hn rfl hpair.confirmation).mono ?_))
  rintro adapter_token s₁ ⟨hs₁, hlive⟩
  refine Returns.bind (Returns.zoom ((returns_issue_dpop_proof hpair hlive).mono ?_))
  intro proof s₂ hlive₂
  obtain ⟨c, s₃, hvalid⟩ := hlive₂.accepts
  refine Returns.bind (Returns.zoom ⟨c, s₃, hvalid, ?_⟩)
  exact Returns.bind (returns_log fun _ _ => Returns.pure trivial)

theorem bindable_of_protect_outbound {inp : LLMInvokeInput Tok} {task_id : String} {token : Tok}
    {r : Tok × Option Tok} (h : A.protect_outbound inp task_id token w = .ok r w') :
    Bindable A.adapter (llm_request inp token none).bare := by
  obtain ⟨_, _, http_method, http_url, _, _, _, _, -, -, hbinding, -⟩ := protect_outbound_calls h
  refine ⟨_, rfl, ?_⟩
  rw [hbinding]
  exact Option.some_ne_none _

/-- The first attempt finds its credentials. -/
theorem returns_llm_credentials (hJ : A.env.jose.Uniform) (hkeys : KeysMatch A.env)
    (hblind : A.adapter.Blind) {info : ActivityInfo} {inp : LLMInvokeInput Tok} {task_id : String}
    (hattempt : info.attempt = 1) (hn : ¬(inp.agent_type = "" ∨ inp.requester_id = ""))
    (hbind : inp.protect_outbound_request = true →
      ∀ token, Bindable A.adapter (llm_request inp token none).bare)
    (hequipped : Equipped A.env inp.protect_outbound_request inp.protected_private_key_pem
      inp.protected_public_jwk)
    (hs : Able A.env inp.protect_outbound_request 8 w.session_mgr) :
    Returns (fun _ _ => True) (A.llm_credentials info inp task_id) w := by
  unfold llm_credentials
  rw [hattempt]
  refine Returns.bind (Returns.pure ?_)
  split
  · rename_i hprotect
    rw [hprotect] at hequipped hs
    exact returns_protect_outbound hJ hkeys hblind (hbind hprotect _) hequipped
      (hs.later (j := 0) hs.ids (fun _ => rfl) (by omega) rfl) hn
  · exact Returns.pure trivial

/-- No attempt does, where a protected call has no endpoint to be bound to. -/
theorem bindable_of_llm_credentials {info : ActivityInfo} {inp : LLMInvokeInput Tok} {task_id : String}
    {r : Tok × Option Tok} (hprotect : inp.protect_outbound_request = true)
    (h : A.llm_credentials info inp task_id w = .ok r w') :
    ∃ token, Bindable A.adapter (llm_request inp token none).bare := by
  unfold llm_credentials at h
  split at h
  all_goals
    obtain ⟨token, w₁, _, h₁⟩ := bind_eq_ok.mp h
    exact ⟨token, bindable_of_protect_outbound h₁⟩

theorem returns_post_sanitize (hg : A.guardrails = standard U) {inp : PostSanitizeInput}
    (htask : inp.task_id ≠ "") :
    Returns (fun r _ => r = ⟨(masked U inp.content).text, (masked U inp.content).found_types⟩)
      (A.post_sanitize inp) w := by
  unfold post_sanitize
  rw [hg]
  refine Returns.bind ((returns_require_task_id htask).mono ?_)
  rintro _ _ ⟨rfl, rfl⟩
  refine Returns.bind (Returns.ofExcept rfl (Returns.bind (returns_log fun _ _ => ?_)))
  exact Returns.bind (returns_log fun _ _ => Returns.pure rfl)

end

end AegisActivities

/-! ## The durable pipeline -/

/-- The workflow input is this request, without a budget and with a projected spend that is not above
fifty dollars. -/
structure Submits (request : TaskRequest) (inp : WorkflowInput) : Prop where
  task_id : inp.task_id ≠ ""
  prompt : inp.prompt = request.prompt
  agent_type : inp.agent_type = request.agent_type.value
  requester_id : inp.requester_id = request.requester_id
  model : inp.model = request.model
  max_tokens : inp.max_tokens = request.max_tokens
  temperature : inp.temperature = request.temperature
  system_prompt : inp.system_prompt = request.system_prompt
  protect_outbound_request : inp.protect_outbound_request = request.protect_outbound_request
  no_budget : inp.budget_session_id = none
  projected_spend : ∃ d, inp.projected_spend_usd.val = some d ∧ d.gt 50 = .ok false

theorem Submits.named {request : TaskRequest} {inp : WorkflowInput} (hsub : Submits request inp) :
    ¬(inp.agent_type = "" ∨ inp.requester_id = "") := by
  rw [hsub.agent_type, hsub.requester_id]
  exact Orchestrator.request_named request

namespace Durable

variable {ι : Type}

/-- What the answered calls have asked the adapter. -/
def asked (h : Log Tok) : List (LLMRequest Unit) :=
  h.filterMap fun x => match x.1 with
    | .io (.complete req) => some req.bare
    | _ => none

@[simp] theorem asked_append (h h' : Log Tok) : asked (h ++ h') = asked h ++ asked h' :=
  List.filterMap_append ..

/-- The environment of a run: activities are started, reported and retried, the policy engine and the
adapter answer, and whenever the run goes on tokens can be issued. -/
def Behaves (B : Outside) (E : Env Tok) (request : TaskRequest) :
    (q : DurableCall Tok) → Except Exc q.Answer → Worker Tok ι → Prop
  | .io q, r, s => B.Answers q r ∧ CanIssue E request s.world.session_mgr
  | .wait_condition _, _, _ => True
  | .schedule _, r, s | .report _ _ _, r, s | .backoff _ _, r, s =>
      r.isOk = true ∧ CanIssue E request s.world.session_mgr

section
variable {U : Unicode} {B : Outside} {A : AegisActivities Tok} {request : TaskRequest}
  {I : Worker Tok ι → Worker Tok ι → Prop} {workflow_id : Option String} {h : Log Tok}
  {s₀ s : Worker Tok ι} {X : Log Tok → Worker Tok ι → Exc → Worker Tok ι → Prop}

/-- A program of the system; nothing is asserted where it awaits. -/
abbrev GovernedSafe (I : Worker Tok ι → Worker Tok ι → Prop) (B : Outside) (E : Env Tok)
    (request : TaskRequest) {α : Type} (D : Log Tok → Worker Tok ι → α → Worker Tok ι → Prop)
    (X : Log Tok → Worker Tok ι → Exc → Worker Tok ι → Prop) (h : Log Tok) (s₀ : Worker Tok ι)
    (p : Durable Tok ι α) (s : Worker Tok ι) : Prop :=
  Co.Safe (Co.awaitEnv I (Behaves B E request)) (fun _ _ _ _ => True) D X h s₀ p s

/-- How an attempt has ended: as `K` says, or refused. -/
def Attempted {α : Type} (L : List (LLMRequest Unit)) (K : α → List (LLMRequest Unit) → Prop)
    (Refused : Prop) (r : Except Exc α) (h : Log Tok) : Prop :=
  match r with
  | .ok a => K a (asked h)
  | .error _ => asked h = L ∧ Refused

/-- An activity that fails only when the request is refused: then all its attempts do. -/
theorem execute_governed {q : WorkflowCall Tok} {L : List (LLMRequest Unit)}
    {K : q.Answer → List (LLMRequest Unit) → Prop} {Refused : Prop}
    {D : Log Tok → Worker Tok ι → q.Answer → Worker Tok ι → Prop}
    (hbody : ∀ (info : ActivityInfo) h (s : Worker Tok ι), asked h = L →
      CanIssue A.env request s.world.session_mgr → info.attempt = 1 ∨ Refused →
      GovernedSafe I B A.env request (fun h _ a _ => K a (asked h)) (fun h _ _ _ => asked h = L ∧ Refused)
        h s (on_world (perform A info q)) s)
    (hL : asked h = L) (hD : ∀ h s₀ a s, K a (asked h) → D h s₀ a s)
    (hX : ∀ h s₀ e s, asked h = L → Refused → X h s₀ e s) :
    GovernedSafe I B A.env request D X h s₀ (execute_activity A workflow_id q) s := by
  have hsame : ∀ (h : Log Tok) (q : DurableCall Tok) (r : Except Exc q.Answer),
      asked [⟨q, r⟩] = [] → asked (h ++ [⟨q, r⟩]) = asked h := by
    intro h q r hnone
    rw [asked_append, hnone, List.append_nil]
  have R : Retries (Co.awaitEnv I (Behaves B A.env request)) (fun _ _ _ _ => True) D X
      (fun n h s => asked h = L ∧ CanIssue A.env request s.world.session_mgr ∧ (n = 1 ∨ Refused))
      (fun _ h _ => asked h = L ∧ Refused)
      (fun _ (r : Except Exc q.Answer) h _ _ => Attempted L K Refused r h) :=
    { report := fun _ => trivial
      lost := fun _ henv => by cases henv.2.1
      returned := by
        intro h s₀ s n a s' ho _
        refine hD _ _ _ _ ?_
        rw [hsame _ _ _ rfl]
        exact ho
      given_up := by
        intro h s₀ s n e s' _ ho _ _
        exact hX _ _ _ _ ((hsame _ _ _ rfl).trans ho.1) ho.2
      again := fun ho _ _ => ⟨(hsame _ _ _ rfl).trans ho.1, ho.2⟩
      backoff := fun _ => trivial
      backoff_next := fun hw henv => ⟨(hsame _ _ _ rfl).trans hw.1, henv.2.2, .inr hw.2⟩
      backoff_lost := fun _ henv => by cases henv.2.1 }
  refine execute_activity_retries R ?_ trivial ?_ ?_
  · exact fun activity_id n h s hj => hbody _ h s hj.1 hj.2.1 hj.2.2
  · exact fun activity_id s' henv => ⟨(hsame _ _ _ rfl).trans hL, henv.2.2, .inl rfl⟩
  · exact fun e s' henv => by cases henv.2.1

/-! ### The activities on the worker -/

theorem on_world_call {q : OrchCall Tok} {D : Log Tok → Worker Tok ι → q.Answer → Worker Tok ι → Prop}
    (hok : ∀ a s', B.Answers q (.ok a) → D (h ++ [⟨.io q, .ok a⟩]) s' a s')
    (herr : ∀ e s', B.Answers q (.error e) → X (h ++ [⟨.io q, .error e⟩]) s' e s') :
    GovernedSafe I B A.env request D X h s₀ (on_world (Co.call q)) s :=
  Co.Safe.handle_call (Co.Safe.call (q := DurableCall.io q) trivial
    (fun a s' henv => hok a s' henv.2.1) fun e s' henv => herr e s' henv.2.1)

theorem execute_pre_pii_scrub_governed (hg : A.guardrails = standard U) {inp : WorkflowInput}
    (htask : inp.task_id ≠ "") {D : Log Tok → Worker Tok ι → PrePIIScrubResult → Worker Tok ι → Prop}
    (hL : asked h = [])
    (hD : ∀ h s₀ s, asked h = [] → injection U inp.prompt = none →
      D h s₀ ⟨(masked U inp.prompt).text, (masked U inp.prompt).found_types⟩ s)
    (hX : ∀ h s₀ e s, asked h = [] → injection U inp.prompt ≠ none → X h s₀ e s) :
    GovernedSafe I B A.env request D X h s₀ (execute_activity A workflow_id (.PrePIIScrub inp)) s := by
  refine execute_governed (q := .PrePIIScrub inp) (L := [])
    (K := fun (r : PrePIIScrubResult) l => l = [] ∧ injection U inp.prompt = none ∧
      r = ⟨(masked U inp.prompt).text, (masked U inp.prompt).found_types⟩) ?_ hL ?_ hX
  · intro info h s hL _ _
    by_cases hno : injection U inp.prompt = none
    · refine Co.Safe.handle_lift_returns ((AegisActivities.returns_pre_pii_scrub hg htask hno).mono ?_)
      exact fun r w hr => ⟨hL, hno, hr⟩
    · refine Co.Safe.handle_lift ?_ fun e w _ => ⟨hL, hno⟩
      intro r w hok
      have hcheck := (AegisActivities.pre_pii_scrub_ok hok).1
      rw [hg] at hcheck
      exact absurd (uninjected_of_check hcheck) hno
  · rintro h s₀ _ s ⟨hL, hno, rfl⟩
    exact hD h s₀ s hL hno

/-- The answer of the policy engine lets the request through. -/
def Passes (answer : Except Exc PolicyResult) (pr : PolicyResult) : Prop :=
  answer = .ok pr ∧ pr.allowed = true ∧ pr.action ≠ "reject"

/-- The question `PolicyEval` asks. -/
def evaluated (pin : PolicyEvalInput) : PolicyInput where
  agent_type := pin.agent_type
  requester_id := pin.requester_id
  action := "llm.complete"
  resource := "model:" ++ pin.model

theorem execute_policy_eval_governed (hg : A.guardrails = standard U) {pin : PolicyEvalInput}
    (htask : pin.task_id ≠ "") {D : Log Tok → Worker Tok ι → PolicyEvalResult → Worker Tok ι → Prop}
    (hL : asked h = [])
    (hD : ∀ h s₀ r s pr, asked h = [] → Passes (B.policy "agent_access" (evaluated pin)) pr →
      r.sanitized_prompt = wiped U (Orchestrator.rescrubs pr) pin.sanitized_prompt →
      r.extra_pii_types = spotted U (Orchestrator.rescrubs pr) pin.sanitized_prompt → D h s₀ r s)
    (hX : ∀ h s₀ e s, asked h = [] →
      (∀ pr, ¬Passes (B.policy "agent_access" (evaluated pin)) pr) → X h s₀ e s) :
    GovernedSafe I B A.env request D X h s₀ (execute_activity A workflow_id (.PolicyEval pin)) s := by
  refine execute_governed (q := .PolicyEval pin) (L := [])
    (K := fun (r : PolicyEvalResult) l => l = [] ∧
      ∃ pr, Passes (B.policy "agent_access" (evaluated pin)) pr ∧
      r.sanitized_prompt = wiped U (Orchestrator.rescrubs pr) pin.sanitized_prompt ∧
      r.extra_pii_types = spotted U (Orchestrator.rescrubs pr) pin.sanitized_prompt) ?_ hL ?_ hX
  · intro info h s hL _ _
    refine Co.Safe.handle_bind (Co.Safe.handle_lift_returns
      ((AegisActivities.returns_require_task_id htask).mono ?_))
    rintro _ w ⟨rfl, rfl⟩
    refine Co.Safe.handle_bind (Co.Safe.handle_tryCatch
      (on_world_call (q := .evaluate "agent_access" (evaluated pin)) ?_ ?_))
    · intro pr s' hanswers
      have hanswer : B.policy "agent_access" (evaluated pin) = .ok pr := hanswers.symm
      refine Co.Safe.handle_lift ?_ ?_
      · intro r w' hok
        obtain ⟨hgo, hprompt, hextra⟩ := AegisActivities.policy_decision_eq_ok hg hok
        exact ⟨by rw [asked_append, hL]; rfl, pr, ⟨hanswer, hgo⟩, hprompt, hextra⟩
      · intro e w' herr
        refine ⟨by rw [asked_append, hL]; rfl, ?_⟩
        rintro pr' ⟨hpr', hgo⟩
        obtain rfl : pr = pr' := Except.ok.inj (hanswer.symm.trans hpr')
        exact AegisActivities.policy_decision_error hg herr hgo
    · intro e s' hanswers
      have hanswer : B.policy "agent_access" (evaluated pin) = .error e := hanswers.symm
      refine Co.Safe.handle_lift ?_ ?_
      · exact fun r w' hok => (AegisActivities.opa_unavailable_ne_ok hok).elim
      · intro e' w' _
        refine ⟨by rw [asked_append, hL]; rfl, ?_⟩
        rintro pr ⟨hpr, _⟩
        rw [hanswer] at hpr
        cases hpr
  · rintro h s₀ r s ⟨hL, pr, hpass, hprompt, hextra⟩
    exact hD h s₀ r s pr hL hpass hprompt hextra

theorem execute_jit_token_issue_governed (hJ : A.env.jose.Uniform) {jin : JITTokenInput}
    (htask : jin.task_id ≠ "") (hn : ¬(jin.agent_type = "" ∨ jin.requester_id = ""))
    (hprotect : jin.protect_outbound_request = request.protect_outbound_request)
    {D : Log Tok → Worker Tok ι → JITTokenResult Tok → Worker Tok ι → Prop} (hL : asked h = [])
    (hD : ∀ h s₀ r s, asked h = [] → KeysMatch A.env →
      AegisActivities.Equipped A.env request.protect_outbound_request r.protected_private_key_pem
        r.protected_public_jwk → D h s₀ r s)
    (hX : ∀ h s₀ e s, asked h = [] → ¬KeysMatch A.env → X h s₀ e s) :
    GovernedSafe I B A.env request D X h s₀ (execute_activity A workflow_id (.JITTokenIssue jin)) s := by
  refine execute_governed (q := .JITTokenIssue jin) (L := [])
    (K := fun (r : JITTokenResult Tok) l => l = [] ∧ KeysMatch A.env ∧
      AegisActivities.Equipped A.env request.protect_outbound_request r.protected_private_key_pem
        r.protected_public_jwk) ?_ hL ?_ hX
  · intro info h s hL hs _
    by_cases hkeys : KeysMatch A.env
    · unfold CanIssue at hs
      rw [← hprotect] at hs ⊢
      refine Co.Safe.handle_lift_returns
        ((AegisActivities.returns_jit_token_issue hJ hkeys hs htask hn).mono ?_)
      exact fun r w hequipped => ⟨hL, hkeys, hequipped⟩
    · refine Co.Safe.handle_lift ?_ fun e w _ => ⟨hL, hkeys⟩
      exact fun r w hok => absurd (AegisActivities.keysMatch_of_jit_token_issue hok) hkeys
  · exact fun h s₀ r s hk => hD h s₀ r s hk.1 hk.2.1 hk.2.2

/-- The input of `LLMInvoke` in a run whose keys match: it asks the adapter for `sent`. -/
structure Invokes (A : AegisActivities Tok) (request : TaskRequest) (li : LLMInvokeInput Tok)
    (sent : LLMRequest Unit) : Prop where
  task_id : li.task_id ≠ ""
  named : ¬(li.agent_type = "" ∨ li.requester_id = "")
  protect_outbound_request : li.protect_outbound_request = request.protect_outbound_request
  sends : ∀ token proof, (AegisActivities.llm_request li token proof).bare = sent
  equipped : AegisActivities.Equipped A.env request.protect_outbound_request
    li.protected_private_key_pem li.protected_public_jwk
  keys : KeysMatch A.env

/-- The first attempt has credentials for the request, where it can be bound to its endpoint, ... -/
theorem Invokes.credentials (hJ : A.env.jose.Uniform) (hblind : A.adapter.Blind)
    {li : LLMInvokeInput Tok} {sent : LLMRequest Unit} (hli : Invokes A request li sent)
    {info : ActivityInfo} (hattempt : info.attempt = 1) {task_id : String}
    (hbound : request.protect_outbound_request = true → Bindable A.adapter sent) {w : World Tok}
    (hs : CanIssue A.env request w.session_mgr) :
    Returns (fun _ _ => True) (A.llm_credentials info li task_id) w := by
  have hequipped := hli.equipped
  unfold CanIssue at hs
  rw [← hli.protect_outbound_request] at hs hequipped hbound
  refine AegisActivities.returns_llm_credentials hJ hli.keys hblind hattempt hli.named ?_ hequipped hs
  intro hp token
  rw [hli.sends]
  exact hbound hp

/-- ... and no attempt has, where it cannot. -/
theorem Invokes.bound {li : LLMInvokeInput Tok} {sent : LLMRequest Unit}
    (hli : Invokes A request li sent) {info : ActivityInfo} {task_id : String} {w w' : World Tok}
    {r : Tok × Option Tok} (h : A.llm_credentials info li task_id w = .ok r w') :
    request.protect_outbound_request = true → Bindable A.adapter sent := by
  intro hp
  obtain ⟨token, hb⟩ :=
    AegisActivities.bindable_of_llm_credentials (hli.protect_outbound_request.trans hp) h
  rw [hli.sends] at hb
  exact hb

theorem execute_llm_invoke_governed (hJ : A.env.jose.Uniform) (hblind : A.adapter.Blind)
    {li : LLMInvokeInput Tok} {sent : LLMRequest Unit} (hli : Invokes A request li sent)
    {D : Log Tok → Worker Tok ι → LLMInvokeResult → Worker Tok ι → Prop} (hL : asked h = [])
    (hD : ∀ h s₀ r s, asked h = [sent] →
      (request.protect_outbound_request = true → Bindable A.adapter sent) →
      r.content = (B.adapter sent).content → r.tokens_used = (B.adapter sent).tokens_used →
      r.model = (B.adapter sent).model → D h s₀ r s)
    (hX : ∀ h s₀ e s, asked h = [] →
      ¬(request.protect_outbound_request = true → Bindable A.adapter sent) → X h s₀ e s) :
    GovernedSafe I B A.env request D X h s₀ (execute_activity A workflow_id (.LLMInvoke li)) s := by
  refine execute_governed (q := .LLMInvoke li) (L := [])
    (K := fun (r : LLMInvokeResult) l => l = [sent] ∧
      (request.protect_outbound_request = true → Bindable A.adapter sent) ∧
      r.content = (B.adapter sent).content ∧ r.tokens_used = (B.adapter sent).tokens_used ∧
      r.model = (B.adapter sent).model) ?_ hL ?_ hX
  · intro info h s hL hs hfirst
    refine Co.Safe.handle_bind (Co.Safe.handle_lift_returns
      ((AegisActivities.returns_require_task_id hli.task_id).mono ?_))
    rintro _ w ⟨rfl, rfl⟩
    by_cases hbound : request.protect_outbound_request = true → Bindable A.adapter sent
    · have hattempt : info.attempt = 1 := hfirst.resolve_right (not_not.mpr hbound)
      refine Co.Safe.handle_bind (Co.Safe.handle_lift_returns
        ((hli.credentials hJ hblind hattempt hbound hs).mono ?_))
      rintro ⟨token, proof⟩ w _
      refine Co.Safe.handle_bind
        (on_world_call (q := .complete (AegisActivities.llm_request li token proof)) ?_ ?_)
      · intro resp s' hanswers
        obtain rfl : resp = B.adapter sent := by
          rw [← hli.sends token proof]
          exact Except.ok.inj hanswers
        refine Co.Safe.handle_bind (Co.Safe.handle_lift_returns
          (Orchestrator.returns_log fun _ _ => ?_))
        refine ⟨?_, hbound, rfl, rfl, rfl⟩
        rw [asked_append, hL, ← hli.sends token proof]
        rfl
      · intro e s' hanswers
        cases hanswers
    · refine Co.Safe.handle_bind (Co.Safe.handle_lift ?_ fun e w _ => ⟨hL, hbound⟩)
      exact fun r w hok => absurd (hli.bound hok) hbound
  · rintro h s₀ r s ⟨hL, hbound, hcontent, htokens, hmodel⟩
    exact hD h s₀ r s hL hbound hcontent htokens hmodel

theorem execute_post_sanitize_governed (hg : A.guardrails = standard U) {pin : PostSanitizeInput}
    (htask : pin.task_id ≠ "") {L : List (LLMRequest Unit)}
    {D : Log Tok → Worker Tok ι → PostSanitizeResult → Worker Tok ι → Prop} (hL : asked h = L)
    (hD : ∀ h s₀ s, asked h = L →
      D h s₀ ⟨(masked U pin.content).text, (masked U pin.content).found_types⟩ s) :
    GovernedSafe I B A.env request D X h s₀ (execute_activity A workflow_id (.PostSanitize pin)) s := by
  refine execute_governed (q := .PostSanitize pin) (L := L)
    (K := fun (r : PostSanitizeResult) l => l = L ∧
      r = ⟨(masked U pin.content).text, (masked U pin.content).found_types⟩)
    ?_ hL ?_ (fun _ _ _ _ _ (hf : False) => hf.elim)
  · intro info h s hL _ _
    refine Co.Safe.handle_lift_returns ((AegisActivities.returns_post_sanitize hg htask).mono ?_)
    exact fun r w hr => ⟨hL, hr⟩
  · rintro h s₀ _ s ⟨hL, rfl⟩
    exact hD h s₀ s hL

theorem execute_audit_governed {audit : WorkflowAuditInput} {L : List (LLMRequest Unit)}
    {D : Log Tok → Worker Tok ι → Unit → Worker Tok ι → Prop} (hL : asked h = L)
    (hD : ∀ h s₀ s, asked h = L → D h s₀ () s) :
    GovernedSafe I B A.env request D X h s₀ (execute_activity A workflow_id (.WorkflowAudit audit)) s := by
  refine execute_governed (q := .WorkflowAudit audit) (L := L) (K := fun _ l => l = L)
    ?_ hL ?_ (fun _ _ _ _ _ (hf : False) => hf.elim)
  · intro info h s hL _ _
    refine Co.Safe.handle_lift_returns ?_
    unfold AegisActivities.record_event
    split
    · exact Orchestrator.returns_log fun _ _ => hL
    · split
      all_goals exact Orchestrator.returns_log fun _ _ => hL
  · exact fun h s₀ _ s hL => hD h s₀ s hL

end

/-! ### One run -/

section
variable {U : Unicode} {B : Outside} {A : AegisActivities Tok} [DecidableEq ι] {i : ι}
  {I : Worker Tok ι → Worker Tok ι → Prop} {workflow_id : Option String} {h : Log Tok}
  {s₀ s : Worker Tok ι} {X : Log Tok → Worker Tok ι → Exc → Worker Tok ι → Prop}
  {request : TaskRequest} {inp : WorkflowInput}

theorem set_governed {D : Log Tok → Worker Tok ι → Unit → Worker Tok ι → Prop}
    {g : AgentTaskWorkflow → AgentTaskWorkflow} (hD : ∀ s, D h s₀ () s) :
    GovernedSafe I B A.env request D X h s₀ (on_flow A workflow_id i (AgentTaskWorkflow.set g)) s :=
  Co.Safe.handle_lift_returns (Returns.modify (hD _))

/-- What the workflow returns for a request that was admitted with `pr`. -/
structure Outputs (U : Unicode) (B : Outside) (request : TaskRequest) (pr : PolicyResult)
    (out : WorkflowOutput) : Prop where
  sanitized_prompt : out.sanitized_prompt = (sanitised U request pr).text
  content : out.content = (masked U (B.adapter (outbound U request pr)).content).text
  tokens_used : out.tokens_used = (B.adapter (outbound U request pr)).tokens_used
  model : out.model = (B.adapter (outbound U request pr)).model
  pii_types : out.pii_types = merge_types (sanitised U request pr).found_types
    (masked U (B.adapter (outbound U request pr)).content).found_types

/-- How a run ends: it has asked the adapter once, for a request that was admitted, ... -/
def ReturnsGoverned (U : Unicode) (B : Outside) (A : AegisActivities Tok) (request : TaskRequest)
    (h : Log Tok) (_ : Worker Tok ι) (out : WorkflowOutput) (_ : Worker Tok ι) : Prop :=
  ∃ pr, Admitted U B A.env A.adapter request pr ∧ asked h = [outbound U request pr] ∧
    Outputs U B request pr out

/-- ... or never, for one that was not. -/
def RaisesRefused (U : Unicode) (B : Outside) (A : AegisActivities Tok) (request : TaskRequest)
    (h : Log Tok) (_ : Worker Tok ι) (_ : Exc) (_ : Worker Tok ι) : Prop :=
  asked h = [] ∧ ∀ pr, ¬Admitted U B A.env A.adapter request pr

/-- What stages 1 to 3 hand on: all that makes a request an admitted one, but for its endpoint. -/
structure Prepared (U : Unicode) (B : Outside) (A : AegisActivities Tok) (request : TaskRequest)
    (pr : PolicyResult) (h : Log Tok) (scrub : PrePIIScrubResult) (policy : PolicyEvalResult)
    (token : JITTokenResult Tok) : Prop where
  uninjected : injection U request.prompt = none
  passes : Passes (B.policy "agent_access" (policy_question request)) pr
  keys : KeysMatch A.env
  asked : asked h = []
  pii_types : scrub.pii_types = (masked U request.prompt).found_types
  sanitized_prompt : policy.sanitized_prompt = (sanitised U request pr).text
  extra_pii_types : policy.extra_pii_types =
    spotted U (Orchestrator.rescrubs pr) (masked U request.prompt).text
  equipped : AegisActivities.Equipped A.env request.protect_outbound_request
    token.protected_private_key_pem token.protected_public_jwk

theorem Prepared.admitted_iff {pr pr' : PolicyResult} {scrub : PrePIIScrubResult}
    {policy : PolicyEvalResult} {token : JITTokenResult Tok}
    (hp : Prepared U B A request pr h scrub policy token) :
    Admitted U B A.env A.adapter request pr' ↔ pr = pr' ∧
      (request.protect_outbound_request = true → Bindable A.adapter (outbound U request pr)) := by
  obtain ⟨hpolicy, hallow, hreject⟩ := hp.passes
  constructor
  · intro ha
    obtain rfl : pr = pr' := Except.ok.inj (hpolicy.symm.trans ha.policy)
    exact ⟨rfl, ha.bound⟩
  · rintro ⟨rfl, hbound⟩
    exact ⟨hp.uninjected, hpolicy, hallow, hreject, hp.keys, hbound⟩

theorem evaluated_eq (hsub : Submits request inp) (text : String) :
    evaluated
        { task_id := inp.task_id
          sanitized_prompt := text
          agent_type := inp.agent_type
          requester_id := inp.requester_id
          model := inp.model } = policy_question request := by
  unfold evaluated policy_question
  rw [hsub.agent_type, hsub.requester_id, hsub.model]

theorem before_gate_governed (hg : A.guardrails = standard U) (hJ : A.env.jose.Uniform)
    (hsub : Submits request inp) (hL : asked h = []) :
    GovernedSafe I B A.env request
      (fun h _ r _ => ∃ pr, Prepared U B A request pr h r.1 r.2.1 r.2.2)
      (RaisesRefused U B A request) h s₀
      (on_flow A workflow_id i (AgentTaskWorkflow.before_gate inp)) s := by
  refine Co.Safe.handle_bind (set_governed fun s => Co.Safe.handle_bind
    (execute_safe (q := WorkflowCall.PrePIIScrub inp)
      (execute_pre_pii_scrub_governed hg hsub.task_id hL ?_ ?_)))
  · intro h s₀ s hL hno
    rw [hsub.prompt] at hno ⊢
    refine Co.Safe.handle_bind (execute_safe (q := WorkflowCall.PolicyEval _)
      (execute_policy_eval_governed hg hsub.task_id hL ?_ ?_))
    · intro h s₀ policy s pr hL hpass hprompt hextra
      rw [evaluated_eq hsub] at hpass
      refine Co.Safe.handle_bind (execute_safe (q := WorkflowCall.JITTokenIssue _)
        (execute_jit_token_issue_governed hJ hsub.task_id hsub.named hsub.protect_outbound_request
          hL ?_ ?_))
      · intro h s₀ token s hL hkeys hequipped
        exact ⟨pr, hno, hpass, hkeys, hL, rfl, hprompt, hextra, hequipped⟩
      · exact fun h s₀ e s hL hkeys => ⟨hL, fun pr ha => hkeys ha.keys⟩
    · intro h s₀ e s hL hrefused
      refine ⟨hL, fun pr ha => hrefused pr ?_⟩
      rw [evaluated_eq hsub]
      exact ⟨ha.policy, ha.allowed, ha.not_rejected⟩
  · intro h s₀ e s hL hinjected
    rw [hsub.prompt] at hinjected
    exact ⟨hL, fun pr ha => hinjected ha.uninjected⟩

/-- The clause around `LLMInvoke` records the failure, and raises. -/
theorem llm_failed_governed (e : Exc)
    {D : Log Tok → Worker Tok ι → LLMInvokeResult → Worker Tok ι → Prop} (hL : asked h = [])
    (hX : ∀ h s₀ e s, asked h = [] → X h s₀ e s) :
    GovernedSafe I B A.env request D X h s₀ (on_flow A workflow_id i (AgentTaskWorkflow.llm_failed inp e))
      s := by
  obtain ⟨status, audit, e', heq⟩ | heq := AgentTaskWorkflow.llm_failed_cases Tok inp e
  · rw [heq]
    refine Co.Safe.handle_bind (set_governed fun s => Co.Safe.handle_bind
      (execute_safe (q := WorkflowCall.WorkflowAudit _) (execute_audit_governed hL ?_)))
    exact fun h s₀ s hL => hX h s₀ _ s hL
  · rw [heq]
    exact hX h s₀ e s hL

theorem after_gate_governed (hg : A.guardrails = standard U) (hJ : A.env.jose.Uniform)
    (hblind : A.adapter.Blind) (hsub : Submits request inp) {pr : PolicyResult}
    {scrub : PrePIIScrubResult} {policy : PolicyEvalResult} {token : JITTokenResult Tok}
    (hp : Prepared U B A request pr h scrub policy token) :
    GovernedSafe I B A.env request (ReturnsGoverned U B A request) (RaisesRefused U B A request) h s₀
      (on_flow A workflow_id i (AgentTaskWorkflow.after_gate inp scrub policy token)) s := by
  have hbudget : AgentTaskWorkflow.budget_fields inp = none := by
    unfold AgentTaskWorkflow.budget_fields
    rw [hsub.no_budget]
  have hli : Invokes A request (AgentTaskWorkflow.llm_input inp policy.sanitized_prompt token)
      (outbound U request pr) :=
    { task_id := hsub.task_id
      named := hsub.named
      protect_outbound_request := hsub.protect_outbound_request
      sends := by
        intro t proof
        unfold AegisActivities.llm_request AgentTaskWorkflow.llm_input LLMRequest.bare outbound asking
        simp only [hp.sanitized_prompt, hsub.model, hsub.max_tokens, hsub.temperature,
          hsub.system_prompt]
      equipped := hp.equipped
      keys := hp.keys }
  unfold AgentTaskWorkflow.after_gate AgentTaskWorkflow.pre_check AgentTaskWorkflow.record_budget
  rw [hbudget]
  refine Co.Safe.handle_bind (Co.Safe.pure (Co.Safe.handle_bind (Co.Safe.handle_tryCatch
    (execute_safe (q := WorkflowCall.LLMInvoke _)
      (execute_llm_invoke_governed hJ hblind hli hp.asked ?_ ?_)))))
  · intro h s₀ llm s hL hbound hcontent htokens hmodel
    refine Co.Safe.handle_bind (Co.Safe.pure (Co.Safe.handle_bind
      (execute_safe (q := WorkflowCall.PostSanitize _)
        (execute_post_sanitize_governed hg hsub.task_id hL ?_))))
    intro h s₀ s hL
    refine Co.Safe.handle_bind (set_governed fun s => Co.Safe.handle_bind
      (Co.Safe.handle_lift_returns ⟨_, _, rfl, ?_⟩))
    refine ⟨pr, hp.admitted_iff.mpr ⟨rfl, hbound⟩, hL, hp.sanitized_prompt, ?_, htokens, hmodel, ?_⟩
    · show (masked U llm.content).text = _
      rw [hcontent]
    · show merge_types (merge_types scrub.pii_types policy.extra_pii_types) _ = _
      rw [hp.pii_types, hp.extra_pii_types, hcontent]
      rfl
  · intro h s₀ e s hL hunbound
    refine llm_failed_governed e hL fun h s₀ e s hL => ⟨hL, ?_⟩
    exact fun pr' ha => hunbound (hp.admitted_iff.mp ha).2

theorem run_governed (hg : A.guardrails = standard U) (hJ : A.env.jose.Uniform)
    (hblind : A.adapter.Blind) (hsub : Submits request inp) :
    GovernedSafe I B A.env request (ReturnsGoverned U B A request) (RaisesRefused U B A request)
      [] s₀ (run A workflow_id i inp) s := by
  have hbelow : AgentTaskWorkflow.exceeds_threshold inp = .ok false := by
    obtain ⟨d, hd, hgt⟩ := hsub.projected_spend
    unfold AgentTaskWorkflow.exceeds_threshold
    rw [hd]
    exact hgt
  refine Co.Safe.handle_bind ((before_gate_governed hg hJ hsub rfl).mono (fun _ _ _ _ hc => hc) ?_
    (fun _ _ _ _ hx => hx))
  rintro h s₀ ⟨scrub, policy, token⟩ s ⟨pr, hp⟩
  refine Co.Safe.handle_bind (Co.Safe.handle_lift_returns (Returns.ofExcept hbelow ?_))
  exact after_gate_governed hg hJ hblind hsub hp

end

end Durable

/-! ## The two pipelines -/

/-- The activities of a worker with the collaborators of an orchestrator. -/
def Orchestrator.activities (O : Orchestrator Tok) : AegisActivities Tok :=
  ⟨O.env, O.guardrails, O.adapter⟩

/-- A result of the orchestrator and an output of the workflow say the same ... -/
structure SameResult (result : OrchestratorResult Tok) (out : WorkflowOutput) : Prop where
  sanitized_prompt : result.sanitized_prompt = out.sanitized_prompt
  content : result.response.content = out.content
  tokens_used : result.response.tokens_used = out.tokens_used
  model : result.response.model = out.model

/-- ... and so does the response of the endpoint, with the labels in the same order, each once. -/
structure SameResponse (response : TaskResponse Tok) (out : WorkflowOutput) : Prop where
  message : response.message = out.content
  tokens_used : response.tokens_used = out.tokens_used
  model : response.model = out.model
  pii_found : response.pii_found = out.pii_types
  nodup : out.pii_types.Nodup

/-- Two runs that have ended agree: they have asked the adapter the same, and both have completed,
with results that say the same, or neither has. -/
structure Agree {σ σ' Q Q' α β : Type} {R : Q → Type} {R' : Q' → Type} (Same : α → β → Prop)
    (sent sent' : List (LLMRequest Unit)) (pt : Co.Point σ Exc Q R α) (pt' : Co.Point σ' Exc Q' R' β) :
    Prop where
  sent : sent = sent'
  completed : (∃ a, pt = .done a) ↔ ∃ b, pt' = .done b
  same : ∀ a b, pt = .done a → pt' = .done b → Same a b

section
variable {ι : Type} {U : Unicode} {B : Outside} {O : Orchestrator Tok} {request : TaskRequest}

/-- A run that ends as `ReturnsGoverned` and `RaisesRefused` say agrees with one of the workflow. -/
theorem agree_of_governed {α : Type} {P : PolicyResult → α → Prop} {Same : α → WorkflowOutput → Prop}
    {I : World Tok → World Tok → Prop} {J : Worker Tok ι → Worker Tok ι → Prop}
    {c : Co.Conf (World Tok) Exc (OrchCall Tok) OrchCall.Answer α}
    {d : Co.Conf (Worker Tok ι) Exc (DurableCall Tok) DurableCall.Answer WorkflowOutput}
    (hc : Co.StopOk (Co.awaitEnv I (Orchestrator.Behaves B O.env request)) (fun _ _ _ _ => True)
      (Orchestrator.ReturnsGoverned U B O request P) (Orchestrator.RaisesRefused U B O request)
      c.hist c.seg c.point c.stop)
    (hd : Co.StopOk (Co.awaitEnv J (Durable.Behaves B O.env request)) (fun _ _ _ _ => True)
      (Durable.ReturnsGoverned U B O.activities request)
      (Durable.RaisesRefused U B O.activities request) d.hist d.seg d.point d.stop)
    (hsame : ∀ pr a out, P pr a → Durable.Outputs U B request pr out → Same a out)
    (hcend : c.point.awaited = none) (hdend : d.point.awaited = none) :
    Agree Same (Orchestrator.asked c.hist) (Durable.asked d.hist) c.point d.point := by
  obtain ⟨hist, seg, stop, point, state⟩ := c
  obtain ⟨hist', seg', stop', point', state'⟩ := d
  cases point with
  | waiting q k => cases hcend
  | done a =>
      obtain ⟨pr, ha, hasked, hp⟩ := hc
      cases point' with
      | waiting q k => cases hdend
      | done out =>
          obtain ⟨pr', ha', hasked', hout⟩ := hd
          obtain rfl : pr = pr' := ha.unique ha'
          refine ⟨hasked.trans hasked'.symm, ⟨fun _ => ⟨out, rfl⟩, fun _ => ⟨a, rfl⟩⟩, ?_⟩
          rintro _ _ ⟨⟩ ⟨⟩
          exact hsame pr a out hp hout
      | failed e => exact absurd ha (hd.2 pr)
  | failed e =>
      cases point' with
      | waiting q k => cases hdend
      | done out =>
          obtain ⟨pr', ha', -, -⟩ := hd
          exact absurd ha' (hc.2 pr')
      | failed e' =>
          refine ⟨hc.1.trans hd.1.symm, ⟨?_, ?_⟩, ?_⟩
          · rintro ⟨_, ⟨⟩⟩
          · rintro ⟨_, ⟨⟩⟩
          · rintro _ _ ⟨⟩

theorem sameResult_of_governed {pr : PolicyResult} {result : OrchestratorResult Tok}
    {out : WorkflowOutput} (hr : Orchestrator.Governed U B request pr result)
    (hout : Durable.Outputs U B request pr out) : SameResult result out where
  sanitized_prompt := hr.sanitized_prompt.trans hout.sanitized_prompt.symm
  content := by rw [hr.response, hout.content]
  tokens_used := by rw [hr.response, hout.tokens_used]
  model := by rw [hr.response, hout.model]

theorem sameResponse_of_responds {pr : PolicyResult} {response : TaskResponse Tok}
    {out : WorkflowOutput} (hr : Router.Responds U B request pr response)
    (hout : Durable.Outputs U B request pr out) : SameResponse response out where
  message := hr.message.trans hout.content.symm
  tokens_used := hr.tokens_used.trans hout.tokens_used.symm
  model := hr.model.trans hout.model.symm
  pii_found := hr.pii_found.trans hout.pii_types.symm
  nodup := by
    rw [hout.pii_types]
    exact merge_types_nodup (sanitised_nodup request pr) _

/-- **The two pipelines agree.**  A run of the orchestrator, a run of it behind the endpoint and a run
of the workflow, for one request and each in a state and an environment of its own: when they have
ended, they have asked the adapter the same, all have completed or none has, and what they return
says the same. -/
theorem pipelines_agree [DecidableEq ι] {workflow_id : Option String} {i : ι} {inp : WorkflowInput}
    (hg : O.guardrails = standard U) (hJ : O.env.jose.Uniform) (hblind : O.adapter.Blind)
    (hmeta : request.metadata = []) (hsub : Submits request inp)
    {I I' : World Tok → World Tok → Prop} {J : Worker Tok ι → Worker Tok ι → Prop}
    {w w' : World Tok} {s : Worker Tok ι}
    {c : Co.Conf (World Tok) Exc (OrchCall Tok) OrchCall.Answer (OrchestratorResult Tok)}
    {t : Co.Conf (World Tok) Exc (OrchCall Tok) OrchCall.Answer (TaskResponse Tok)}
    {d : Co.Conf (Worker Tok ι) Exc (DurableCall Tok) DurableCall.Answer WorkflowOutput}
    (hc : Co.Conf.Reachable I (Orchestrator.Behaves B O.env request)
      (O.run (Router.orchestrator_request request)) w c) (hcend : c.point.awaited = none)
    (ht : Co.Conf.Reachable I' (Orchestrator.Behaves B O.env request)
      (Router.route_task (some O) request) w' t) (htend : t.point.awaited = none)
    (hd : Co.Conf.Reachable J (Durable.Behaves B O.env request)
      (Durable.run O.activities workflow_id i inp) s d) (hdend : d.point.awaited = none) :
    Agree SameResult (Orchestrator.asked c.hist) (Durable.asked d.hist) c.point d.point ∧
      Agree SameResponse (Orchestrator.asked t.hist) (Durable.asked d.hist) t.point d.point := by
  have hcgood := Co.Conf.good_of_reachable (Orchestrator.run_governed (U := U) hg hJ hblind hmeta w w) hc
  have htgood := Co.Conf.good_of_reachable (Router.route_task_governed (U := U) hg hJ hblind hmeta w') ht
  have hdgood := Co.Conf.good_of_reachable
    (Durable.run_governed (U := U) (A := O.activities) hg hJ hblind hsub) hd
  exact ⟨agree_of_governed hcgood.stopOk hdgood.stopOk (fun _ _ _ => sameResult_of_governed) hcend hdend,
    agree_of_governed htgood.stopOk hdgood.stopOk (fun _ _ _ => sameResponse_of_responds) htend hdend⟩

end

/-! ### A task in which addresses are found -/

def addressTask : TaskRequest where
  task_id := ⟨"task-0"⟩
  prompt := "reach me at a@b.org"
  requester_id := "client"
  prompt_length := by decide
  requester_id_length := by decide

def addressInput : WorkflowInput where
  task_id := "task-0"
  prompt := "reach me at a@b.org"
  agent_type := "general"
  requester_id := "client"

/-- An engine that asks for the prompt to be masked once more, and an adapter that answers with an
address. -/
def addressOutside : Outside where
  policy := fun _ _ => .ok { allowed := true, action := "mask", fields := ["prompt"] }
  adapter := fun req => ⟨"write to c@d.org", 7, req.model, "openai", "stop"⟩

/-- A world whose clock stands still. -/
def stillWorld : World SymToken :=
  World.fresh {} (.still 0) Durable.lateIds

theorem stillWorld_canIssue :
    CanIssue maskingOrchestrator.env addressTask stillWorld.session_mgr where
  ids := FreshIds.fresh _ _ Durable.lateIds_injective
  in_time := by decide +kernel
  pairs := by
    intro h
    cases h

theorem addressInput_submits : Submits addressTask addressInput where
  task_id := by decide
  prompt := rfl
  agent_type := rfl
  requester_id := rfl
  model := rfl
  max_tokens := rfl
  temperature := rfl
  system_prompt := rfl
  protect_outbound_request := rfl
  no_budget := rfl
  projected_spend := ⟨.fin 0, rfl, by decide +kernel⟩

/-- The environments: every await finds a fresh world. -/
def addressOracle : Co.Oracle (World SymToken) Exc (OrchCall SymToken) OrchCall.Answer where
  drift := fun _ _ => stillWorld
  reply := fun q _ => match q with
    | .evaluate policy_name input => addressOutside.policy policy_name input
    | .complete req => .ok (addressOutside.adapter req.bare)

def addressDurableOracle :
    Co.Oracle (Worker SymToken Unit) Exc (DurableCall SymToken) DurableCall.Answer where
  drift := fun _ s => { s with world := stillWorld }
  reply := fun q _ => match q with
    | .schedule _ => .ok ("1" : String)
    | .io q => addressOracle.reply q stillWorld
    | .report _ _ _ => .ok ()
    | .backoff _ _ => .ok ()
    | .wait_condition _ => .ok ()

theorem addressOracle_answers (q : OrchCall SymToken) (w : World SymToken) :
    addressOutside.Answers q (addressOracle.reply q w) := by
  cases q <;> rfl

theorem addressDurableOracle_behaves (q : DurableCall SymToken) (s : Worker SymToken Unit) :
    Durable.Behaves addressOutside maskingOrchestrator.env addressTask q
      (addressDurableOracle.reply q (addressDurableOracle.drift q s))
      (addressDurableOracle.drift q s) := by
  cases q with
  | io q => exact ⟨addressOracle_answers q stillWorld, stillWorld_canIssue⟩
  | wait_condition t => trivial
  | _ => exact ⟨rfl, stillWorld_canIssue⟩

theorem addressOracle_behaves (q : OrchCall SymToken) (w : World SymToken) :
    Orchestrator.Behaves addressOutside maskingOrchestrator.env addressTask q
      (addressOracle.reply q (addressOracle.drift q w)) (addressOracle.drift q w) :=
  ⟨addressOracle_answers q stillWorld, stillWorld_canIssue⟩

/-- Both pipelines complete the task, with the same result. -/
theorem address_task_agrees : ∃ result response out,
    (∃ c, Co.Conf.Reachable (fun _ _ => True)
      (Orchestrator.Behaves addressOutside maskingOrchestrator.env addressTask)
      (maskingOrchestrator.run (Router.orchestrator_request addressTask)) stillWorld c ∧
      c.point = .done result) ∧
    (∃ t, Co.Conf.Reachable (fun _ _ => True)
      (Orchestrator.Behaves addressOutside maskingOrchestrator.env addressTask)
      (Router.route_task (some maskingOrchestrator) addressTask) stillWorld t ∧
      t.point = .done response) ∧
    (∃ d, Co.Conf.Reachable (fun _ _ => True)
      (Durable.Behaves addressOutside maskingOrchestrator.env addressTask)
      (Durable.run maskingOrchestrator.activities (some "task-0") () addressInput)
      ⟨stillWorld, fun _ => {}⟩ d ∧ d.point = .done out) ∧
    SameResult result out ∧ SameResponse response out := by
  obtain ⟨c, result, hc, hcdone⟩ := Co.Conf.reachable_done (I := fun _ _ => True)
    (fun _ _ => .single trivial) addressOracle_behaves
    (p := maskingOrchestrator.run (Router.orchestrator_request addressTask)) (s := stillWorld)
    (by decide +kernel)
  obtain ⟨t, response, ht, htdone⟩ := Co.Conf.reachable_done (I := fun _ _ => True)
    (fun _ _ => .single trivial) addressOracle_behaves
    (p := Router.route_task (some maskingOrchestrator) addressTask) (s := stillWorld)
    (by decide +kernel)
  obtain ⟨d, out, hd, hddone⟩ := Co.Conf.reachable_done (I := fun _ _ => True)
    (fun _ _ => .single trivial) addressDurableOracle_behaves
    (p := Durable.run maskingOrchestrator.activities (some "task-0") () addressInput)
    (s := ⟨stillWorld, fun _ => {}⟩) (by decide +kernel)
  obtain ⟨hrun, htask⟩ := pipelines_agree (U := asciiTables) rfl symbolicJose_uniform
    (fun _ _ _ => rfl) rfl addressInput_submits hc (by rw [hcdone]; rfl) ht (by rw [htdone]; rfl)
    hd (by rw [hddone]; rfl)
  exact ⟨result, response, out, ⟨c, hc, hcdone⟩, ⟨t, ht, htdone⟩, ⟨d, hd, hddone⟩,
    hrun.same result out hcdone hddone, htask.same response out htdone hddone⟩

end AegisOs
