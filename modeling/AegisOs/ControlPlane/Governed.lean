/-
# `AegisOs.ControlPlane.Governed` — what the governance loop does, once

The governance loop is written twice, as `Orchestrator.run` behind `route_task`
and as `AgentTaskWorkflow.run` with its activities.  Here is what either is
for, without a state: `Admitted` says which requests go to the adapter, and
`sanitised` with which prompt and labels.  The in-process pipeline does that
(`Orchestrator.run_governed`, `Router.route_task_governed`), in every
environment in which

* the policy engine and the adapter behave as functions (`Outside`),
* tokens can be issued whenever the run goes on (`CanIssue`).

Nothing is assumed of what others do to the state meanwhile.
-/
import AegisOs.ControlPlane.Router
import AegisOs.ControlPlane.Egress
import AegisOs.Governance.Issuance

namespace AegisOs

open Lib Lib.EState Guardrails

variable {Tok : Type}

/-! ## Labels -/

theorem merge_types_append (a b c : List String) :
    merge_types a (b ++ c) = merge_types (merge_types a b) c := List.foldl_append

theorem merge_types_nodup {a : List String} (ha : a.Nodup) (b : List String) :
    (merge_types a b).Nodup := by
  induction b generalizing a with
  | nil => exact ha
  | cons t b ih =>
      show (merge_types (if t ∈ a then a else a ++ [t]) b).Nodup
      split
      · exact ih ha
      · rename_i hnew
        refine ih (List.nodup_append.mpr ⟨ha, List.nodup_singleton t, ?_⟩)
        intro x hx y hy hxy
        rw [List.mem_singleton.mp hy] at hxy
        exact hnew (hxy ▸ hx)

/-- Labels that are all new are appended. -/
theorem merge_types_of_nodup {a b : List String} (h : (a ++ b).Nodup) : merge_types a b = a ++ b := by
  induction b generalizing a with
  | nil => exact (List.append_nil a).symm
  | cons t b ih =>
      have hnew : t ∉ a := by
        intro ht
        exact (List.nodup_append.mp h).2.2 t ht t (List.mem_cons_self ..) rfl
      have hrest : (a ++ [t] ++ b).Nodup := by
        rw [List.append_assoc]
        exact h
      show merge_types (if t ∈ a then a else a ++ [t]) b = _
      rw [if_neg hnew, ih hrest, List.append_assoc]
      rfl

theorem dict_fromkeys_append {a : List String} (ha : a.Nodup) (b : List String) :
    dict_fromkeys (a ++ b) = merge_types a b := by
  have ha' : merge_types [] a = a := merge_types_of_nodup ha
  unfold dict_fromkeys
  rw [merge_types_append, ha']

/-! ## What a request comes to -/

/-- A request to the adapter without its credentials. -/
def LLMRequest.bare (req : LLMRequest Tok) : LLMRequest Unit where
  prompt := req.prompt
  model := req.model
  max_tokens := req.max_tokens
  temperature := req.temperature
  system_prompt := req.system_prompt
  aegis_token := ()

/-- The policy engine, and an adapter whose calls succeed; neither looks at credentials. -/
structure Outside where
  policy : String → PolicyInput → Except Exc PolicyResult
  adapter : LLMRequest Unit → LLMResponse

/-- What they answer. -/
def Outside.Answers (B : Outside) : (q : OrchCall Tok) → Except Exc q.Answer → Prop
  | .evaluate policy_name input, r => r = B.policy policy_name input
  | .complete req, r => r = .ok (B.adapter req.bare)

section
variable (U : Unicode)

/-- A text that has been scrubbed `n` times ... -/
def wiped : ℕ → String → String
  | 0, text => text
  | n + 1, text => wiped n (masked U text).text

/-- ... and what was found in it, scrub by scrub. -/
def spotted : ℕ → String → List String
  | 0, _ => []
  | n + 1, text => (masked U text).found_types ++ spotted n (masked U text).text

/-- A mask result whose text is scrubbed `n` times more. -/
def scrubbed (n : ℕ) (m : MaskResult) : MaskResult :=
  ⟨wiped U n m.text, merge_types m.found_types (spotted U n m.text)⟩

/-- The question the policy engine is asked about a request without metadata. -/
def policy_question (request : TaskRequest) : PolicyInput where
  agent_type := request.agent_type.value
  requester_id := request.requester_id
  action := "llm.complete"
  resource := "model:" ++ request.model

/-- What the adapter is asked on behalf of a request, but for the credentials. -/
def asking (request : TaskRequest) (prompt : String) : LLMRequest Unit where
  prompt := prompt
  model := request.model
  max_tokens := request.max_tokens
  temperature := request.temperature
  system_prompt := request.system_prompt
  aegis_token := ()

/-- The prompt that goes to the adapter when the policy engine has answered `pr`, with all that was
found in it. -/
def sanitised (request : TaskRequest) (pr : PolicyResult) : MaskResult :=
  scrubbed U (Orchestrator.rescrubs pr) (masked U request.prompt)

def outbound (request : TaskRequest) (pr : PolicyResult) : LLMRequest Unit :=
  asking request (sanitised U request pr).text

/-- The adapter names the endpoint of such a request ... -/
def Bindable (adapter : Adapter Tok) (req : LLMRequest Unit) : Prop :=
  ∃ req' : LLMRequest Tok, req'.bare = req ∧ adapter.outbound_request_binding req' ≠ none

/-- ... whatever its credentials. -/
def Adapter.Blind (adapter : Adapter Tok) : Prop :=
  ∀ req req', req.bare = req'.bare →
    adapter.outbound_request_binding req = adapter.outbound_request_binding req'

/-- A request that goes to the adapter: no injection is found, the policy engine lets it through with
the answer `pr`, tokens can be signed, and a protected call has an endpoint to be bound to. -/
structure Admitted (B : Outside) (E : Env Tok) (adapter : Adapter Tok) (request : TaskRequest)
    (pr : PolicyResult) : Prop where
  uninjected : injection U request.prompt = none
  policy : B.policy "agent_access" (policy_question request) = .ok pr
  allowed : pr.allowed = true
  not_rejected : pr.action ≠ "reject"
  keys : KeysMatch E
  bound : request.protect_outbound_request = true → Bindable adapter (outbound U request pr)

/-- Tokens can be issued: eight readings of the clock are enough for any of the pipelines' stages. -/
def CanIssue (E : Env Tok) (request : TaskRequest) (s : SessionManager Tok) : Prop :=
  Able E request.protect_outbound_request 8 s

variable {U}

theorem Admitted.unique {B : Outside} {E : Env Tok} {adapter : Adapter Tok} {request : TaskRequest}
    {pr pr' : PolicyResult} (h : Admitted U B E adapter request pr)
    (h' : Admitted U B E adapter request pr') : pr = pr' :=
  Except.ok.inj (h.policy.symm.trans h'.policy)

theorem Bindable.binding {adapter : Adapter Tok} (hblind : adapter.Blind) {req : LLMRequest Tok}
    (h : Bindable adapter req.bare) : ∃ binding, adapter.outbound_request_binding req = some binding := by
  obtain ⟨req', hbare, hbinding⟩ := h
  rw [← hblind req' req hbare]
  exact Option.ne_none_iff_exists'.mp hbinding

theorem sanitised_nodup (request : TaskRequest) (pr : PolicyResult) :
    (sanitised U request pr).found_types.Nodup :=
  merge_types_nodup (masked_nodup _) _

theorem check_prompt_injection_ok {text : String} (h : injection U text = none) :
    (standard U).check_prompt_injection text = .ok () := by
  simp [standard, h]

theorem uninjected_of_check {text : String} (h : (standard U).check_prompt_injection text = .ok ()) :
    injection U text = none := by
  cases hi : injection U text with
  | none => rfl
  | some p =>
      simp [standard, hi] at h

end

/-! ## The in-process pipeline -/

namespace Orchestrator

/-- What the answered calls have asked the adapter. -/
def asked (h : Answered Tok) : List (LLMRequest Unit) :=
  h.filterMap fun x => match x.1 with
    | .complete req => some req.bare
    | .evaluate _ _ => none

theorem asked_evaluate (h : Answered Tok) (policy_name : String) (input : PolicyInput)
    (r : Except Exc PolicyResult) : asked (h ++ [⟨.evaluate policy_name input, r⟩]) = asked h := by
  simp [asked, List.filterMap_append]

theorem asked_complete (h : Answered Tok) (req : LLMRequest Tok) (r : Except Exc LLMResponse) :
    asked (h ++ [⟨.complete req, r⟩]) = asked h ++ [req.bare] := by
  simp [asked, List.filterMap_append]

section
variable {U : Unicode} {O : Orchestrator Tok} {rq : OrchestratorRequest Tok} {task_id : Uuid}
  {w w' : World Tok}

theorem returns_log {P : Unit → World Tok → Prop} {event : AuditEvent}
    (h : ∀ w', OnlyAudit w w' → P () w') : Returns P (log event) w :=
  Returns.modify (h _ (onlyAudit_log event w))

theorem returns_span_stage {α : Type} {P : α → World Tok → Prop} {span task agent : String}
    {m : WM Tok α} (h : Returns P m w) : Returns P (span_stage span task agent m) w :=
  Returns.catching h

theorem returns_pre_sanitize (hg : O.guardrails = standard U) (hno : injection U rq.prompt = none) :
    Returns (fun m _ => m = masked U rq.prompt) (pre_sanitize O rq task_id) w := by
  unfold pre_sanitize
  rw [hg]
  refine returns_span_stage (Returns.bind (Returns.ofExcept (check_prompt_injection_ok hno) ?_))
  refine Returns.bind (Returns.ofExcept rfl (Returns.bind (returns_log fun _ _ => ?_)))
  exact Returns.pure rfl

theorem mask_fields_run (fields : List String) : ∀ m : MaskResult,
    mask_fields (standard U) fields m w = .ok (scrubbed U (fields.count "prompt") m) w := by
  induction fields with
  | nil => exact fun m => rfl
  | cons field fields ih =>
      intro m
      unfold mask_fields
      split
      · rename_i hf
        have hguard : guard ((standard U).scrub m.text) w = .ok (masked U m.text) w := rfl
        refine (bind_ok hguard).trans ((ih _).trans ?_)
        rw [hf, List.count_cons_self]
        exact congrArg (fun l => EStateM.Result.ok (MaskResult.mk _ l) w)
          (merge_types_append _ _ _).symm
      · rename_i hf
        exact (ih m).trans (by rw [List.count_cons_of_ne hf])

theorem returns_policy_mask (hg : O.guardrails = standard U) (pr : PolicyResult) (m : MaskResult) :
    Returns (fun m' w' => m' = scrubbed U (rescrubs pr) m ∧ w'.session_mgr = w.session_mgr)
      (policy_mask O rq task_id pr m) w := by
  unfold policy_mask rescrubs
  split
  · rename_i hmask
    rw [hg]
    refine returns_span_stage (Returns.bind ⟨_, w, mask_fields_run pr.fields m, ?_⟩)
    exact Returns.bind (returns_log fun w' hsame => Returns.pure ⟨rfl, hsame.1⟩)
  · exact Returns.pure ⟨rfl, rfl⟩

theorem returns_issue_session_token {protect : Bool} {k : ℕ} (hJ : O.env.jose.Uniform)
    (hkeys : KeysMatch O.env) (hs : Able O.env protect (k + 5) w.session_mgr)
    (hn : ¬(rq.agent_type = "" ∨ rq.requester_id = "")) :
    Returns (fun _ w' => Able O.env protect k w'.session_mgr) (issue_session_token O rq task_id) w := by
  have hissue := returns_issue_token (k := k + 3) (a := fresh_token_args rq task_id) hJ hkeys hs hn rfl
    ⟨_, rfl⟩
  refine Returns.bind (Returns.zoom (hissue.mono ?_))
  rintro token s₁ ⟨hs₁, hlive⟩
  refine Returns.bind (Returns.zoom ((returns_validate_token hs₁ hlive).mono ?_))
  intro c s₂ hs₂
  refine Returns.bind (returns_log fun w' hsame => Returns.pure ?_)
  rw [hsame.1]
  exact hs₂

theorem keysMatch_of_issue_session_token {token : Tok}
    (h : issue_session_token O rq task_id w = .ok token w') : KeysMatch O.env := by
  obtain ⟨t, w₁, hi, h₁⟩ := bind_eq_ok.mp h
  obtain ⟨s₁, hissue, -⟩ := on_session_mgr_eq_ok.mp hi
  obtain ⟨c, w₂, hv, h₂⟩ := bind_eq_ok.mp h₁
  obtain ⟨s₂, hvalid, -⟩ := on_session_mgr_eq_ok.mp hv
  exact keysMatch_of_accepted hissue ⟨c, s₂, hvalid⟩

theorem returns_protect_outbound {text : String} {token : Tok} (hJ : O.env.jose.Uniform)
    (hkeys : KeysMatch O.env) (hblind : O.adapter.Blind)
    (hbind : Bindable O.adapter (llm_request rq text token none).bare)
    (hs : Able O.env true 3 w.session_mgr) (hn : ¬(rq.agent_type = "" ∨ rq.requester_id = "")) :
    Returns (fun _ _ => True) (protect_outbound O rq task_id text token) w := by
  obtain ⟨⟨http_method, http_url⟩, hbinding⟩ := hbind.binding hblind
  unfold protect_outbound
  rw [hbinding]
  refine Returns.bind (Returns.zoom ((returns_generate_dpop_key_pair hs).mono ?_))
  rintro ⟨private_key_pem, public_jwk⟩ s₁ ⟨hpair, hs₁⟩
  refine Returns.bind (Returns.zoom
    ((returns_issue_token (k := 1) hJ hkeys hs₁ hn rfl hpair.confirmation).mono ?_))
  rintro adapter_token s₂ ⟨hs₂, hlive⟩
  refine Returns.bind (Returns.zoom ((returns_issue_dpop_proof hpair hlive).mono ?_))
  intro proof s₃ hlive₃
  obtain ⟨c, s₄, hvalid⟩ := hlive₃.accepts
  refine Returns.bind (Returns.zoom ⟨c, s₄, hvalid, ?_⟩)
  exact Returns.bind (returns_log fun _ _ => Returns.pure trivial)

theorem bindable_of_protect_outbound {text : String} {token : Tok} {r : Tok × Option Tok}
    (h : protect_outbound O rq task_id text token w = .ok r w') :
    Bindable O.adapter (llm_request rq text token none).bare := by
  refine ⟨_, rfl, ?_⟩
  intro hnone
  unfold protect_outbound at h
  rw [hnone] at h
  cases h

end

/-! ### A request of the endpoint -/

section
variable {U : Unicode} {B : Outside} {O : Orchestrator Tok} {request : TaskRequest} {task_id : Uuid}
  {w w' : World Tok} {text : String}

theorem request_named (request : TaskRequest) :
    ¬(request.agent_type.value = "" ∨ request.requester_id = "") := by
  rintro (hagent | hrequester)
  · cases hr : request.agent_type <;> rw [hr] at hagent <;> simp [AgentType.value] at hagent
  · have := request.requester_id_length.1
    rw [hrequester] at this
    simp at this

/-- A request of the endpoint carries no token. -/
theorem session_token_route_task : session_token O (Router.orchestrator_request request) task_id =
    issue_session_token O (Router.orchestrator_request request) task_id := rfl

theorem returns_jit_token_issue (hJ : O.env.jose.Uniform) (hkeys : KeysMatch O.env)
    (hblind : O.adapter.Blind)
    (hbind : request.protect_outbound_request = true → Bindable O.adapter (asking request text))
    (hs : CanIssue O.env request w.session_mgr) :
    Returns (fun _ _ => True) (jit_token_issue O (Router.orchestrator_request request) task_id text) w := by
  rw [jit_token_issue_steps, session_token_route_task]
  refine returns_span_stage (Returns.bind
    ((returns_issue_session_token (k := 3) hJ hkeys hs (request_named request)).mono ?_))
  intro token w₁ hs₁
  unfold adapter_credentials
  split
  · rename_i hprotect
    have hb : Bindable O.adapter
        (llm_request (Router.orchestrator_request request) text token none).bare := hbind hprotect
    rw [show request.protect_outbound_request = true from hprotect] at hs₁
    refine Returns.bind
      ((returns_protect_outbound hJ hkeys hblind hb hs₁ (request_named request)).mono ?_)
    exact fun r w₂ _ => Returns.pure trivial
  · exact Returns.pure trivial

theorem jit_token_issue_admits {r : Tok × Tok × Option Tok}
    (h : jit_token_issue O (Router.orchestrator_request request) task_id text w = .ok r w') :
    KeysMatch O.env ∧
      (request.protect_outbound_request = true → Bindable O.adapter (asking request text)) := by
  rw [jit_token_issue_steps, session_token_route_task, span_stage_eq_ok] at h
  obtain ⟨token, w₁, hissue, h₁⟩ := bind_eq_ok.mp h
  refine ⟨keysMatch_of_issue_session_token hissue, ?_⟩
  intro hprotect
  unfold adapter_credentials at h₁
  rw [if_pos (show (Router.orchestrator_request request).protect_outbound_request = true
    from hprotect)] at h₁
  obtain ⟨_, w₂, hp, _⟩ := bind_eq_ok.mp h₁
  exact bindable_of_protect_outbound hp

theorem budget_session_eq : budget_session O (Router.orchestrator_request request) = none := by
  unfold budget_session
  split <;> rfl

theorem watchdog_pre_llm_eq :
    watchdog_pre_llm O (Router.orchestrator_request request) task_id = pure () := by
  unfold watchdog_pre_llm
  rw [budget_session_eq]

theorem returns_before_llm (hg : O.guardrails = standard U) (hJ : O.env.jose.Uniform)
    (hblind : O.adapter.Blind) {pr : PolicyResult} (ha : Admitted U B O.env O.adapter request pr)
    (hs : CanIssue O.env request w.session_mgr) :
    Returns (fun r _ => r.1 = sanitised U request pr)
      (before_llm O (Router.orchestrator_request request) task_id pr (masked U request.prompt)) w := by
  unfold before_llm
  simp only [watchdog_pre_llm_eq]
  refine Returns.bind ((returns_policy_mask hg pr _).mono ?_)
  rintro _ w₁ ⟨rfl, hsame⟩
  rw [← hsame] at hs
  refine Returns.bind ((returns_jit_token_issue hJ ha.keys hblind ha.bound hs).mono ?_)
  exact fun _ w₂ _ => Returns.bind (Returns.pure (Returns.pure rfl))

/-- What lies between the awaits raises when the request may not go on. -/
theorem before_llm_admits (hg : O.guardrails = standard U) {pr : PolicyResult}
    {r : MaskResult × Tok × Tok × Option Tok}
    (h : before_llm O (Router.orchestrator_request request) task_id pr (masked U request.prompt) w =
      .ok r w') :
    KeysMatch O.env ∧
      (request.protect_outbound_request = true → Bindable O.adapter (outbound U request pr)) := by
  obtain ⟨m, w₁, hmask, h₁⟩ := bind_eq_ok.mp h
  have hreturns : Returns _ (policy_mask O (Router.orchestrator_request request) task_id pr
    (masked U request.prompt)) w := returns_policy_mask hg pr _
  obtain ⟨m', w₂, hmask', rfl, -⟩ := hreturns
  rw [hmask] at hmask'
  cases hmask'
  obtain ⟨_, w₃, hjit, _⟩ := bind_eq_ok.mp h₁
  exact jit_token_issue_admits hjit

/-- What `run` returns for a request that was admitted with `pr`. -/
structure Governed (U : Unicode) (B : Outside) (request : TaskRequest) (pr : PolicyResult)
    (r : OrchestratorResult Tok) : Prop where
  sanitized_prompt : r.sanitized_prompt = (sanitised U request pr).text
  pii_found_in_prompt : r.pii_found_in_prompt = (sanitised U request pr).found_types
  response : r.response = { B.adapter (outbound U request pr) with
    content := (masked U (B.adapter (outbound U request pr)).content).text }
  pii_found_in_response :
    r.pii_found_in_response = (masked U (B.adapter (outbound U request pr)).content).found_types

theorem returns_after_llm (hg : O.guardrails = standard U) (pr : PolicyResult) (token : Tok) :
    Returns (fun r _ => Governed U B request pr r)
      (after_llm O (Router.orchestrator_request request) task_id (sanitised U request pr) token
        (B.adapter (outbound U request pr))) w := by
  have hspend : ∀ resp, watchdog_record_spend O (Router.orchestrator_request request) task_id resp =
      pure () := by
    intro resp
    unfold watchdog_record_spend
    rw [budget_session_eq]
  have hloop : ∀ resp, watchdog_loop_detect O (Router.orchestrator_request request) task_id resp =
      pure () := by
    intro resp
    unfold watchdog_loop_detect
    cases O.loop_wired <;> rfl
  unfold after_llm
  rw [hspend, hloop]
  refine Returns.bind (Returns.pure (Returns.bind (Returns.pure (Returns.bind ?_))))
  unfold post_sanitize
  rw [hg]
  refine returns_span_stage (Returns.bind (Returns.ofExcept rfl ?_))
  exact Returns.bind (returns_log fun _ _ => Returns.pure (Returns.pure ⟨rfl, rfl, rfl, rfl⟩))

/-- The environment of a run: whenever it goes on, with an answer of the policy engine or of the
adapter, tokens can be issued. -/
def Behaves (B : Outside) (E : Env Tok) (request : TaskRequest) (q : OrchCall Tok)
    (r : Except Exc q.Answer) (w : World Tok) : Prop :=
  B.Answers q r ∧ CanIssue E request w.session_mgr

/-- How a run ends: it has asked the adapter once, for a request that was admitted, ... -/
def ReturnsGoverned (U : Unicode) (B : Outside) (O : Orchestrator Tok) (request : TaskRequest)
    {α : Type} (P : PolicyResult → α → Prop) (h : Answered Tok) (_ : World Tok) (a : α)
    (_ : World Tok) : Prop :=
  ∃ pr, Admitted U B O.env O.adapter request pr ∧ asked h = [outbound U request pr] ∧ P pr a

/-- ... or never, for one that was not. -/
def RaisesRefused (U : Unicode) (B : Outside) (O : Orchestrator Tok) (request : TaskRequest)
    (h : Answered Tok) (_ : World Tok) (_ : Exc) (_ : World Tok) : Prop :=
  asked h = [] ∧ ∀ pr, ¬Admitted U B O.env O.adapter request pr

theorem policy_input_eq (hmeta : request.metadata = []) :
    policy_input (Router.orchestrator_request request : OrchestratorRequest Tok) =
      policy_question request := by
  unfold policy_input policy_question Router.orchestrator_request
  rw [hmeta]

/-- An admitted request is sent, and answered. -/
theorem llm_invoke_governed {I : World Tok → World Tok → Prop} (hg : O.guardrails = standard U)
    {pr : PolicyResult} (ha : Admitted U B O.env O.adapter request pr) {token adapter_token : Tok}
    {proof : Option Tok} {h : Answered Tok} (hL : asked h = []) (w₀ w : World Tok) :
    Co.Safe (Co.awaitEnv I (Behaves B O.env request)) (fun _ _ _ _ => True)
      (ReturnsGoverned U B O request (Governed U B request)) (RaisesRefused U B O request) h w₀ (do
        let llm_response ← llm_invoke (Router.orchestrator_request request) task_id
          (sanitised U request pr).text adapter_token proof
        Co.lift (after_llm O (Router.orchestrator_request request) task_id (sanitised U request pr)
          token llm_response)) w := by
  refine Co.Safe.bind (safe_llm_invoke trivial ?_ ?_)
  · intro resp w₁ w₂ henv _
    obtain rfl : resp = B.adapter (outbound U request pr) := Except.ok.inj henv.2.1
    refine Co.Safe.lift_returns ((returns_after_llm hg pr token).mono ?_)
    intro r w₃ hgoverned
    refine ⟨pr, ha, ?_, hgoverned⟩
    rw [asked_complete, hL]
    rfl
  · intro e w₁ e' w₂ henv _
    cases henv.2.1

theorem run_governed {I : World Tok → World Tok → Prop} (hg : O.guardrails = standard U)
    (hJ : O.env.jose.Uniform) (hblind : O.adapter.Blind) (hmeta : request.metadata = [])
    (w₀ w : World Tok) :
    Co.Safe (Co.awaitEnv I (Behaves B O.env request)) (fun _ _ _ _ => True)
      (ReturnsGoverned U B O request (Governed U B request)) (RaisesRefused U B O request)
      [] w₀ (O.run (Router.orchestrator_request request)) w := by
  have hquestion : policy_input (Router.orchestrator_request request : OrchestratorRequest Tok) =
      policy_question request := policy_input_eq hmeta
  unfold run
  by_cases hno : injection U request.prompt = none
  · refine Co.Safe.bind (Co.Safe.lift_returns ((returns_pre_sanitize hg hno).mono ?_))
    rintro _ w₁ rfl
    refine Co.Safe.bind (safe_policy_eval trivial ?_ ?_)
    · intro pr w₂ w₃ henv hallow hreject hsame
      have hpolicy : B.policy "agent_access" (policy_question request) = .ok pr := by
        rw [← hquestion]
        exact henv.2.1.symm
      have hs : CanIssue O.env request w₃.session_mgr := by
        rw [hsame.1]
        exact henv.2.2
      by_cases ha : Admitted U B O.env O.adapter request pr
      · refine Co.Safe.bind (Co.Safe.lift_returns ((returns_before_llm hg hJ hblind ha hs).mono ?_))
        rintro ⟨_, token, adapter_token, proof⟩ w₄ rfl
        exact llm_invoke_governed hg ha (asked_evaluate _ _ _ _) _ _
      · refine Co.Safe.bind (Co.Safe.lift ?_ ?_)
        · intro r w₄ hok
          obtain ⟨hkeys, hbound⟩ := before_llm_admits hg hok
          exact absurd ⟨hno, hpolicy, hallow, hreject, hkeys, hbound⟩ ha
        · intro e w₄ _
          refine ⟨asked_evaluate _ _ _ _, ?_⟩
          intro pr' ha'
          obtain rfl : pr = pr' := Except.ok.inj (hpolicy.symm.trans ha'.policy)
          exact ha ha'
    · intro r w₂ e w₃ henv hrefused _
      refine ⟨asked_evaluate _ _ _ _, ?_⟩
      intro pr ha
      refine hrefused pr ?_ ⟨ha.allowed, ha.not_rejected⟩
      rw [← ha.policy, ← hquestion]
      exact henv.2.1
  · refine Co.Safe.bind (Co.Safe.lift ?_ ?_)
    · intro m w₁ hok
      have hcheck := (pre_sanitize_ok hok).1
      rw [hg] at hcheck
      exact absurd (uninjected_of_check hcheck) hno
    · exact fun e w₁ _ => ⟨rfl, fun pr ha => hno ha.uninjected⟩

end

end Orchestrator

/-! ### Behind the endpoint -/

namespace Router

open Orchestrator (asked Behaves ReturnsGoverned RaisesRefused)

section
variable {U : Unicode} {B : Outside} {O : Orchestrator Tok} {request : TaskRequest}

/-- The response for a request that was admitted with `pr`. -/
structure Responds (U : Unicode) (B : Outside) (request : TaskRequest) (pr : PolicyResult)
    (r : TaskResponse Tok) : Prop where
  message : r.message = (masked U (B.adapter (outbound U request pr)).content).text
  tokens_used : r.tokens_used = (B.adapter (outbound U request pr)).tokens_used
  model : r.model = (B.adapter (outbound U request pr)).model
  pii_found : r.pii_found = merge_types (sanitised U request pr).found_types
    (masked U (B.adapter (outbound U request pr)).content).found_types

theorem responds_of_governed {pr : PolicyResult} {result : OrchestratorResult Tok}
    (h : Orchestrator.Governed U B request pr result) :
    Responds U B request pr (task_response request result) where
  message := congrArg LLMResponse.content h.response
  tokens_used := by
    show result.response.tokens_used = _
    rw [h.response]
  model := by
    show result.response.model = _
    rw [h.response]
  pii_found := by
    show dict_fromkeys (result.pii_found_in_prompt ++ result.pii_found_in_response) = _
    rw [h.pii_found_in_prompt, h.pii_found_in_response]
    exact dict_fromkeys_append (sanitised_nodup request pr) _

theorem route_task_governed {I : World Tok → World Tok → Prop} (hg : O.guardrails = standard U)
    (hJ : O.env.jose.Uniform) (hblind : O.adapter.Blind) (hmeta : request.metadata = [])
    (w : World Tok) :
    Co.Safe (Co.awaitEnv I (Behaves B O.env request)) (fun _ _ _ _ => True)
      (ReturnsGoverned U B O request (Responds U B request)) (RaisesRefused U B O request)
      [] w (route_task (some O) request) w := by
  refine safe_route_task fun w' _ =>
    (Orchestrator.run_governed hg hJ hblind hmeta w w').mono (fun _ _ _ _ hc => hc) ?_ ?_
  · rintro h w₀ result w₁ ⟨pr, ha, hasked, hgoverned⟩ w₂ _
    exact ⟨pr, ha, hasked, responds_of_governed hgoverned⟩
  · exact fun h w₀ e w₁ hrefused status msg w₂ _ => hrefused

end

end Router

end AegisOs
