/-
# `AegisOs.ControlPlane.Pipeline` — no stage of the pipeline can be bypassed

One specification lemma per stage: what is true when it returns.  They are put
together along the run with the rules of `Lib.Co`, against an environment that
may answer an await with anything, an exception included, and may change the
world in any way while the run is suspended.  The assertion at the adapter
call is `AdapterCall`; the assertion at the end is that the content returned
is the masked content of the adapter's answer.
-/
import AegisOs.ControlPlane.Orchestrator

namespace AegisOs.Orchestrator

open Lib Lib.EState

variable {Tok : Type}

/-! ## Inversion of the building blocks -/

theorem stage_error_ne_ok {α : Type} {span task agent : String} {e : Exc} {w w' : World Tok} {a : α} :
    stage_error span task agent e w ≠ .ok a w' := by
  intro h
  unfold stage_error at h
  split at h
  · obtain ⟨_, _, _, hthrow⟩ := bind_eq_ok.mp h
    cases hthrow
  · cases h

theorem token_refused_ne_ok {α : Type} {rq : OrchestratorRequest Tok} {task_id : Uuid}
    {event : String} {e : Exc} {w w' : World Tok} {a : α} :
    token_refused rq task_id event e w ≠ .ok a w' := by
  intro h
  obtain ⟨_, _, _, hthrow⟩ := bind_eq_ok.mp h
  cases hthrow

theorem log_throw_neverReturns {α : Type} {event : AuditEvent} {e : Exc} :
    NeverReturns (log event >>= fun _ => throw e : WM Tok α) := by
  intro w a w' h
  obtain ⟨_, _, _, hthrow⟩ := bind_eq_ok.mp h
  cases hthrow

theorem onlyAudit_stage_error {α : Type} (span task agent : String) (e : Exc) :
    Keeps OnlyAudit (stage_error span task agent e : WM Tok α) := by
  unfold stage_error
  refine Keeps.ite ?_ (Keeps.throw OnlyAudit.refl e)
  exact Keeps.bind OnlyAudit.trans (onlyAudit_log _) fun _ => Keeps.throw OnlyAudit.refl e

theorem span_stage_eq_ok {α : Type} {span task agent : String} {m : WM Tok α} {w w' : World Tok}
    {a : α} : span_stage span task agent m w = .ok a w' ↔ m w = .ok a w' := by
  unfold span_stage
  refine catching_eq_ok_iff_body fun e g hg => ?_
  cases hg
  exact fun _ _ _ => stage_error_ne_ok

theorem guard_eq_ok {α : Type} {x : Except Exc α} {a : α} {w w' : World Tok} :
    guard x w = .ok a w' ↔ x = .ok a ∧ w' = w := by
  cases x with
  | error e => simp [guard]
  | ok b => simp [guard, eq_comm]

theorem guard_eq_error {α : Type} {x : Except Exc α} {e : Exc} {w w' : World Tok} :
    guard x w = .error e w' ↔ x = .error e ∧ w' = w := by
  cases x with
  | error e' => simp [guard, eq_comm]
  | ok b => simp [guard]

theorem on_session_mgr_eq_ok {α : Type} {m : SM Tok α} {a : α} {w w' : World Tok} :
    on_session_mgr m w = .ok a w' ↔
      ∃ s, m w.session_mgr = .ok a s ∧ w' = { w with session_mgr := s } := zoom_eq_ok

theorem on_budget_eq_ok {α : Type} {m : BE α} {a : α} {w w' : World Tok} :
    on_budget m w = .ok a w' ↔
      ∃ b, m w.budget_enforcer = .ok a b ∧ w' = { w with budget_enforcer := b } := zoom_eq_ok

/-! ## Stage 3 in two steps -/

section
variable (O : Orchestrator Tok) (rq : OrchestratorRequest Tok) (task_id : Uuid)

/-- How Stage 3 comes by its session token. -/
def session_token : WM Tok Tok :=
  match supplied_token O rq with
  | some session_token => use_session_token O rq task_id session_token
  | none => issue_session_token O rq task_id

/-- What the adapter is given for a session token: a token and, when it is protected, a proof. -/
def adapter_credentials (sanitized_prompt : String) (token : Tok) : WM Tok (Tok × Tok × Option Tok) :=
  if rq.protect_outbound_request then do
    let (adapter_token, dpop_proof) ← protect_outbound O rq task_id sanitized_prompt token
    return (token, adapter_token, dpop_proof)
  else return (token, token, none)

theorem jit_token_issue_steps (sanitized_prompt : String) :
    jit_token_issue O rq task_id sanitized_prompt =
      span_stage "jit-token-issue" task_id.text rq.agent_type
        (session_token O rq task_id >>= adapter_credentials O rq task_id sanitized_prompt) := by
  unfold jit_token_issue session_token
  cases supplied_token O rq <;> rfl

end

/-! ## What a stage that returned has established -/

section
variable {O : Orchestrator Tok} {rq : OrchestratorRequest Tok} {task_id : Uuid} {w w' : World Tok}

theorem pre_sanitize_ok {m : MaskResult} (h : pre_sanitize O rq task_id w = .ok m w') :
    O.guardrails.check_prompt_injection rq.prompt = .ok () ∧
      O.guardrails.mask_pii rq.prompt = .ok m := by
  unfold pre_sanitize at h
  rw [span_stage_eq_ok] at h
  obtain ⟨_, w₁, hcheck, h₁⟩ := bind_eq_ok.mp h
  obtain ⟨m', w₂, hmask, h₂⟩ := bind_eq_ok.mp h₁
  obtain ⟨_, w₃, _, h₃⟩ := bind_eq_ok.mp h₂
  cases h₃
  exact ⟨(guard_eq_ok.mp hcheck).1, (guard_eq_ok.mp hmask).1⟩

theorem opa_unavailable_ok {e : Exc} {pr : PolicyResult}
    (h : opa_unavailable rq task_id e w = .ok pr w') : False := by
  unfold opa_unavailable at h
  split at h
  · obtain ⟨_, w₁, _, h₁⟩ := bind_eq_ok.mp h
    cases h₁
  · cases h

theorem onlyAudit_opa_unavailable (e : Exc) : Keeps OnlyAudit (opa_unavailable rq task_id e) := by
  unfold opa_unavailable
  refine Keeps.ite ?_ (Keeps.throw OnlyAudit.refl e)
  refine Keeps.bind OnlyAudit.trans (onlyAudit_log _) fun _ => ?_
  exact Keeps.throw OnlyAudit.refl _

theorem policy_decision_ok {pr pr' : PolicyResult}
    (h : policy_decision rq task_id pr w = .ok pr' w') :
    pr' = pr ∧ pr.allowed = true ∧ pr.action ≠ "reject" := by
  unfold policy_decision at h
  split at h
  · obtain ⟨_, w₁, _, h₁⟩ := bind_eq_ok.mp h
    cases h₁
  · rename_i hno
    obtain ⟨_, w₁, _, h₁⟩ := bind_eq_ok.mp h
    cases h₁
    push Not at hno
    exact ⟨rfl, hno⟩

theorem policy_decision_error {pr : PolicyResult} {e : Exc}
    (h : policy_decision rq task_id pr w = .error e w') :
    ¬(pr.allowed = true ∧ pr.action ≠ "reject") := by
  unfold policy_decision at h
  split at h
  · rename_i hrefused
    rintro ⟨hallowed, hreject⟩
    exact hrefused.elim (fun hno => hno hallowed) hreject
  · cases h

theorem onlyAudit_policy_decision (pr : PolicyResult) :
    Keeps OnlyAudit (policy_decision rq task_id pr) := by
  unfold policy_decision
  refine Keeps.ite ?_ ?_
  · refine Keeps.bind OnlyAudit.trans (onlyAudit_log _) fun _ => ?_
    exact Keeps.throw OnlyAudit.refl _
  · refine Keeps.bind OnlyAudit.trans (onlyAudit_log _) fun _ => ?_
    exact Keeps.pure OnlyAudit.refl _

/-- Scrub `n` times. -/
def rescrub (g : Guardrails) : ℕ → String → Except Exc String
  | 0, text => .ok text
  | n + 1, text => do rescrub g n (← g.scrub text).text

/-- How often the policy asks for the prompt to be scrubbed again. -/
def rescrubs (pr : PolicyResult) : ℕ := if pr.action = "mask" then pr.fields.count "prompt" else 0

theorem mask_fields_ok {g : Guardrails} (fields : List String) :
    ∀ {m m' : MaskResult} {w : World Tok}, mask_fields g fields m w = .ok m' w' →
      rescrub g (fields.count "prompt") m.text = .ok m'.text ∧ w' = w := by
  induction fields with
  | nil =>
      intro m m' w h
      cases h
      exact ⟨rfl, rfl⟩
  | cons field fields ih =>
      intro m m' w h
      unfold mask_fields at h
      split at h
      · rename_i hf
        obtain ⟨m₁, w₁, hguard, h₁⟩ := bind_eq_ok.mp h
        obtain ⟨hscrub, rfl⟩ := guard_eq_ok.mp hguard
        obtain ⟨hr, rfl⟩ := ih h₁
        refine ⟨?_, rfl⟩
        rw [hf, List.count_cons_self]
        show (g.scrub m.text >>= fun r => rescrub g (fields.count "prompt") r.text) = _
        rw [hscrub]
        exact hr
      · rename_i hf
        obtain ⟨hr, rfl⟩ := ih h
        refine ⟨?_, rfl⟩
        rw [List.count_cons_of_ne hf]
        exact hr

theorem policy_mask_ok {pr : PolicyResult} {m m' : MaskResult}
    (h : policy_mask O rq task_id pr m w = .ok m' w') :
    rescrub O.guardrails (rescrubs pr) m.text = .ok m'.text ∧ w'.session_mgr = w.session_mgr := by
  unfold policy_mask at h
  unfold rescrubs
  split at h
  · rename_i hmask
    rw [span_stage_eq_ok] at h
    obtain ⟨m₁, w₁, hf, h₁⟩ := bind_eq_ok.mp h
    obtain ⟨_, w₂, hlog, h₂⟩ := bind_eq_ok.mp h₁
    cases hlog
    cases h₂
    obtain ⟨hr, rfl⟩ := mask_fields_ok pr.fields hf
    rw [if_pos hmask]
    exact ⟨hr, rfl⟩
  · rename_i hmask
    cases h
    rw [if_neg hmask]
    exact ⟨rfl, rfl⟩

/-- The supplied token as Stage 3 accepted it, by the manager `s`: signed, in time in whole seconds
and then to the fraction, not revoked, and scoped to the requested agent type. -/
structure SessionTokenOk (E : Env Tok) (token : Tok) (agent_type : String)
    (s : SessionManager Tok) : Prop where
  signed : ∃ p jti c, Signed E token p ∧ TimeOk p (s.reading 0) ∧ p.jti = some jti ∧
    Ttl.purge (s.reading 2) s.revoked_jtis jti = none ∧ token_claims p jti = .ok c ∧
    s.reading 3 ≤ c.expires_at ∧ c.agent_type = agent_type

theorem use_session_token_ok {token t : Tok}
    (h : use_session_token O rq task_id token w = .ok t w') :
    t = token ∧ SessionTokenOk O.env token rq.agent_type w.session_mgr := by
  unfold use_session_token at h
  obtain ⟨c, w₁, hcatch, h₁⟩ := bind_eq_ok.mp h
  -- the clauses that catch a refusal of the manager raise in their turn
  have hon : on_session_mgr (validate_token O.env token) w = .ok c w₁ :=
    (catching_eq_ok_iff_body fun _ _ => .clause (fun _ _ _ => token_refused_ne_ok)
      (.clause (fun _ _ _ => token_refused_ne_ok) .no_clause)).mp hcatch
  obtain ⟨s₁, hv, rfl⟩ := on_session_mgr_eq_ok.mp hon
  obtain ⟨p, jti, hs, ht, hj, hn, hc, rfl⟩ := validate_token_ok_iff.mp hv
  obtain ⟨b, w₂, hexp, h₂⟩ := bind_eq_ok.mp h₁
  obtain ⟨s₂, hexp', rfl⟩ := on_session_mgr_eq_ok.mp hexp
  cases hexp'
  split at h₂
  · obtain ⟨_, _, hrefused, _⟩ := bind_eq_ok.mp h₂
    exact absurd hrefused token_refused_ne_ok
  · rename_i hlive
    split at h₂
    · obtain ⟨_, _, hrefused, _⟩ := bind_eq_ok.mp h₂
      exact absurd hrefused token_refused_ne_ok
    · rename_i hscope
      obtain ⟨_, w₃, _, h₃⟩ := bind_eq_ok.mp h₂
      cases h₃
      refine ⟨rfl, ⟨p, jti, c, hs, ht, hj, hn, hc, ?_, by simpa using hscope⟩⟩
      have hle : (w.session_mgr.purged 2).clock.now ≤ c.expires_at := by simpa using hlive
      exact hle

/-- The manager after it has accepted a supplied token and compared its `exp` with the clock. -/
def checked (s : SessionManager Tok) : SessionManager Tok :=
  { s.purged 2 with clock := (s.purged 2).clock.advance }

/-- A token that passes the checks is used. -/
theorem use_session_token_run {token : Tok}
    (h : SessionTokenOk O.env token rq.agent_type w.session_mgr) :
    ∃ w', use_session_token O rq task_id token w = .ok token w' ∧
      w'.session_mgr = checked w.session_mgr := by
  obtain ⟨p, jti, c, hs, ht, hj, hn, hc, hexp, hscope⟩ := h.signed
  have hvalid : validate_token O.env token w.session_mgr = .ok c (w.session_mgr.purged 2) :=
    validate_token_ok_iff.mpr ⟨p, jti, hs, ht, hj, hn, hc, rfl⟩
  have htime : is_expired c (w.session_mgr.purged 2) = .ok false (checked w.session_mgr) := by
    show EStateM.Result.ok (decide (c.expires_at < w.session_mgr.reading 3)) _ = _
    rw [decide_eq_false (not_lt.mpr hexp)]
    rfl
  refine ⟨{ w with
    session_mgr := checked w.session_mgr
    audit := w.audit ++ [.stage_event "token.validated" .allow "jit-token-issue" task_id.text
      rq.agent_type []] }, ?_, rfl⟩
  refine bind_eq_ok.mpr ⟨c, _, catching_ok (on_session_mgr_eq_ok.mpr ⟨_, hvalid, rfl⟩), ?_⟩
  refine bind_eq_ok.mpr ⟨false, _, on_session_mgr_eq_ok.mpr ⟨_, htime, rfl⟩, ?_⟩
  rw [if_neg Bool.false_ne_true, if_neg (not_not.mpr hscope)]
  rfl

/-- What Stage 3 asks the manager for when no token is supplied. -/
def fresh_token_args (rq : OrchestratorRequest Tok) (task_id : Uuid) : IssueArgs where
  agent_type := rq.agent_type
  requester_id := rq.requester_id
  metadata := rq.metadata
  task_id := some task_id.text

/-- The session token of a run: the supplied one, checked by the manager `s`, or one that `s` has
just issued. -/
def TokenOk (O : Orchestrator Tok) (rq : OrchestratorRequest Tok) (task_id : Uuid) (token : Tok)
    (s : SessionManager Tok) : Prop :=
  (supplied_token O rq = some token ∧ SessionTokenOk O.env token rq.agent_type s) ∨
  (supplied_token O rq = none ∧ ∃ s', issue_token O.env (fresh_token_args rq task_id) s =
    .ok token s')

theorem issue_session_token_ok {token : Tok}
    (h : issue_session_token O rq task_id w = .ok token w') :
    ∃ s', issue_token O.env (fresh_token_args rq task_id) w.session_mgr = .ok token s' := by
  unfold issue_session_token at h
  obtain ⟨t, w₁, hissue, h₁⟩ := bind_eq_ok.mp h
  obtain ⟨s₁, hs, -⟩ := on_session_mgr_eq_ok.mp hissue
  obtain ⟨_, w₂, _, h₂⟩ := bind_eq_ok.mp h₁
  obtain ⟨_, w₃, _, h₃⟩ := bind_eq_ok.mp h₂
  cases h₃
  exact ⟨s₁, hs⟩

theorem session_token_established {token : Tok} (h : session_token O rq task_id w = .ok token w') :
    TokenOk O rq task_id token w.session_mgr := by
  unfold session_token at h
  cases hsup : supplied_token O rq with
  | some st =>
      rw [hsup] at h
      obtain ⟨rfl, hok⟩ := use_session_token_ok h
      exact .inl ⟨hsup, hok⟩
  | none =>
      rw [hsup] at h
      exact .inr ⟨hsup, issue_session_token_ok h⟩

theorem jit_token_issue_ok {prompt : String} {token adapter_token : Tok} {proof : Option Tok}
    (h : jit_token_issue O rq task_id prompt w = .ok (token, adapter_token, proof) w') :
    TokenOk O rq task_id token w.session_mgr ∧
      (rq.protect_outbound_request = false → adapter_token = token ∧ proof = none) := by
  rw [jit_token_issue_steps, span_stage_eq_ok] at h
  obtain ⟨t, w₁, ht, h₁⟩ := bind_eq_ok.mp h
  have htok := session_token_established ht
  unfold adapter_credentials at h₁
  split at h₁
  · rename_i hprot
    obtain ⟨⟨at', pf⟩, w₂, _, h₂⟩ := bind_eq_ok.mp h₁
    cases h₂
    exact ⟨htok, fun hf => by simp [hprot] at hf⟩
  · cases h₁
    exact ⟨htok, fun _ => ⟨rfl, rfl⟩⟩

/-- The budget session has money left. -/
def BudgetOk (w : World Tok) (id : Uuid) : Prop :=
  ∃ s, w.budget_enforcer.sessions id = some s ∧ s.cost_usd < s.budget_limit_usd

theorem check_budget_ok {e e' : BudgetEnforcer} {id : Uuid} {u : Unit}
    (h : BudgetEnforcer.check_budget id e = .ok u e') :
    e' = e ∧ ∃ s, e.sessions id = some s ∧ s.cost_usd < s.budget_limit_usd := by
  cases hs : e.sessions id with
  | none =>
      obtain ⟨x, hx, -⟩ := BudgetEnforcer.require_session_none hs
      unfold BudgetEnforcer.check_budget at h
      rw [bind_error hx] at h
      cases h
  | some s =>
      obtain ⟨hlt, hge⟩ := BudgetEnforcer.check_budget_run hs
      by_cases hb : s.cost_usd < s.budget_limit_usd
      · rw [hlt hb] at h
        cases h
        exact ⟨rfl, s, rfl, hb⟩
      · obtain ⟨msg, hm⟩ := hge (not_lt.mp hb)
        rw [hm] at h
        cases h

theorem watchdog_pre_llm_ok {u : Unit} (h : watchdog_pre_llm O rq task_id w = .ok u w') :
    ∀ id, budget_session O rq = some id → BudgetOk w' id := by
  intro id hid
  unfold watchdog_pre_llm at h
  rw [hid] at h
  simp only at h
  rw [span_stage_eq_ok] at h
  obtain ⟨_, w₁, hcatch, h₁⟩ := bind_eq_ok.mp h
  cases h₁
  rw [catching_eq_ok_iff_body fun _ _ => .clause log_throw_neverReturns .no_clause] at hcatch
  obtain ⟨b, hb, rfl⟩ := on_budget_eq_ok.mp hcatch
  obtain ⟨rfl, s, hs, hlt⟩ := check_budget_ok hb
  exact ⟨s, hs, hlt⟩

theorem before_llm_ok {pr : PolicyResult} {m m' : MaskResult} {token adapter_token : Tok}
    {proof : Option Tok}
    (h : before_llm O rq task_id pr m w = .ok (m', token, adapter_token, proof) w') :
    rescrub O.guardrails (rescrubs pr) m.text = .ok m'.text ∧
      TokenOk O rq task_id token w.session_mgr ∧
      (rq.protect_outbound_request = false → adapter_token = token ∧ proof = none) ∧
      ∀ id, budget_session O rq = some id → BudgetOk w' id := by
  unfold before_llm at h
  obtain ⟨m₁, w₁, hmask, h₁⟩ := bind_eq_ok.mp h
  obtain ⟨⟨t, at', pf⟩, w₂, htok, h₂⟩ := bind_eq_ok.mp h₁
  obtain ⟨_, w₃, hbud, h₃⟩ := bind_eq_ok.mp h₂
  cases h₃
  obtain ⟨hr, hs⟩ := policy_mask_ok hmask
  obtain ⟨ht, hp⟩ := jit_token_issue_ok htok
  rw [hs] at ht
  exact ⟨hr, ht, hp, watchdog_pre_llm_ok hbud⟩

theorem after_llm_ok {m : MaskResult} {token : Tok} {resp : LLMResponse}
    {r : OrchestratorResult Tok} (h : after_llm O rq task_id m token resp w = .ok r w') :
    ∃ post_mask, O.guardrails.mask_pii resp.content = .ok post_mask ∧
      r.response = { resp with content := post_mask.text } := by
  unfold after_llm at h
  obtain ⟨_, w₁, _, h₁⟩ := bind_eq_ok.mp h
  obtain ⟨_, w₂, _, h₂⟩ := bind_eq_ok.mp h₁
  obtain ⟨pm, w₃, hpost, h₃⟩ := bind_eq_ok.mp h₂
  cases h₃
  unfold post_sanitize at hpost
  rw [span_stage_eq_ok] at hpost
  obtain ⟨pm', w₄, hmask, h₄⟩ := bind_eq_ok.mp hpost
  obtain ⟨_, w₅, _, h₅⟩ := bind_eq_ok.mp h₄
  cases h₅
  exact ⟨_, (guard_eq_ok.mp hmask).1, rfl⟩

end

/-! ## Along the run -/

/-- The calls answered so far, and what an environment may do at an await. -/
abbrev Answered (Tok : Type) : Type := Co.Hist Exc (OrchCall Tok) OrchCall.Answer

section
variable {O : Orchestrator Tok} {rq : OrchestratorRequest Tok} {task_id : Uuid} {w₀ w : World Tok}
  {h : Answered Tok} {α : Type}
  {env : (q : OrchCall Tok) → World Tok → Except Exc q.Answer → World Tok → Prop}
  {C : Answered Tok → World Tok → OrchCall Tok → World Tok → Prop}
  {X : Answered Tok → World Tok → Exc → World Tok → Prop}

theorem safe_stage_error {D : Answered Tok → World Tok → α → World Tok → Prop} {span : String}
    {agent : String} {e : Exc} (hx : ∀ e w', OnlyAudit w w' → X h w₀ e w') :
    Co.Safe env C D X h w₀ (Co.lift (stage_error span task_id.text agent e)) w :=
  Co.Safe.lift (fun _ _ hok => absurd hok stage_error_ne_ok)
    (fun e' w' he => hx e' w' ((onlyAudit_stage_error _ _ _ e).error he))

/-- Stage 2 awaits the policy engine once, and returns only what allows the request. -/
theorem safe_policy_eval {D : Answered Tok → World Tok → PolicyResult → World Tok → Prop}
    (hc : C h w₀ (.evaluate "agent_access" (policy_input rq)) w)
    (hok : ∀ (pr : PolicyResult) w' w'',
      env (.evaluate "agent_access" (policy_input rq)) w (.ok pr) w' →
      pr.allowed = true → pr.action ≠ "reject" → OnlyAudit w' w'' →
      D (h ++ [⟨.evaluate "agent_access" (policy_input rq), .ok pr⟩]) w' pr w'')
    (hx : ∀ (r : Except Exc PolicyResult) w' e w'',
      env (.evaluate "agent_access" (policy_input rq)) w r w' →
      (∀ pr, r = .ok pr → ¬(pr.allowed = true ∧ pr.action ≠ "reject")) → OnlyAudit w' w'' →
      X (h ++ [⟨.evaluate "agent_access" (policy_input rq), r⟩]) w' e w'') :
    Co.Safe env C D X h w₀ (policy_eval rq task_id) w := by
  refine Co.Safe.tryCatch (Co.Safe.bind (Co.Safe.tryCatch (Co.Safe.call hc ?_ ?_)))
  · intro pr w' henv
    refine Co.Safe.lift ?_ ?_
    · intro pr' w'' hrun
      have hkeep := (onlyAudit_policy_decision pr).ok hrun
      obtain ⟨rfl, ha, hr⟩ := policy_decision_ok hrun
      exact hok pr' w' w'' henv ha hr hkeep
    · intro e w'' hrun
      have hkeep := (onlyAudit_policy_decision pr).error hrun
      have hno : ∀ pr', Except.ok (ε := Exc) pr = .ok pr' →
          ¬(pr'.allowed = true ∧ pr'.action ≠ "reject") := by
        rintro _ ⟨⟩
        exact policy_decision_error hrun
      exact safe_stage_error fun e' w₃ h₃ => hx _ w' e' w₃ henv hno (hkeep.trans _ _ _ h₃)
  · intro e w' henv
    refine Co.Safe.lift ?_ ?_
    · intro pr w'' hrun
      exact (opa_unavailable_ok hrun).elim
    · intro e' w'' hrun
      have hkeep := (onlyAudit_opa_unavailable e).error hrun
      exact safe_stage_error fun e' w₃ h₃ =>
        hx _ w' e' w₃ henv (fun _ hpr => by cases hpr) (hkeep.trans _ _ _ h₃)

/-- Stage 4 awaits the adapter once. -/
theorem safe_llm_invoke {D : Answered Tok → World Tok → LLMResponse → World Tok → Prop}
    {prompt : String} {token : Tok} {proof : Option Tok}
    (hc : C h w₀ (.complete (llm_request rq prompt token proof)) w)
    (hok : ∀ (resp : LLMResponse) w' w'',
      env (.complete (llm_request rq prompt token proof)) w (.ok resp) w' → OnlyAudit w' w'' →
      D (h ++ [⟨.complete (llm_request rq prompt token proof), .ok resp⟩]) w' resp w'')
    (hx : ∀ e w' e' w'',
      env (.complete (llm_request rq prompt token proof)) w (.error e) w' → OnlyAudit w' w'' →
      X (h ++ [⟨.complete (llm_request rq prompt token proof), .error e⟩]) w' e' w'') :
    Co.Safe env C D X h w₀ (llm_invoke rq task_id prompt token proof) w := by
  refine Co.Safe.tryCatch (Co.Safe.bind (Co.Safe.call hc ?_ ?_))
  · intro resp w' henv
    refine Co.Safe.bind (Co.Safe.lift ?_ ?_)
    · intro _ w'' hrun
      exact Co.Safe.pure (hok resp w' w'' henv ((onlyAudit_log _).ok hrun))
    · -- handing an event to the logger does not raise
      intro e w'' hrun
      cases hrun
  · intro e w' henv
    exact safe_stage_error fun e' w'' h₃ => hx e w' e' w'' henv h₃

end

/-! ## The run -/

/-- What holds whenever the adapter is called with `req`: `h` are the calls answered before, `w₀` is
the world the segment began in, when the policy engine answered, and `w` the world at the call. -/
structure AdapterCall (O : Orchestrator Tok) (rq : OrchestratorRequest Tok) (h : Answered Tok)
    (w₀ : World Tok) (req : LLMRequest Tok) (w : World Tok) : Prop where
  injection : O.guardrails.check_prompt_injection rq.prompt = .ok ()
  policy : ∃ pr : PolicyResult,
    h = [⟨.evaluate "agent_access" (policy_input rq), .ok pr⟩] ∧
      pr.allowed = true ∧ pr.action ≠ "reject" ∧
      -- the prompt is the masked one, scrubbed again as often as the policy asks
      ∃ m, O.guardrails.mask_pii rq.prompt = .ok m ∧
        rescrub O.guardrails (rescrubs pr) m.text = .ok req.prompt
  token : ∃ task_id token, rq.task_id = some task_id ∧ TokenOk O rq task_id token w₀.session_mgr ∧
    (rq.protect_outbound_request = false → req.aegis_token = token)
  budget : ∀ id, budget_session O rq = some id → BudgetOk w id

/-- Whether a call is one of the adapter. -/
def isComplete : OrchCall Tok → Bool
  | .complete _ => true
  | .evaluate _ _ => false

@[simp] theorem isComplete_complete (req : LLMRequest Tok) : isComplete (.complete req) = true := rfl

@[simp] theorem isComplete_evaluate (name : String) (input : PolicyInput) :
    @isComplete Tok (.evaluate name input) = false := rfl

/-- How many of the answered calls went to the adapter. -/
def completes (h : Answered Tok) : ℕ := h.countP (fun a => isComplete a.1)

/-- How many calls of the adapter a run has made, the one it waits for included. -/
def adapterCalls (c : Co.Conf (World Tok) Exc (OrchCall Tok) OrchCall.Answer
    (OrchestratorResult Tok)) : ℕ :=
  completes c.hist + match c.point with
    | .waiting q _ => if isComplete q then 1 else 0
    | _ => 0

/-- The assertion at an await. -/
def AwaitOk (O : Orchestrator Tok) (rq : OrchestratorRequest Tok) (h : Answered Tok)
    (w₀ : World Tok) : OrchCall Tok → World Tok → Prop
  | .evaluate _ _, _ => h = []
  | .complete req, w => AdapterCall O rq h w₀ req w

/-- The assertion at the end: the content is the masked content of the one adapter answer. -/
def ResultOk (O : Orchestrator Tok) (h : Answered Tok) (r : OrchestratorResult Tok) : Prop :=
  ∃ q pr req resp post_mask, isComplete q = false ∧ h = [⟨q, pr⟩, ⟨.complete req, .ok resp⟩] ∧
    O.guardrails.mask_pii resp.content = .ok post_mask ∧
    r.response = { resp with content := post_mask.text }

theorem run_safe (O : Orchestrator Tok) (rq : OrchestratorRequest Tok) (w : World Tok)
    (env : (q : OrchCall Tok) → World Tok → Except Exc q.Answer → World Tok → Prop) :
    Co.Safe env (fun h w₀ q w => AwaitOk O rq h w₀ q w) (fun h _ r _ => ResultOk O h r)
      (fun h _ _ _ => completes h ≤ 1) [] w (run O rq) w := by
  unfold run
  cases htask : rq.task_id with
  | none => exact Nat.zero_le 1
  | some task_id =>
      refine Co.Safe.bind (Co.Safe.lift ?_ (fun _ _ _ => Nat.zero_le 1))
      intro pre_mask w₁ hpre
      obtain ⟨hinj, hmask⟩ := pre_sanitize_ok hpre
      refine Co.Safe.bind (safe_policy_eval rfl ?_ (fun _ _ _ _ _ _ _ => Nat.zero_le 1))
      intro pr w₂ w₃ _ hallow hreject hsame
      refine Co.Safe.bind (Co.Safe.lift ?_ (fun _ _ _ => Nat.zero_le 1))
      rintro ⟨m, token, adapter_token, proof⟩ w₄ hbefore
      obtain ⟨hscrub, htok, hplain, hbudget⟩ := before_llm_ok hbefore
      rw [hsame.1] at htok
      have hcall : AdapterCall O rq [⟨.evaluate "agent_access" (policy_input rq), .ok pr⟩] w₂
          (llm_request rq m.text adapter_token proof) w₄ :=
        { injection := hinj
          policy := ⟨pr, rfl, hallow, hreject, pre_mask, hmask, hscrub⟩
          token := ⟨task_id, token, htask, htok, fun hp => (hplain hp).1⟩
          budget := hbudget }
      refine Co.Safe.bind (safe_llm_invoke hcall ?_ (fun _ _ _ _ _ _ => Nat.le_refl 1))
      intro resp w₅ w₆ _ _
      refine Co.Safe.lift ?_ (fun _ _ _ => Nat.le_refl 1)
      intro r w₇ hafter
      obtain ⟨post_mask, hpost, hresp⟩ := after_llm_ok hafter
      exact ⟨_, _, _, resp, post_mask, rfl, rfl, hpost, hresp⟩

/-- **No stage can be bypassed.**  In every run, whatever the policy engine and the adapter answer
and whatever happens to the components while the run is suspended: the adapter is called at most
once, every call satisfies `AdapterCall`, and a run that returns returns the masked content of the
adapter's answer. -/
theorem adapter_called_only_governed (O : Orchestrator Tok) (rq : OrchestratorRequest Tok)
    (w : World Tok)
    {c : Co.Conf (World Tok) Exc (OrchCall Tok) OrchCall.Answer (OrchestratorResult Tok)}
    (hr : Co.Conf.Reachable (fun _ _ => True) (fun _ _ _ => True) (run O rq) w c) :
    adapterCalls c ≤ 1 ∧
      (∀ req k, c.point = .waiting (.complete req) k →
        AdapterCall O rq c.hist c.seg req c.stop) ∧
      ∀ r, c.point = .done r → ResultOk O c.hist r := by
  have hgood := (Co.Conf.good_of_reachable (run_safe O rq w _) hr).stopOk
  obtain ⟨h, w₀, w₁, point, w₂⟩ := c
  cases point with
  | done r =>
      obtain ⟨q, pr, req, resp, post_mask, hq, hh, hpost, hresp⟩ := hgood
      subst hh
      refine ⟨?_, by simp, ?_⟩
      · simp [adapterCalls, completes, List.countP_cons, hq]
      · intro r' hr'
        cases hr'
        exact ⟨q, pr, req, resp, post_mask, hq, rfl, hpost, hresp⟩
  | failed e => exact ⟨hgood, by simp, by simp⟩
  | waiting q k =>
      cases q with
      | evaluate name input =>
          have hnil : h = [] := hgood.1
          subst hnil
          exact ⟨Nat.zero_le 1, by simp, by simp⟩
      | complete req =>
          have hcall : AdapterCall O rq h w₀ req w₁ := hgood.1
          obtain ⟨pr, hh, -⟩ := hcall.policy
          refine ⟨?_, ?_, by simp⟩
          · simp [adapterCalls, completes, hh]
          · intro req' k' hpt
            cases hpt
            exact hcall

/-! ### A run that reaches the adapter -/

def plainGuardrails : Guardrails where
  mask_pii := fun text => .ok ⟨text, []⟩
  check_prompt_injection := fun _ => .ok ()

def plainOrchestrator : Orchestrator SymToken where
  env := symbolicEnv {}
  guardrails := plainGuardrails
  adapter := { provider_name := "openai" }
  budget_wired := true
  loop_wired := false

def plainRequest : OrchestratorRequest SymToken where
  task_id := some ⟨"task-0"⟩
  prompt := "hello"
  agent_type := "general"
  requester_id := "client"
  budget_session_id := some ⟨"budget-0"⟩

/-- A world with one budget session, of one dollar. -/
def plainWorld : World SymToken where
  session_mgr := SessionManager.fresh (.in_memory fun _ => none) (.still 0)
    (fun _ => "jti-0")
  budget_enforcer :=
    ⟨fun _ => some { session_id := ⟨"budget-0"⟩, agent_type := "general", budget_limit_usd := 1 }, []⟩
  loop_detector := LoopDetector.init {} none none []
  audit := []

/-- An engine that asks for the prompt to be masked, and an adapter that answers. -/
def plainAnswers : (q : OrchCall SymToken) → Except Exc q.Answer
  | .evaluate _ _ => .ok { allowed := true, action := "mask", fields := ["prompt"] }
  | .complete _ => .ok { content := "hi", tokens_used := 7, model := "gpt-4o-mini", provider := "openai" }

/-- The run of `plainRequest` when the policy engine has answered. -/
def plainConf :=
  (Co.Conf.start (run plainOrchestrator plainRequest) plainWorld).respond plainAnswers

theorem plainConf_governed :
    adapterCalls plainConf = 1 ∧
      ∀ req k, plainConf.point = .waiting (.complete req) k →
        AdapterCall plainOrchestrator plainRequest plainConf.hist plainConf.seg req
          plainConf.stop := by
  refine ⟨by decide +kernel, ?_⟩
  exact (adapter_called_only_governed plainOrchestrator plainRequest plainWorld
    (Co.Conf.Reachable.respond .refl plainAnswers (fun _ => trivial))).2.1

end AegisOs.Orchestrator
