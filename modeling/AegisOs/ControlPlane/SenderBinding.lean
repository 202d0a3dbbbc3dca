/-
# `AegisOs.ControlPlane.SenderBinding` — sender-constrained tokens at the entry points

A token with `cnf.jkt` is bound to a key; `validate_sender_constrained_token`
is where the binding is checked, and its returns are recorded in
`proof_uses`.  Two entry points accept a token: `Orchestrator.run` with a
session token, and the approve and deny endpoints.  Both use the plain
validator:

* no segment of either ever adds to `proof_uses` (`run_proves_nothing`,
  `endpoint_proves_nothing`);
* so whether a bound token is let in is decided by the checks of a bearer token
  alone, in the state it is checked in (`run_demands_proof_iff`,
  `endpoint_demands_proof_iff`).
-/
import AegisOs.ControlPlane.Frame
import AegisOs.ControlPlane.HitlAuthority

namespace AegisOs

open Lib Lib.EState

variable {Tok : Type}

/-! ## The operations that validate no proof -/

/-- The manager has recorded no further use of a proof. -/
def SameProofs (s s' : SessionManager Tok) : Prop := s'.proof_uses = s.proof_uses

theorem SameProofs.refl (s : SessionManager Tok) : SameProofs s s := rfl

theorem SameProofs.trans (s₁ s₂ s₃ : SessionManager Tok) (h₁ : SameProofs s₁ s₂)
    (h₂ : SameProofs s₂ s₃) : SameProofs s₁ s₃ := Eq.trans h₂ h₁

theorem sameProofs_lookup : Lookup (@SameProofs Tok) where
  refl := SameProofs.refl
  trans := SameProofs.trans
  advance := fun _ => rfl
  purged := fun _ => rfl

theorem sameProofs_rotated (E : Env Tok) (a : IssueArgs) (s : SessionManager Tok) :
    SameProofs s (s.rotated E a) := by
  unfold SessionManager.rotated
  cases s.previous a <;> rfl

theorem sameProofs_issue_token (E : Env Tok) (a : IssueArgs) :
    Keeps SameProofs (issue_token E a) :=
  keeps_issue_token SameProofs.refl (sameProofs_rotated E a) (sameProofs_rotated E a)

theorem sameProofs_issue_dpop_proof (E : Env Tok) (pem : String) (jwk : Jwk) (method url : String)
    (token : Option Tok) (nonce : Option String) :
    Keeps SameProofs (issue_dpop_proof E pem jwk method url token nonce) := by
  refine Keeps.bind SameProofs.trans sameProofs_lookup.time fun now => ?_
  have hdraw : Keeps SameProofs (str_uuid4 : SM Tok String) := fun _ => rfl
  exact Keeps.bind SameProofs.trans hdraw fun jti => sameProofs_lookup.orRaise _ _

/-- The same, of the world. -/
def NoProof (w w' : World Tok) : Prop := SameProofs w.session_mgr w'.session_mgr

theorem noProof_on_session_mgr {α : Type} {m : SM Tok α} (hm : Keeps SameProofs m) :
    Keeps NoProof (on_session_mgr m) :=
  Keeps.zoom hm fun _ _ h => h

theorem noProof_on_budget {α : Type} (m : BE α) : Keeps NoProof (on_budget m : WM Tok α) :=
  Keeps.zoom (R := fun _ _ => True) (fun _ => trivial) fun _ _ _ => rfl

theorem proofFrame : Orchestrator.Frame (@NoProof Tok) where
  refl := fun w => SameProofs.refl w.session_mgr
  trans := fun _ _ _ h₁ h₂ => SameProofs.trans _ _ _ h₁ h₂
  audit := by
    intro w w' h
    unfold NoProof
    rw [h.1]
    exact SameProofs.refl w.session_mgr
  validate_token := fun E token => noProof_on_session_mgr (sameProofs_lookup.validate_token E token)
  is_expired := fun _ => noProof_on_session_mgr fun _ => rfl
  issue_token := fun E a => noProof_on_session_mgr (sameProofs_issue_token E a)
  generate_dpop_key_pair := noProof_on_session_mgr fun _ => rfl
  issue_dpop_proof := fun _ _ _ _ _ _ _ =>
    noProof_on_session_mgr (sameProofs_issue_dpop_proof _ _ _ _ _ _ _)
  check_budget := fun _ => noProof_on_budget _
  loop := fun _ => Keeps.zoom (R := fun _ _ => True) (fun _ => trivial) fun _ _ _ => rfl

/-! ## The entry points validate no proof -/

/-- The last segment of `c` validated a proof by the key with thumbprint `jkt` for `token`. -/
def Proves {Q α : Type} {R : Q → Type} (jkt : String) (token : Tok)
    (c : Co.Conf (World Tok) Exc Q R α) : Prop :=
  ∃ new, c.stop.session_mgr.proof_uses = c.seg.session_mgr.proof_uses ++ new ∧ (jkt, token) ∈ new

/-- Any interference, and any answer. -/
abbrev AnyRun {Q α : Type} {R : Q → Type} (p : Co (World Tok) Exc Q R α) (w : World Tok) :
    List (Co.Conf (World Tok) Exc Q R α) → Co.Conf (World Tok) Exc Q R α → Prop :=
  Co.Conf.Visits (fun _ _ => True) (fun _ _ _ => True) p w

theorem proves_nothing {Q α : Type} {R : Q → Type} {p : Co (World Tok) Exc Q R α} {w : World Tok}
    {cs : List (Co.Conf (World Tok) Exc Q R α)} {c c' : Co.Conf (World Tok) Exc Q R α}
    (hp : Co.Segments NoProof p) (hr : AnyRun p w cs c) (hm : c' ∈ cs) (jkt : String) (token : Tok) :
    ¬Proves jkt token c' := by
  rintro ⟨new, heq, hnew⟩
  have hsame : NoProof c'.seg c'.stop :=
    Co.Conf.segment_of_reachable proofFrame.refl hp (hr.reachable_of_mem hm)
  have hnil : new = [] := by
    have : c'.seg.session_mgr.proof_uses ++ new = c'.seg.session_mgr.proof_uses := heq.symm.trans hsame
    simpa using this
  rw [hnil] at hnew
  cases hnew

theorem run_proves_nothing (O : Orchestrator Tok) (rq : OrchestratorRequest Tok) :
    Co.Segments NoProof (Orchestrator.run O rq) :=
  proofFrame.run (fun _ _ => noProof_on_budget _) O rq

namespace Hitl

/-- A program of the service touches nothing. -/
theorem noProof_service {α : Type} :
    ∀ p : TaskApprovalService.Service α, Co.Segments NoProof (service p : Run Tok α)
  | .ret a => Co.Segments.pure a
  | .raise e => Co.Segments.throw e
  | .act _ k => fun env h w₀ w hw => noProof_service (k ()) env h w₀ w hw
  | .await q k => by
      show Co.Segments NoProof ((Co.call (HitlCall.temporal q) : Run Tok _).attempt >>= fun r =>
        service (k r))
      refine Co.Segments.bind ?_ fun r => noProof_service (k r)
      intro env h w₀ w hw
      refine ⟨hw, ?_⟩
      intro r w' _
      cases r <;> exact SameProofs.refl w'.session_mgr

theorem noProof_refuse {α : Type} (event : String) (task_id : Uuid) (action : String)
    (extra : List (String × Field)) (status : ℕ) (detail : Text) :
    Keeps NoProof (refuse event task_id action extra status detail : WM Tok α) :=
  proofFrame.log_throw _ _

theorem noProof_checked_claims (E : Env Tok) (task_id : Uuid) (action : String) (token : Tok) :
    Keeps NoProof (checked_claims E task_id action token) := by
  refine Keeps.catching proofFrame.trans (noProof_on_session_mgr ?_) ?_
  · refine Keeps.bind SameProofs.trans (sameProofs_lookup.validate_token E token) fun claims => ?_
    refine Keeps.bind SameProofs.trans ?_ fun _ => Keeps.pure SameProofs.refl claims
    exact Keeps.ite (Keeps.pure SameProofs.refl ()) (Keeps.throw SameProofs.refl _)
  · intro e g hg
    unfold token_refused at hg
    split_ifs at hg <;> cases hg <;> exact noProof_refuse _ _ _ _ _ _

theorem noProof_authorize (E : Env Tok) (task_id : Uuid) (action : String)
    (authorization : Option (AuthorizationHeader Tok)) :
    Co.Segments NoProof (authorize_hitl_action E task_id action authorization) := by
  have hlift : ∀ {α : Type} {m : WM Tok α}, Keeps NoProof m →
      Co.Segments NoProof (Co.lift m : Run Tok α) := Co.Segments.lift proofFrame.trans
  refine Co.Segments.bind (hlift (Keeps.ofExcept proofFrame.refl _)) fun token => ?_
  refine Co.Segments.bind (hlift (noProof_checked_claims E task_id action token)) fun claims => ?_
  refine Co.Segments.bind (noProof_service _) fun snapshot => ?_
  refine Co.Segments.bind (hlift ?_) fun _ => ?_
  · unfold check_session
    split
    · exact Keeps.ite (noProof_refuse _ _ _ _ _ _) (Keeps.pure proofFrame.refl ())
    · exact Keeps.pure proofFrame.refl ()
  · refine Co.Segments.bind (Co.Segments.call proofFrame.refl _) fun result => ?_
    refine Co.Segments.bind (hlift ?_) fun _ => Co.Segments.pure _
    exact Keeps.ite (noProof_refuse _ _ _ _ _ _) (Keeps.pure proofFrame.refl ())

theorem endpoint_proves_nothing (name : SignalName) (E : Env Tok) (rq : HitlRequest Tok) :
    Co.Segments NoProof (endpoint name E rq) := by
  have hdecide : ∀ name' f, Co.Segments NoProof (decide_task name' f E rq) := by
    intro name' f
    refine Co.Segments.bind
      (Co.Segments.lift proofFrame.trans (Keeps.ofExcept proofFrame.refl _)) fun request => ?_
    refine Co.Segments.bind (Co.Segments.tryCatch ?_ ?_) fun result => ?_
    · exact Co.Segments.bind (noProof_authorize E _ _ _) fun _ => noProof_service _
    · intro e
      unfold approval_failed
      split_ifs <;> exact Co.Segments.throw _
    · refine Co.Segments.bind (Co.Segments.lift proofFrame.trans ?_) fun _ => Co.Segments.pure _
      exact noProof_on_session_mgr sameProofs_lookup.time
  cases name with
  | approve => exact hdecide _ _
  | deny => exact hdecide _ _

end Hitl

/-! ## Who is let in -/

/-- The token is signed for claims with `cnf.jkt = jkt`. -/
def Bound (E : Env Tok) (token : Tok) (jkt : String) : Prop :=
  ∃ p, Signed E token p ∧ p.cnf = some (some jkt)

/-- Whenever a run that supplies the bound `token` for `agent_type`, and has it checked by the
manager `s`, calls the adapter, it has validated a proof by the bound key for the token. -/
def RunDemandsProof (E : Env Tok) (token : Tok) (agent_type : String) (s : SessionManager Tok) :
    Prop :=
  ∀ jkt, Bound E token jkt →
    ∀ (O : Orchestrator Tok) (rq : OrchestratorRequest Tok) (w : World Tok), O.env = E →
      Orchestrator.supplied_token O rq = some token → rq.agent_type = agent_type →
      ∀ cs c, AnyRun (Orchestrator.run O rq) w cs c →
        ∀ req, c.point.awaited = some (.complete req) → c.seg.session_mgr = s →
          ∃ c' ∈ cs, Proves jkt token c'

/-- Whenever a request to the endpoint `name` that carries the bound `token`, and has it checked by
the manager `s`, signals its decision, it has validated a proof by the bound key for the token. -/
def EndpointDemandsProof (E : Env Tok) (token : Tok) (name : SignalName) (s : SessionManager Tok) :
    Prop :=
  ∀ jkt, Bound E token jkt →
    ∀ (rq : HitlRequest Tok) (w : World Tok), rq.authorization.map (·.token) = some token →
      w.session_mgr = s →
      ∀ cs c, AnyRun (Hitl.endpoint name E rq) w cs c →
        ∀ id name' d, c.point.awaited = some (.temporal (.signal id name' d)) →
          ∃ c' ∈ cs, Proves jkt token c'

/-- The checks `_authorize_hitl_action` makes of a token: signed, in time in whole seconds, not
revoked, and allowed the action. -/
structure HitlTokenOk (E : Env Tok) (token : Tok) (action : String) (s : SessionManager Tok) :
    Prop where
  signed : ∃ p jti c, Signed E token p ∧ TimeOk p (s.reading 0) ∧ p.jti = some jti ∧
    Ttl.purge (s.reading 2) s.revoked_jtis jti = none ∧ token_claims p jti = .ok c ∧
    "hitl:" ++ action ∈ c.allowed_actions

/-! ### `Orchestrator.run` -/

namespace Orchestrator

/-- Guardrails that let everything through, and no watchdog. -/
def bareOrchestrator (E : Env Tok) : Orchestrator Tok where
  env := E
  guardrails := plainGuardrails
  adapter := { provider_name := "openai" }
  budget_wired := false
  loop_wired := false

def bareRequest (agent_type : String) (token : Tok) : OrchestratorRequest Tok where
  task_id := some ⟨"task-0"⟩
  prompt := "hello"
  agent_type := agent_type
  requester_id := "client"
  session_token := some token

end Orchestrator

/-- A server that has nothing but a session manager. -/
def bareWorld (s : SessionManager Tok) : World Tok where
  session_mgr := s
  budget_enforcer := ⟨fun _ => none, []⟩
  loop_detector := LoopDetector.init {} none none []
  audit := []

namespace Orchestrator

/-- A policy engine that allows, and an adapter that answers. -/
def allowing : (q : OrchCall Tok) → Except Exc q.Answer
  | .evaluate _ _ => .ok { allowed := true }
  | .complete _ => .ok { content := "hi", tokens_used := 7, model := "gpt-4o-mini", provider := "openai" }

/-- The run of `bareRequest` when the policy engine has allowed it. -/
def bareConf (E : Env Tok) (agent_type : String) (token : Tok) (s : SessionManager Tok) :=
  (Co.Conf.start (run (bareOrchestrator E) (bareRequest agent_type token)) (bareWorld s)).respond
    allowing

theorem bareConf_waits {E : Env Tok} {agent_type : String} {token : Tok} {s : SessionManager Tok}
    (hne : E.jose.compact token ≠ "") (h : SessionTokenOk E token agent_type s) :
    (bareConf E agent_type token s).point.awaited =
        some (.complete (llm_request (bareRequest agent_type token) "hello" token none)) ∧
      (bareConf E agent_type token s).seg.session_mgr = s := by
  have hsup : supplied_token (bareOrchestrator E) (bareRequest agent_type token) = some token := by
    simp [supplied_token, bareOrchestrator, bareRequest, hne]
  -- the world the first segment stops in, and that world when the decision has been logged
  let w₁ := (Co.Conf.start (run (bareOrchestrator E) (bareRequest agent_type token))
    (bareWorld s)).stop
  let w₂ : World Tok := { w₁ with audit := w₁.audit ++
    [.stage_event "policy.allowed" .allow "policy-eval" "task-0" agent_type []] }
  obtain ⟨w₃, huse, -⟩ : ∃ w', use_session_token (bareOrchestrator E) (bareRequest agent_type token)
      ⟨"task-0"⟩ token w₂ = .ok token w' ∧ w'.session_mgr = checked w₂.session_mgr :=
    use_session_token_run h
  have hbefore : before_llm (bareOrchestrator E) (bareRequest agent_type token) ⟨"task-0"⟩
      { allowed := true } ⟨"hello", []⟩ w₂ = .ok (⟨"hello", []⟩, token, token, none) w₃ := by
    refine bind_eq_ok.mpr ⟨⟨"hello", []⟩, w₂, rfl, ?_⟩
    refine bind_eq_ok.mpr ⟨(token, token, none), w₃, ?_, rfl⟩
    unfold jit_token_issue
    rw [span_stage_eq_ok, hsup]
    exact bind_eq_ok.mpr ⟨token, w₃, huse, rfl⟩
  have hresume : ((Co.lift (before_llm (bareOrchestrator E) (bareRequest agent_type token)
      ⟨"task-0"⟩ { allowed := true } ⟨"hello", []⟩) >>= fun x =>
        llm_invoke (bareRequest agent_type token) ⟨"task-0"⟩ x.1.text x.2.2.1 x.2.2.2 >>= fun resp =>
          Co.lift (after_llm (bareOrchestrator E) (bareRequest agent_type token) ⟨"task-0"⟩ x.1 x.2.1
            resp) : Run Tok (OrchestratorResult Tok))).resume w₂ = _ :=
    Co.resume_lift_bind hbefore
  exact ⟨congrArg (fun r => r.1.awaited) hresume, rfl⟩

/-- The run lets a bound token in exactly when it passes as a bearer token. -/
theorem run_demands_proof_iff (E : Env Tok) (token : Tok) (agent_type : String)
    (s : SessionManager Tok) :
    RunDemandsProof E token agent_type s ↔
      ¬((∃ jkt, Bound E token jkt) ∧ E.jose.compact token ≠ "" ∧
        SessionTokenOk E token agent_type s) := by
  constructor
  · rintro hdemand ⟨⟨jkt, hbound⟩, hne, hok⟩
    obtain ⟨hwait, hseg⟩ := bareConf_waits hne hok
    obtain ⟨cs, hrun⟩ := (Co.Conf.Reachable.respond
      (I := fun _ _ => True) (G := fun _ _ _ => True)
      (p := run (bareOrchestrator E) (bareRequest agent_type token)) (s := bareWorld s)
      .refl allowing (fun _ => trivial)).visits
    have hsup : supplied_token (bareOrchestrator E) (bareRequest agent_type token) = some token := by
      simp [supplied_token, bareOrchestrator, bareRequest, hne]
    obtain ⟨c', hm, hproof⟩ := hdemand jkt hbound _ _ _ rfl hsup rfl cs _ hrun _ hwait hseg
    exact proves_nothing (run_proves_nothing _ _) hrun hm jkt token hproof
  · rintro hno jkt hbound O rq w rfl hsup rfl cs c hrun req hwait rfl
    have hstop := (Co.Conf.good_of_reachable (run_safe O rq w _) hrun.reachable).stopOk
    obtain ⟨k, hpt⟩ := Co.Point.awaited_eq_some.mp hwait
    rw [hpt] at hstop
    have hcall : AdapterCall O rq c.hist c.seg req c.stop := hstop.1
    obtain ⟨task_id, token', _, htok, -⟩ := hcall.token
    exfalso
    apply hno
    rcases htok with ⟨hsup', hok⟩ | ⟨hnone, -⟩
    · rw [hsup] at hsup'
      cases hsup'
      refine ⟨⟨jkt, hbound⟩, ?_, hok⟩
      simpa using (Option.filter_eq_some_iff.mp hsup).2
    · rw [hsup] at hnone
      cases hnone

end Orchestrator

/-! ### The endpoints -/

namespace Hitl

theorem checked_claims_ok {E : Env Tok} {task_id : Uuid} {action : String} {token : Tok}
    {w w' : World Tok} {c : TokenClaims}
    (h : checked_claims E task_id action token w = .ok c w') :
    HitlTokenOk E token action w.session_mgr := by
  obtain ⟨⟨s, hv⟩, hmem⟩ := checked_claims_valid h
  obtain ⟨p, jti, hsig, ht, hj, hn, hc, -⟩ := validate_token_ok_iff.mp hv
  exact ⟨p, jti, c, hsig, ht, hj, hn, hc, hmem⟩

theorem checked_claims_run {E : Env Tok} {task_id : Uuid} {action : String} {token : Tok}
    {w : World Tok} (h : HitlTokenOk E token action w.session_mgr) :
    ∃ c w', checked_claims E task_id action token w = .ok c w' := by
  obtain ⟨p, jti, c, hsig, ht, hj, hn, hc, hmem⟩ := h.signed
  have hv := validate_token_ok_iff.mpr ⟨p, jti, hsig, ht, hj, hn, hc, rfl⟩
  refine ⟨c, { w with session_mgr := w.session_mgr.purged 2 }, catching_eq_ok.mpr (.inl ?_)⟩
  refine Orchestrator.on_session_mgr_eq_ok.mpr ⟨_, bind_eq_ok.mpr ⟨c, _, hv, ?_⟩, rfl⟩
  refine bind_eq_ok.mpr ⟨(), _, ?_, rfl⟩
  unfold ensure_action_allowed
  rw [if_pos hmem]
  rfl

/-- A request without a fault of its own. -/
def bareRequest (token : Tok) : HitlRequest Tok where
  task_id := ⟨"task-0"⟩
  authorization := some ⟨"Bearer", token⟩
  approver_id := some "alice"
  reason := some "checked"

/-- A workflow that awaits approval, and a policy engine that allows. -/
def granting : (q : HitlCall) → Except Exc q.Answer
  | .temporal (.query _) => .ok
      ({ task_id := "task-0", session_id := none, agent_type := "general",
         workflow_status := WorkflowStatus.HUMAN_INTERVENTION_REQUIRED.value,
         approval_state := PendingApprovalState.AWAITING_APPROVAL.value } : ApprovalStatusSnapshot)
  | .temporal (.signal _ _ _) => .ok ()
  | .evaluate _ _ => .ok ({ allowed := true } : PolicyResult)

/-- The request when the snapshot, the policy engine and the service's own query are answered. -/
def bareConf (name : SignalName) (E : Env Tok) (token : Tok) (s : SessionManager Tok) :=
  (((Co.Conf.start (endpoint name E (bareRequest token)) (bareWorld s)).respond granting).respond
    granting).respond granting

theorem bareConf_waits {name : SignalName} {E : Env Tok} {token : Tok} {s : SessionManager Tok}
    (hne : E.jose.compact token ≠ "") (h : HitlTokenOk E token name.action s) :
    (bareConf name E token s).point.awaited = some (.temporal (.signal "task-0" name
      ⟨"alice", "checked", name = .approve⟩)) := by
  have hextract : extract_bearer_token E (bareRequest token).authorization = .ok token := by
    have hb : "Bearer".toLower = "bearer" := by decide +kernel
    simp [extract_bearer_token, bareRequest, hb, hne]
  obtain ⟨c, w₁, hc⟩ : ∃ c w', checked_claims E ⟨"task-0"⟩ name.action token (bareWorld s) = .ok c w' :=
    checked_claims_run h
  have hparse : (MonadExcept.ofExcept (parse_approval_request (bareRequest token)) :
      WM Tok ApprovalDecisionRequest) (bareWorld s) = .ok ⟨"alice", "checked"⟩ (bareWorld s) := rfl
  -- the first segment ends at the query of the snapshot
  have hauth : (authorize_hitl_action E ⟨"task-0"⟩ name.action (bareRequest token).authorization).resume
      (bareWorld s) = (authorize_claims ⟨"task-0"⟩ name.action c).resume w₁ := by
    unfold authorize_hitl_action
    rw [hextract]
    exact (Co.resume_lift_bind (ofExcept_ok token _)).trans (Co.resume_lift_bind hc)
  cases name with
  | approve =>
      have hstart : (endpoint .approve E (bareRequest token)).resume (bareWorld s) = (_, w₁) :=
        (Co.resume_lift_bind hparse).trans
          (Co.resume_bind_waiting (Co.resume_tryCatch_waiting (Co.resume_bind_waiting hauth)))
      unfold bareConf Co.Conf.start
      rw [hstart]
      obtain ⟨_, _, _, session_id, _, _, _, _, _, _, _⟩ := c
      cases session_id <;> rfl
  | deny =>
      have hstart : (endpoint .deny E (bareRequest token)).resume (bareWorld s) = (_, w₁) :=
        (Co.resume_lift_bind hparse).trans
          (Co.resume_bind_waiting (Co.resume_tryCatch_waiting (Co.resume_bind_waiting hauth)))
      unfold bareConf Co.Conf.start
      rw [hstart]
      obtain ⟨_, _, _, session_id, _, _, _, _, _, _, _⟩ := c
      cases session_id <;> rfl

/-- A token that does not pass is refused before the first await. -/
theorem endpoint_refuses {name : SignalName} {E : Env Tok} {rq : HitlRequest Tok} {token : Tok}
    {w : World Tok} (htoken : rq.authorization.map (·.token) = some token)
    (hno : ¬(E.jose.compact token ≠ "" ∧ HitlTokenOk E token name.action w.session_mgr))
    (env : (q : HitlCall) → World Tok → Except Exc q.Answer → World Tok → Prop) :
    Co.Safe env (fun _ _ _ _ => False) (fun _ _ _ _ => True) (fun _ _ _ _ => True) [] w
      (endpoint name E rq) w := by
  have hdecide : ∀ f, Co.Safe env (fun _ _ _ _ => False) (fun _ _ _ _ => True)
      (fun _ _ _ _ => True) [] w (decide_task name f E rq) w := by
    intro f
    refine Co.Safe.bind (Co.Safe.lift ?_ (fun _ _ _ => trivial))
    intro request w₁ hparse
    obtain ⟨-, rfl⟩ := Orchestrator.guard_eq_ok.mp hparse
    have hfail : ∀ (h : Co.Hist Exc HitlCall HitlCall.Answer) (w₀ : World Tok) (e : Exc)
        (w' : World Tok), Co.Safe (α := ApprovalDecisionResult) env (fun _ _ _ _ => False)
          (fun h w₀ result w => Co.Safe env (fun _ _ _ _ => False) (fun _ _ _ _ => True)
            (fun _ _ _ _ => True) h w₀ (do
              let timestamp ← Co.lift (on_session_mgr time)
              return (⟨rq.task_id, result.status, result.actor_id, timestamp⟩ :
                ApprovalDecisionResponse)) w)
          (fun _ _ _ _ => True) h w₀ (approval_failed rq.task_id e) w' := by
      intro h w₀ e w'
      unfold approval_failed
      split_ifs <;> exact Co.Safe.throw trivial
    refine Co.Safe.bind (Co.Safe.tryCatch (Co.Safe.bind (Co.Safe.bind (Co.Safe.lift ?_ ?_))))
    · intro token' w₂ hextract
      obtain ⟨hx, rfl⟩ := Orchestrator.guard_eq_ok.mp hextract
      obtain ⟨header, hheader, -, hne, rfl⟩ := extract_bearer_token_ok hx
      rw [hheader] at htoken
      cases htoken
      refine Co.Safe.bind (Co.Safe.lift ?_ ?_)
      · intro claims w₃ hclaims
        exact absurd ⟨hne, checked_claims_ok hclaims⟩ hno
      · exact fun e w₃ _ => hfail _ _ e w₃
    · exact fun e w₂ _ => hfail _ _ e w₂
  cases name with
  | approve => exact hdecide _
  | deny => exact hdecide _

/-- An endpoint lets a bound token in exactly when it passes as a bearer token. -/
theorem endpoint_demands_proof_iff (E : Env Tok) (token : Tok) (name : SignalName)
    (s : SessionManager Tok) :
    EndpointDemandsProof E token name s ↔
      ¬((∃ jkt, Bound E token jkt) ∧ E.jose.compact token ≠ "" ∧
        HitlTokenOk E token name.action s) := by
  constructor
  · rintro hdemand ⟨⟨jkt, hbound⟩, hne, hok⟩
    have hstart : Co.Conf.Reachable (fun _ _ => True) (fun _ _ _ => True)
        (endpoint name E (bareRequest token)) (bareWorld s) _ := .refl
    obtain ⟨cs, hrun⟩ := (((hstart.respond granting fun _ => trivial).respond granting
      fun _ => trivial).respond granting fun _ => trivial).visits
    obtain ⟨c', hm, hproof⟩ := hdemand jkt hbound _ _ rfl rfl cs _ hrun _ _ _ (bareConf_waits hne hok)
    exact proves_nothing (endpoint_proves_nothing _ _ _) hrun hm jkt token hproof
  · rintro hno jkt hbound rq w htoken rfl cs c hrun id name' d hwait
    have hstop := (Co.Conf.good_of_reachable
      (endpoint_refuses htoken (fun h => hno ⟨⟨jkt, hbound⟩, h⟩) _) hrun.reachable).stopOk
    obtain ⟨k, hpt⟩ := Co.Point.awaited_eq_some.mp hwait
    rw [hpt] at hstop
    exact hstop.1.elim

end Hitl

/-! ## Both entry points -/

/-- **Sender-constrained tokens are honoured as bearer tokens.**  For every token and every state
of the manager that checks it, an entry point demands a proof of possession exactly when it refuses
the token anyway: when the token is not a bound one, or does not pass the checks of a bearer token. -/
theorem proof_demanded_iff (E : Env Tok) (token : Tok) (s : SessionManager Tok) :
    (∀ agent_type, RunDemandsProof E token agent_type s ↔
      ¬((∃ jkt, Bound E token jkt) ∧ E.jose.compact token ≠ "" ∧
        Orchestrator.SessionTokenOk E token agent_type s)) ∧
    ∀ name, EndpointDemandsProof E token name s ↔
      ¬((∃ jkt, Bound E token jkt) ∧ E.jose.compact token ≠ "" ∧
        HitlTokenOk E token name.action s) :=
  ⟨fun agent_type => Orchestrator.run_demands_proof_iff E token agent_type s,
    fun name => Hitl.endpoint_demands_proof_iff E token name s⟩

/-! ### A bound token without a proof -/

/-- A token bound to the key "jkt-0", allowed to approve, good for fifteen minutes from time 0. -/
def boundToken : SymToken where
  header := { typ := some "JWT", alg := some "HS256" }
  payload :=
    { jti := some "jti-0"
      sub := some "client"
      agent_type := some "general"
      allowed_actions := ["hitl:approve"]
      iat := some 0
      exp := some 900
      cnf := some (some "jkt-0") }
  key := "change-me-in-production-use-a-strong-random-key"

/-- A manager that has just started, at time 0. -/
def boundManager : SessionManager SymToken :=
  SessionManager.fresh (.in_memory fun _ => none) (.still 0) (fun _ => "jti-1")

theorem boundToken_signed : Signed (symbolicEnv {}) boundToken boundToken.payload :=
  ⟨_, symbolicEnv_verification_key rfl, rfl⟩

theorem boundToken_timeOk : TimeOk boundToken.payload (boundManager.reading 0) := by
  refine ⟨fun _ h => (Option.some_ne_none _ h.symm).elim, ?_⟩
  intro exp h
  cases h
  exact pyInt_mono (by decide +kernel)

theorem boundToken_honoured :
    Bound (symbolicEnv {}) boundToken "jkt-0" ∧
      ¬RunDemandsProof (symbolicEnv {}) boundToken "general" boundManager ∧
      ¬EndpointDemandsProof (symbolicEnv {}) boundToken .approve boundManager := by
  have hbound : Bound (symbolicEnv {}) boundToken "jkt-0" := ⟨_, boundToken_signed, rfl⟩
  have hne : (symbolicEnv {}).jose.compact boundToken ≠ "" := by decide +kernel
  refine ⟨hbound, ?_, ?_⟩
  · rw [Orchestrator.run_demands_proof_iff, not_not]
    exact ⟨⟨_, hbound⟩, hne, ⟨_, "jti-0", _, boundToken_signed, boundToken_timeOk, rfl, rfl, rfl,
      by decide +kernel, rfl⟩⟩
  · rw [Hitl.endpoint_demands_proof_iff, not_not]
    exact ⟨⟨_, hbound⟩, hne, ⟨_, "jti-0", _, boundToken_signed, boundToken_timeOk, rfl, rfl, rfl,
      by decide +kernel⟩⟩

end AegisOs
