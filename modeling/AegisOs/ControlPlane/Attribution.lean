/-
# `AegisOs.ControlPlane.Attribution` — whose decision it was

The endpoints know two names for the approver.  One is the `sub` of the token,
which `_authorize_hitl_action` validates and returns; the other is the
`approver_id` of the body, which nothing checks.  The second is what the
service is given, and from there it goes on

    body ──▸ signal ──▸ workflow ──▸ decision event, output
                 └────▸ response

so a decision is attributed to the principal of the token exactly when the
body names that principal (`decision_attributed_iff`).
-/
import AegisOs.ControlPlane.HitlAuthority

namespace AegisOs

open Lib Lib.EState

variable {Tok : Type}

/-! ## The workflow -/

namespace AgentTaskWorkflow

/-- The gate has been decided, by this signal. -/
def DecidedBy (c : Config Tok) (d : ApprovalSignalPayload) : Prop :=
  (c.state.approval_state = .APPROVED ∨ c.state.approval_state = .DENIED) ∧
    c.state.approval_signal = some d

/-- The event of the decision names the approver of the signal. -/
theorem DecidedBy.event {inp : WorkflowInput} {c : Config Tok} {d : ApprovalSignalPayload}
    (h : DecidedBy c d) (hc : Reaches inp c) {ev : WorkflowAuditInput}
    (hev : ev ∈ decisionEvents c) :
    ev.details = [("approver_id", .str d.approver_id), ("reason", .str d.reason)] := by
  obtain ⟨hst, hsig⟩ := h
  have hmatch := good_events hc.good
  unfold EventsMatch at hmatch
  rcases hst with hst | hst
  all_goals
    rw [hst] at hmatch
    obtain ⟨d', ev', hsig', -, hevs, -, hdetails⟩ := hmatch
    cases hsig.symm.trans hsig'
    rw [hevs, List.mem_singleton] at hev
    rw [hev, hdetails]

/-- The approver an output names is that of the signal, unless nobody answered. -/
def Names (out : WorkflowOutput) (w : AgentTaskWorkflow) : Prop :=
  ∀ x, out.approver_id = some x → w.approval_state = .TIMED_OUT ∨
    w.approval_state ≠ .AWAITING_APPROVAL ∧ ∃ d, w.approval_signal = some d ∧ d.approver_id = x

/-- The decision the gate hands on is the signal it has settled by. -/
def HandsOn (d : ApprovalSignalPayload) (w : AgentTaskWorkflow) : Prop :=
  w.approval_state = .TIMED_OUT ∨
    w.approval_state ≠ .AWAITING_APPROVAL ∧ w.approval_signal = some d

section
variable {inp : WorkflowInput} {h : Calls Tok} {w₀ w : AgentTaskWorkflow}

/-- A gate that has been settled, and the audit call behind it. -/
theorem audit_handsOn {g : AgentTaskWorkflow → AgentTaskWorkflow} {ev : WorkflowAuditInput}
    {d : ApprovalSignalPayload} (hg : HandsOn d (g w)) :
    FlowSafe HandsOn h w₀ (do set g; execute (.WorkflowAudit ev); return d) w := by
  refine Co.Safe.bind (Co.Safe.lift ?_ fun _ _ _ => trivial)
  rintro _ w' ⟨⟩
  refine Co.Safe.bind (Co.Safe.call (q := WorkflowCall.WorkflowAudit ev) trivial ?_
    fun _ _ _ => trivial)
  intro _ w' henv
  have hd := drifted_of_signals henv.1
  rcases hg with hto | ⟨hne, hsig⟩
  · exact .inl (hd.state.trans hto)
  · exact .inr ⟨by rwa [hd.state], (hd.signal hne).trans hsig⟩

theorem await_pending_approval_handsOn :
    FlowSafe HandsOn h w₀ (await_pending_approval inp : Flow Tok _) w := by
  unfold await_pending_approval
  refine Co.Safe.andThen .trivial fun _ _ _ _ => Co.Safe.andThen .trivial fun _ _ _ _ =>
    Co.Safe.andThen .trivial ?_
  intro h₁ w₁ timed_out w₂
  cases timed_out with
  | true => exact audit_handsOn (.inl rfl)
  | false =>
      refine Co.Safe.bind (Co.Safe.lift ?_ fun _ _ _ => trivial)
      rintro _ _ ⟨⟩
      cases hsig : w₂.approval_signal with
      | none => trivial
      | some d => exact audit_handsOn (.inr ⟨settle_ne_awaiting d w₂, hsig⟩)

/-- A run that passes the gate names nobody, one that is refused names whoever refused it. -/
theorem run_names : FlowSafe Names h w₀ (run inp : Flow Tok _) w := by
  have hpassed : ∀ scrub policy (token : JITTokenResult Tok) h₁ w₁ w₂,
      FlowSafe Names h₁ w₁ (after_gate inp scrub policy token) w₂ := by
    intro scrub policy token h₁ w₁ w₂
    refine Co.Safe.andThen .trivial fun _ _ _ _ => Co.Safe.andThen .trivial fun _ _ _ _ =>
      Co.Safe.andThen .trivial fun _ _ _ _ => Co.Safe.andThen .trivial fun _ _ _ _ =>
      Co.Safe.andThen .trivial fun _ _ _ _ => Co.Safe.andThen .trivial fun _ _ _ _ => ?_
    intro x hx
    cases hx
  refine Co.Safe.andThen .trivial ?_
  rintro h₁ w₁ ⟨scrub, policy, token⟩ w₂
  refine Co.Safe.andThen .trivial ?_
  intro h₃ w₃ exceeds w₄
  cases exceeds with
  | false => exact hpassed scrub policy token h₃ w₃ w₄
  | true =>
      refine Co.Safe.bind (await_pending_approval_handsOn.mono (fun _ _ _ _ hc => hc) ?_
        (fun _ _ _ _ hx => hx))
      intro h₅ w₅ d w₆ hd
      by_cases hda : d.approved = true
      · simp only [if_pos hda]
        exact hpassed scrub policy token h₅ w₅ w₆
      · simp only [if_neg hda]
        refine Co.Safe.bind (Co.Safe.lift ?_ fun _ _ _ => trivial)
        rintro _ _ ⟨⟩ x ⟨⟩
        exact hd.imp_right fun ⟨hne, hsig⟩ => ⟨hne, d, hsig, rfl⟩

end

/-- A run decided by a signal names, if anybody, the approver of the signal. -/
theorem DecidedBy.output {inp : WorkflowInput} {c : Config Tok} {d : ApprovalSignalPayload}
    (h : DecidedBy c d) (hc : Reaches inp c) {out : WorkflowOutput} (hp : c.point = .done out)
    {x : String} (hx : out.approver_id = some x) : x = d.approver_id := by
  obtain ⟨hst, hsig⟩ := h
  have hdrift := good_now hc.good
  obtain ⟨w₀, -, hr⟩ := hc
  have hnames := (Co.Conf.good_of_reachable (run_names (w := w₀)) hr).stopOk
  rw [hp] at hnames
  rcases hnames x hx with hto | ⟨hne, d', hsig', rfl⟩
  · rw [hdrift.state, hto] at hst
    rcases hst with hst | hst <;> cases hst
  · rw [hdrift.signal hne, hsig'] at hsig
    cases hsig
    rfl

end AgentTaskWorkflow

/-! ## The request -/

namespace Hitl

/-- The request has sent this payload, or is sending it. -/
def Sends (c : RequestConf Tok) (payload : ApprovalSignalPayload) : Prop :=
  ∃ workflow_id name, .temporal (.signal workflow_id name payload) ∈ calls c

/-- The principal of a request: the `sub` of its token, when that is valid in the world `w`. -/
def principal (E : Env Tok) (rq : HitlRequest Tok) (w : World Tok) : Option String :=
  match rq.authorization with
  | none => none
  | some header =>
      match validate_token E header.token w.session_mgr with
      | .ok claims _ => some claims.sub
      | .error _ _ => none

/-- Everything the request's decision leads to is put down to `sub`. -/
structure Attributed (sub : Option String) (c : RequestConf Tok) : Prop where
  signal : ∀ {payload}, Sends c payload → some payload.approver_id = sub
  response : ∀ {r}, c.point = .done r → some r.actor_id = sub
  event : ∀ {payload inp} {f : AgentTaskWorkflow.Config Tok}, Sends c payload →
    AgentTaskWorkflow.Reaches inp f → AgentTaskWorkflow.DecidedBy f payload →
    ∀ ev ∈ AgentTaskWorkflow.decisionEvents f,
      ev.details.lookup "approver_id" = sub.map Field.str
  output : ∀ {payload inp} {f : AgentTaskWorkflow.Config Tok}, Sends c payload →
    AgentTaskWorkflow.Reaches inp f → AgentTaskWorkflow.DecidedBy f payload →
    ∀ out, f.point = .done out → ∀ x, out.approver_id = some x → some x = sub

theorem parse_approval_request_approver {rq : HitlRequest Tok} {request : ApprovalDecisionRequest}
    (h : parse_approval_request rq = .ok request) : rq.approver_id = some request.approver_id := by
  unfold parse_approval_request at h
  split at h
  · rename_i approver_id reason ha _
    cases h
    exact (Option.filter_eq_some_iff.mp ha).1
  · cases h

/-- A call that, if it is a signal, carries this approver. -/
def Carries (approver_id : String) : HitlCall → Prop
  | .temporal (.signal _ _ payload) => payload.approver_id = approver_id
  | _ => True

section
variable {approver_id : String} {h : Answers} {w₀ w₁ : World Tok}

abbrev CarrySafe {α : Type} (approver_id : String) (D : α → Prop) (h : Answers) (w₀ : World Tok)
    (p : Run Tok α) (w : World Tok) : Prop :=
  Co.Safe Waits (fun _ _ q _ => Carries approver_id q) (fun _ _ a _ => D a) (fun _ _ _ _ => True)
    h w₀ p w

theorem get_snapshot_carries (task_id : Uuid) :
    CarrySafe approver_id (fun _ => True) h w₀
      (service (TaskApprovalService.get_snapshot task_id)) w₁ :=
  safe_get_snapshot trivial (fun _ _ => trivial) fun _ _ _ _ => trivial

theorem signal_decision_carries (name : SignalName) (approved : Bool)
    (status : PendingApprovalState) (task_id : Uuid) (reason : String) :
    CarrySafe approver_id (fun r => r.actor_id = approver_id) h w₀
      (service (TaskApprovalService.signal_decision name approved status task_id approver_id reason))
      w₁ := by
  refine Co.Safe.handle_bind (Co.Safe.handle_bind (safe_get_snapshot trivial ?_ ?_))
  · intro snapshot w₂
    by_cases hp : snapshot.approval_state ≠ PendingApprovalState.AWAITING_APPROVAL.value
    · rw [if_pos hp]
      trivial
    · rw [if_neg hp]
      exact Co.Safe.handle_bind (safe_temporal
        (q := .signal task_id.text name ⟨approver_id, reason, approved⟩) rfl (fun _ _ => rfl)
        fun _ _ _ => trivial)
  · exact fun _ _ _ _ => trivial

theorem authorize_carries (E : Env Tok) (task_id : Uuid) (action : String)
    (authorization : Option (AuthorizationHeader Tok)) :
    CarrySafe approver_id (fun _ => True) h w₀
      (authorize_hitl_action E task_id action authorization) w₁ := by
  have hlift : ∀ {α : Type} {m : WM Tok α} {h : Answers} {w₂ w₃ : World Tok},
      CarrySafe approver_id (fun _ => True) h w₂ (Co.lift m) w₃ :=
    Co.Safe.lift (fun _ _ _ => trivial) fun _ _ _ => trivial
  unfold authorize_hitl_action authorize_claims
  refine Co.Safe.andThen hlift fun _ _ token _ => Co.Safe.andThen hlift fun _ _ claims _ =>
    Co.Safe.andThen (get_snapshot_carries task_id) fun _ _ snapshot _ =>
    Co.Safe.andThen hlift fun _ _ _ _ => Co.Safe.andThen ?_ fun _ _ result _ =>
    Co.Safe.andThen hlift fun _ _ _ _ => trivial
  exact Co.Safe.call (q := HitlCall.evaluate "agent_access" (policy_input action claims snapshot))
    trivial (fun _ _ _ => trivial) fun _ _ _ => trivial

/-- The endpoints tell the workflow and the caller the approver of the body. -/
theorem decide_task_carries (name name' : SignalName) (approved : Bool)
    (status : PendingApprovalState) (E : Env Tok) {rq : HitlRequest Tok}
    (hrq : ∀ request, parse_approval_request rq = .ok request → request.approver_id = approver_id) :
    CarrySafe approver_id (fun r => r.actor_id = approver_id) h w₀
      (decide_task name (TaskApprovalService.signal_decision name' approved status) E rq) w₁ := by
  refine Co.Safe.bind (Co.Safe.lift ?_ fun _ _ _ => trivial)
  intro request w₂ hparse
  obtain ⟨hbody, rfl⟩ := Orchestrator.guard_eq_ok.mp hparse
  cases hrq request hbody
  refine Co.Safe.bind (Co.Safe.tryCatch (Co.Safe.andThen
    ((authorize_carries E rq.task_id name.action rq.authorization).mono (fun _ _ _ _ hc => hc)
      (fun _ _ _ _ hd => hd) ?_) ?_))
  · intro h₁ w₃ e w₄ _
    unfold approval_failed
    split_ifs <;> trivial
  · intro h₁ w₃ _ w₄
    refine (signal_decision_carries name' approved status rq.task_id request.reason).mono
      (fun _ _ _ _ hc => hc) ?_ ?_
    · intro h₂ w₅ result w₆ hactor
      exact Co.Safe.bind (Co.Safe.lift (fun _ _ _ => hactor) fun _ _ _ => trivial)
    · intro h₂ w₅ e w₆ _
      unfold approval_failed
      split_ifs <;> trivial

theorem endpoint_carries (name : SignalName) (E : Env Tok) {rq : HitlRequest Tok}
    (hrq : ∀ request, parse_approval_request rq = .ok request → request.approver_id = approver_id) :
    CarrySafe approver_id (fun r => r.actor_id = approver_id) h w₀ (endpoint name E rq) w₁ := by
  cases name with
  | approve => exact decide_task_carries .approve .approve true .APPROVED E hrq
  | deny => exact decide_task_carries .deny .deny false .DENIED E hrq

end

section
variable {E : Env Tok} {name : SignalName} {rq : HitlRequest Tok} {w : World Tok}
  {c : RequestConf Tok}

/-- What a request sends and answers names the approver of its body. -/
theorem sends_body {approver_id : String} (hbody : rq.approver_id = some approver_id)
    (hr : Co.Conf.Reachable (fun _ _ => True) Replies (handler (some E) name (some rq)) w c) :
    (∀ {payload}, Sends c payload → payload.approver_id = approver_id) ∧
      ∀ {r}, c.point = .done r → r.actor_id = approver_id := by
  have hsafe : CarrySafe approver_id (fun r => r.actor_id = approver_id) [] w
      (handler (some E) name (some rq)) w := by
    refine endpoint_carries name E ?_
    intro request hrequest
    exact Option.some.inj ((parse_approval_request_approver hrequest).symm.trans hbody)
  constructor
  · rintro payload ⟨workflow_id, name', hmem⟩
    rcases List.mem_append.mp hmem with hmem | hmem
    · obtain ⟨x, hx, hcall⟩ := List.mem_map.mp hmem
      have hcarries := Co.Conf.answered_of_reachable hsafe hr x hx
      rw [hcall] at hcarries
      exact hcarries
    · exact Co.Conf.asserted_of_reachable hsafe hr (Option.mem_toList.mp hmem)
  · intro r hp
    have hgood := (Co.Conf.good_of_reachable hsafe hr).stopOk
    rw [hp] at hgood
    exact hgood

/-- A request that sends a signal has named an approver in its body. -/
theorem body_of_signals
    (hr : Co.Conf.Reachable (fun _ _ => True) Replies (handler (some E) name (some rq)) w c)
    (hs : Signals c) : ∃ approver_id, rq.approver_id = some approver_id := by
  have hentitled : Entitled (some E) name (some rq) w c.hist := by
    rcases handler_cases (some E) name (some rq) w hr with hentitled | ⟨hharmless, -⟩
    · exact hentitled
    · obtain ⟨workflow_id, name', payload, hmem⟩ := hs
      exact absurd hmem hharmless.not_signal
  obtain ⟨E', r, claims, -, hsome, ha⟩ := hentitled
  cases hsome
  obtain ⟨approver_id, reason, hbody⟩ := ha.body
  exact ⟨approver_id, parse_approval_request_approver hbody⟩

end

/-- **Attribution.**  A request that is accepted is put down to the principal of the token that
authorised it, by the workflow and in the response, exactly when its body names that principal. -/
theorem decision_attributed_iff (E : Env Tok) (name : SignalName) (rq : HitlRequest Tok)
    (w : World Tok) {c : RequestConf Tok}
    (hr : Co.Conf.Reachable (fun _ _ => True) Replies (handler (some E) name (some rq)) w c)
    (hs : Signals c) : Attributed (principal E rq w) c ↔ rq.approver_id = principal E rq w := by
  obtain ⟨approver_id, hbody⟩ := body_of_signals hr hs
  obtain ⟨hsends, hanswers⟩ := sends_body hbody hr
  constructor
  · intro ha
    obtain ⟨workflow_id, name', payload, hmem⟩ := hs
    have hsent : Sends c payload := ⟨workflow_id, name', hmem⟩
    rw [hbody, ← hsends hsent, ha.signal hsent]
  · intro hsub
    rw [← hsub, hbody]
    refine ⟨fun hsent => ?_, fun hp => ?_, ?_, ?_⟩
    · rw [hsends hsent]
    · rw [hanswers hp]
    · intro payload inp f hsent hf hdec ev hev
      rw [hdec.event hf hev, ← hsends hsent]
      rfl
    · intro payload inp f hsent hf hdec out hp x hx
      rw [hdec.output hf hp hx, hsends hsent]

/-! ### In one's own name, and in another's -/

theorem adminRequest_principal :
    principal (symbolicEnv {}) adminRequest Orchestrator.plainWorld = some "alice" := by
  decide +kernel

/-- The administrator approves in her own name. -/
theorem adminConf_attributed : Attributed (some "alice") adminConf := by
  have hcalls : calls adminConf = [.temporal (.query "task-0"), .evaluate "agent_access"
      { agent_type := "finance", requester_id := "alice", action := "approve",
        resource := "workflow:pending_approval", principal_role := some "admin" },
      .temporal (.query "task-0"),
      .temporal (.signal "task-0" .approve ⟨"alice", "checked", true⟩)] := by decide +kernel
  have hsignals : Signals adminConf :=
    ⟨"task-0", .approve, ⟨"alice", "checked", true⟩, by simp [hcalls]⟩
  rw [← adminRequest_principal]
  exact (decision_attributed_iff _ _ _ _ adminConf_reachable hsignals).mpr
    adminRequest_principal.symm

/-- The same token, and a body that names somebody else. -/
def borrowedName : HitlRequest SymToken := { adminRequest with approver_id := some "bob" }

/-- The request when its signal has been sent. -/
def borrowedConf : RequestConf SymToken :=
  (Co.Conf.respond servedAnswers)^[4]
    (Co.Conf.start (handler (some (symbolicEnv {})) .approve (some borrowedName))
      Orchestrator.plainWorld)

theorem borrowedConf_reachable : Co.Conf.Reachable (fun _ _ => True) Replies
    (handler (some (symbolicEnv {})) .approve (some borrowedName)) Orchestrator.plainWorld
    borrowedConf :=
  Co.Conf.Reachable.responds .refl servedAnswers servedAnswers_replies 4

/-- The token is alice's, the signal and the response are bob's. -/
theorem approved_in_anothers_name :
    Co.Conf.Reachable (fun _ _ => True) Replies
      (handler (some (symbolicEnv {})) .approve (some borrowedName)) Orchestrator.plainWorld
      borrowedConf ∧
    principal (symbolicEnv {}) borrowedName Orchestrator.plainWorld = some "alice" ∧
    Sends borrowedConf ⟨"bob", "checked", true⟩ ∧
    ∃ r, borrowedConf.point = .done r ∧ r.actor_id = "bob" := by
  refine ⟨borrowedConf_reachable, adminRequest_principal, ⟨"task-0", .approve, ?_⟩, ?_⟩
  · decide +kernel
  · have hdone : borrowedConf.point.returned.isSome = true := by decide +kernel
    obtain ⟨r, hr⟩ := Option.isSome_iff_exists.mp hdone
    have hp := Co.Point.returned_eq_some.mp hr
    exact ⟨r, hp, (sends_body rfl borrowedConf_reachable).2 hp⟩

end Hitl

end AegisOs
