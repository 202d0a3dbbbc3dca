/-
# `AegisOs.ControlPlane.ApprovalSystem` — from the HTTP request to the adapter call

The parts of a deployment that decide about a task, as one system:

| | |
| :-- | :-- |
| the server | any number of requests to the approve and deny endpoints, on one world |
| the cluster | a workflow under each id, its signals in flight, its activities |

A request asks the cluster for the snapshot of its task and signals a decision; a signal
is delivered later, if at all, and in any order; what else the server does to its world
between two steps of a request is left open, as are the answers of the activities.

**Who decided.**  In every state the system can reach, the decision a workflow has
settled by was sent by a request to the endpoint of that decision, for that task, with
that approver and reason in its body, which the server had fully authorised: a valid
token of an administrator, scoped for the action, of the task's session.  A task whose
projected spend needs an approval has budget spent or the model called only after such
an approval (`decision_end_to_end`).
-/
import AegisOs.ControlPlane.HitlAuthority
import AegisOs.ControlPlane.Attribution

namespace AegisOs

open Lib Lib.EState

variable {Tok : Type}

/-! ## What a request signals -/

namespace Hitl

/-- The signal of a request to the endpoint `name`: for its task, with its body. -/
def Signs (name : SignalName) (rq : HitlRequest Tok) (workflow_id : String) (name' : SignalName)
    (payload : ApprovalSignalPayload) : Prop :=
  workflow_id = rq.task_id.text ∧ name' = name ∧ payload.approved = decide (name = .approve) ∧
    parse_approval_request rq = .ok ⟨payload.approver_id, payload.reason⟩

/-- A call that, if it is a signal, is the one of this request. -/
def Asks (name : SignalName) (rq : HitlRequest Tok) : HitlCall → Prop
  | .temporal (.signal workflow_id name' payload) => Signs name rq workflow_id name' payload
  | _ => True

section
variable {name : SignalName} {rq : HitlRequest Tok} {h : Answers} {w₀ w₁ : World Tok}

abbrev AskSafe {α : Type} (name : SignalName) (rq : HitlRequest Tok) (h : Answers) (w₀ : World Tok)
    (p : Run Tok α) (w : World Tok) : Prop :=
  Co.Safe Waits (fun _ _ q _ => Asks name rq q) (fun _ _ _ _ => True) (fun _ _ _ _ => True) h w₀ p w

theorem get_snapshot_asks (task_id : Uuid) :
    AskSafe name rq h w₀ (service (TaskApprovalService.get_snapshot task_id)) w₁ :=
  safe_get_snapshot trivial (fun _ _ => trivial) fun _ _ _ _ => trivial

theorem signal_decision_asks {approved : Bool} {status : PendingApprovalState}
    {approver_id reason : String}
    (hs : Signs name rq rq.task_id.text name ⟨approver_id, reason, approved⟩) :
    AskSafe name rq h w₀ (service
      (TaskApprovalService.signal_decision name approved status rq.task_id approver_id reason))
      w₁ := by
  refine Co.Safe.handle_bind (Co.Safe.handle_bind (safe_get_snapshot trivial ?_ ?_))
  · intro snapshot w₂
    by_cases hp : snapshot.approval_state ≠ PendingApprovalState.AWAITING_APPROVAL.value
    · rw [if_pos hp]
      trivial
    · rw [if_neg hp]
      exact Co.Safe.handle_bind (safe_temporal
        (q := .signal rq.task_id.text name ⟨approver_id, reason, approved⟩) hs
        (fun _ _ => trivial) fun _ _ _ => trivial)
  · exact fun _ _ _ _ => trivial

theorem authorize_asks (E : Env Tok) (task_id : Uuid) (action : String)
    (authorization : Option (AuthorizationHeader Tok)) :
    AskSafe name rq h w₀ (authorize_hitl_action E task_id action authorization) w₁ := by
  have hlift : ∀ {α : Type} {m : WM Tok α} {h : Answers} {w₂ w₃ : World Tok},
      AskSafe name rq h w₂ (Co.lift m) w₃ :=
    Co.Safe.lift (fun _ _ _ => trivial) fun _ _ _ => trivial
  unfold authorize_hitl_action authorize_claims
  refine Co.Safe.andThen hlift fun _ _ token _ => Co.Safe.andThen hlift fun _ _ claims _ =>
    Co.Safe.andThen (get_snapshot_asks task_id) fun _ _ snapshot _ =>
    Co.Safe.andThen hlift fun _ _ _ _ => Co.Safe.andThen ?_ fun _ _ result _ =>
    Co.Safe.andThen hlift fun _ _ _ _ => trivial
  exact Co.Safe.call (q := HitlCall.evaluate "agent_access" (policy_input action claims snapshot))
    trivial (fun _ _ _ => trivial) fun _ _ _ => trivial

theorem decide_task_asks (approved : Bool) (status : PendingApprovalState) (E : Env Tok)
    (happroved : approved = decide (name = .approve)) :
    AskSafe name rq h w₀
      (decide_task name (TaskApprovalService.signal_decision name approved status) E rq) w₁ := by
  refine Co.Safe.bind (Co.Safe.lift ?_ fun _ _ _ => trivial)
  intro request w₂ hparse
  obtain ⟨hbody, rfl⟩ := Orchestrator.guard_eq_ok.mp hparse
  have hfailed : ∀ {α : Type} {h : Answers} {w₃ w₄ : World Tok} (e : Exc),
      AskSafe name rq h w₃ (approval_failed rq.task_id e : Run Tok α) w₄ := by
    intro α h₁ w₃ w₄ e
    unfold approval_failed
    split_ifs <;> trivial
  refine Co.Safe.bind (Co.Safe.tryCatch (Co.Safe.andThen
    ((authorize_asks E rq.task_id name.action rq.authorization).mono (fun _ _ _ _ hc => hc)
      (fun _ _ _ _ hd => hd) fun _ _ e _ _ => hfailed e) fun h₁ w₃ _ w₄ => ?_))
  refine (signal_decision_asks ⟨rfl, rfl, happroved, hbody⟩).mono (fun _ _ _ _ hc => hc) ?_
    fun _ _ e _ _ => hfailed e
  exact fun _ _ _ _ _ => Co.Safe.bind (Co.Safe.lift (fun _ _ _ => trivial) fun _ _ _ => trivial)

theorem endpoint_asks (name : SignalName) (E : Env Tok) (rq : HitlRequest Tok) :
    AskSafe name rq h w₀ (endpoint name E rq) w₁ := by
  cases name with
  | approve => exact decide_task_asks true .APPROVED E rfl
  | deny => exact decide_task_asks false .DENIED E rfl

/-- **A request that awaits a signal** is entitled to it, and the signal is its own. -/
theorem signal_awaited {E : Env Tok} {w : World Tok} {c : RequestConf Tok} {workflow_id : String}
    {name' : SignalName} {payload : ApprovalSignalPayload}
    (hr : Co.Conf.Reachable (fun _ _ => True) Replies (handler (some E) name (some rq)) w c)
    (hq : c.point.awaited = some (.temporal (.signal workflow_id name' payload))) :
    Granted E name rq w c.hist ∧ Signs name rq workflow_id name' payload := by
  refine ⟨?_, Co.Conf.asserted_of_reachable (endpoint_asks name E rq) hr hq⟩
  rcases handler_cases (some E) name (some rq) w hr with hentitled | ⟨hharmless, -⟩
  · obtain ⟨_, _, claims, hE, hrq, ha⟩ := hentitled
    cases hE
    cases hrq
    exact ⟨claims, ha⟩
  · have hmem : HitlCall.temporal (.signal workflow_id name' payload) ∈ calls c :=
      List.mem_append_right _ (Option.mem_toList.mpr hq)
    exact absurd hmem hharmless.not_signal

end

end Hitl

/-! ## What a workflow has scheduled -/

namespace AgentTaskWorkflow

/-- A gated call has been scheduled only if the gate has been approved. -/
theorem Reaches.approved {inp : WorkflowInput} {c : Config Tok} (hc : Reaches inp c)
    (hexc : exceeds_threshold inp = .ok true) :
    ∀ q ∈ scheduled c, Gated q → c.state.approval_state = .APPROVED := by
  obtain ⟨w₀, hw₀, hr⟩ := hc
  -- the call a configuration waits for
  have hlast : ∀ {c : Config Tok}, Reaches inp c → ∀ q, waitingFor c = some q → Gated q →
      c.state.approval_state = .APPROVED := by
    intro c hc q hq hg
    rw [(good_now hc.good).state]
    exact (good_stop hc.good).gated q hq hg hexc
  induction hr with
  | refl =>
      intro q hq hg
      exact hlast ⟨w₀, hw₀, .refl⟩ q (Option.mem_toList.mp hq) hg
  | @tail c c' hr hs ih =>
      intro q hq hg
      have hc : Reaches inp c := ⟨w₀, hw₀, hr⟩
      rcases List.mem_append.mp hq with hq | hq
      · have hearlier : q ∈ scheduled c := by
          cases hs with
          | interfere _ => exact List.mem_append_left _ hq
          | answer _ =>
              rw [Co.Conf.answer, List.map_append] at hq
              exact hq
        have happroved := ih q hearlier hg
        rw [(step_final hc.good (.inl happroved) hs).1]
        exact happroved
      · exact hlast (hc.step hs) q (Option.mem_toList.mp hq) hg

/-- A signal is taken as the pending decision, or is ignored. -/
theorem handle_signal (m : SignalName × ApprovalSignalPayload) (w : AgentTaskWorkflow) :
    (Protocol.handle m w).approval_signal = some m.2 ∨ Protocol.handle m w = w := by
  have hcase : ∀ d : ApprovalSignalPayload,
      (on_signal d w).approval_signal = some d ∨ on_signal d w = w := by
    intro d
    unfold on_signal
    split
    · exact .inl rfl
    · exact .inr rfl
  rcases m with ⟨_ | _, d⟩
  · exact hcase d
  · exact hcase d

/-- The code of a workflow does not write the pending decision. -/
theorem Reaches.unwritten {inp : WorkflowInput} {h : Calls Tok} {s₀ s₁ s : AgentTaskWorkflow}
    {q : WorkflowCall Tok} {k : Except Exc q.Answer → Flow Tok WorkflowOutput}
    {r : Except Exc q.Answer} (hc : Reaches inp ⟨h, s₀, s₁, .waiting q k, s⟩)
    (hr : MayAnswer q r s) :
    (Co.Conf.answer h q k r s).state.approval_signal = s.approval_signal :=
  (good_stop (hc.step (.answer hr)).good).unwritten

end AgentTaskWorkflow

/-! ## The system -/

/-- What is fixed: the process, the requests that will come in, and the tasks by their ids. -/
structure Deployment (Tok ι : Type) where
  env : Env Tok
  name : ι → SignalName
  request : ι → HitlRequest Tok
  task : String → WorkflowInput

/-- The workflows that have been started, the signals on their way, the world of the server, and the
requests that have come in, each with the world it found. -/
structure ApprovalSystem (Tok ι : Type) where
  flows : String → Option (AgentTaskWorkflow.Config Tok)
  queue : List (String × SignalName × ApprovalSignalPayload)
  server : World Tok
  requests : ι → Option (World Tok × Hitl.RequestConf Tok)

namespace ApprovalSystem

variable {ι : Type}

open AgentTaskWorkflow (Config Calls Flow MayAnswer)

/-- What a call of a request may be answered with, and the signals that it puts on their way.  A
client that raises does not know whether its signal has been sent. -/
inductive Replied (S : ApprovalSystem Tok ι) : (q : HitlCall) → Except Exc q.Answer →
    List (String × SignalName × ApprovalSignalPayload) → Prop
  | snapshot {workflow_id : String} {c : Config Tok} : S.flows workflow_id = some c →
      Replied S (.temporal (.query workflow_id)) (.ok c.state.approval_status) []
  | signalled {workflow_id : String} {name : SignalName} {payload : ApprovalSignalPayload}
      {c : Config Tok} : S.flows workflow_id = some c → Protocol.Running c →
      Replied S (.temporal (.signal workflow_id name payload)) (.ok ())
        [(workflow_id, name, payload)]
  | raised {q : TemporalCall} {e : Exc} : (∀ status, e.kind ≠ .HTTPException status) →
      Replied S (.temporal q) (.error e) []
  | unsure {workflow_id : String} {name : SignalName} {payload : ApprovalSignalPayload} {e : Exc} :
      (∀ status, e.kind ≠ .HTTPException status) →
      Replied S (.temporal (.signal workflow_id name payload)) (.error e)
        [(workflow_id, name, payload)]
  | evaluated {policy_name opa_url : String} {input : PolicyInput} {reply : OpaReply} :
      Serves policy_name input reply →
      Replied S (.evaluate policy_name input) (PolicyEngine.evaluate opa_url policy_name reply) []

section Steps
variable [DecidableEq ι] (D : Deployment Tok ι)

def setFlow (S : ApprovalSystem Tok ι) (workflow_id : String) (c : Config Tok) :
    ApprovalSystem Tok ι :=
  { S with flows := Function.update S.flows workflow_id (some c) }

/-- A request, and the server as it has left it. -/
def setRequest (S : ApprovalSystem Tok ι) (i : ι) (w : World Tok) (c : Hitl.RequestConf Tok) :
    ApprovalSystem Tok ι :=
  { S with requests := Function.update S.requests i (some (w, c)), server := c.state }

inductive Step : ApprovalSystem Tok ι → ApprovalSystem Tok ι → Prop
  | start {S : ApprovalSystem Tok ι} {workflow_id : String} : S.flows workflow_id = none →
      Step S (S.setFlow workflow_id
        (Co.Conf.start (AgentTaskWorkflow.run (D.task workflow_id)) {}))
  | resume {S : ApprovalSystem Tok ι} {workflow_id : String} {h : Calls Tok}
      {s₀ s₁ s : AgentTaskWorkflow} {q : WorkflowCall Tok}
      {k : Except Exc q.Answer → Flow Tok WorkflowOutput} {r : Except Exc q.Answer} :
      S.flows workflow_id = some ⟨h, s₀, s₁, .waiting q k, s⟩ → MayAnswer q r s →
      Step S (S.setFlow workflow_id (Co.Conf.answer h q k r s))
  | time {S : ApprovalSystem Tok ι} {workflow_id : String} {c : Config Tok} (t : ℚ) :
      S.flows workflow_id = some c →
      Step S (S.setFlow workflow_id { c with state := { c.state with now := t } })
  /-- Signals may overtake one another. -/
  | deliver {S : ApprovalSystem Tok ι} {workflow_id : String} {c : Config Tok}
      {m : SignalName × ApprovalSignalPayload}
      {before behind : List (String × SignalName × ApprovalSignalPayload)} :
      S.queue = before ++ (workflow_id, m) :: behind → S.flows workflow_id = some c →
      Step S
        { S.setFlow workflow_id { c with state := Protocol.handle m c.state } with
          queue := before ++ behind }
  | arrive {S : ApprovalSystem Tok ι} {i : ι} : S.requests i = none →
      Step S (S.setRequest i S.server
        (Co.Conf.start (Hitl.handler (some D.env) (D.name i) (some (D.request i))) S.server))
  | reply {S : ApprovalSystem Tok ι} {i : ι} {w s₀ s₁ s : World Tok} {h : Hitl.Answers}
      {q : HitlCall} {k : Except Exc q.Answer → Hitl.Run Tok ApprovalDecisionResponse}
      {r : Except Exc q.Answer} {sent : List (String × SignalName × ApprovalSignalPayload)} :
      S.requests i = some (w, ⟨h, s₀, s₁, .waiting q k, s⟩) → S.Replied q r sent →
      Step S
        { S.setRequest i w (Co.Conf.answer h q k r S.server) with queue := S.queue ++ sent }
  /-- Anything else that happens on the server. -/
  | serve {S : ApprovalSystem Tok ι} (w : World Tok) : Step S { S with server := w }

/-- Before anything has been started, and before any request. -/
def Initial (S : ApprovalSystem Tok ι) : Prop :=
  S.flows = (fun _ => none) ∧ S.queue = [] ∧ S.requests = fun _ => none

def Reachable (S : ApprovalSystem Tok ι) : Prop :=
  ∃ S₀, Initial S₀ ∧ Relation.ReflTransGen (Step D) S₀ S

end Steps

/-! ## The invariant -/

section
variable {D : Deployment Tok ι}

/-- Request `i` has signalled the decision `payload` to the workflow, was entitled to it, and asked
for it. -/
def Sanctioned (D : Deployment Tok ι) (S : ApprovalSystem Tok ι) (i : ι) (workflow_id : String)
    (payload : ApprovalSignalPayload) : Prop :=
  ∃ w c, S.requests i = some (w, c) ∧ Hitl.Granted D.env (D.name i) (D.request i) w c.hist ∧
    Hitl.Signs (D.name i) (D.request i) workflow_id (D.name i) payload ∧
    .temporal (.signal workflow_id (D.name i) payload) ∈ c.hist.map (·.1)

/-- Every signal on its way or pending is a sanctioned one. -/
structure Inv (D : Deployment Tok ι) (S : ApprovalSystem Tok ι) : Prop where
  requests : ∀ i w c, S.requests i = some (w, c) →
    Co.Conf.Reachable (fun _ _ => True) Hitl.Replies
      (Hitl.handler (some D.env) (D.name i) (some (D.request i))) w c
  flows : ∀ workflow_id c, S.flows workflow_id = some c →
    AgentTaskWorkflow.Reaches (D.task workflow_id) c
  queue : ∀ m ∈ S.queue, ∃ i, Sanctioned D S i m.1 m.2.2
  pending : ∀ workflow_id c payload, S.flows workflow_id = some c →
    c.state.approval_signal = some payload → ∃ i, Sanctioned D S i workflow_id payload

/-- Every request of `S` is there in `S'`, and has come at least as far. -/
def Keeps (S S' : ApprovalSystem Tok ι) : Prop :=
  ∀ i w c, S.requests i = some (w, c) → ∃ c', S'.requests i = some (w, c') ∧ c.hist <+: c'.hist

variable {S S' : ApprovalSystem Tok ι} {workflow_id : String} {c : Config Tok}

theorem Sanctioned.keeps {i : ι} {payload : ApprovalSignalPayload}
    (h : Sanctioned D S i workflow_id payload) (hk : Keeps S S') :
    Sanctioned D S' i workflow_id payload := by
  obtain ⟨w, c, hi, ⟨claims, ha⟩, hsigns, hmem⟩ := h
  obtain ⟨c', hi', behind, hbehind⟩ := hk i w c hi
  obtain ⟨snapshot, hhead, hsame⟩ := ha.session
  refine ⟨w, c', hi', ⟨claims, { ha with session := ⟨snapshot, ?_, hsame⟩ }⟩, hsigns, ?_⟩
  · rw [← hbehind, List.head?_append, hhead]
    rfl
  · rw [← hbehind, List.map_append]
    exact List.mem_append_left _ hmem

theorem setFlow_self (S : ApprovalSystem Tok ι) (workflow_id : String) (c : Config Tok) :
    (S.setFlow workflow_id c).flows workflow_id = some c :=
  Function.update_self ..

theorem setFlow_of_ne {id : String} (h : id ≠ workflow_id) :
    (S.setFlow workflow_id c).flows id = S.flows id :=
  Function.update_of_ne h ..

theorem Sanctioned.approved {i : ι} {payload : ApprovalSignalPayload}
    (h : Sanctioned D S i workflow_id payload) :
    payload.approved = decide (D.name i = .approve) := by
  obtain ⟨_, _, _, _, hsigns, _⟩ := h
  exact hsigns.2.2.1

/-- What happens to a workflow. -/
theorem Inv.setFlow (hinv : Inv D S) (hc : AgentTaskWorkflow.Reaches (D.task workflow_id) c)
    (hpending : ∀ payload, c.state.approval_signal = some payload →
      ∃ i, Sanctioned D S i workflow_id payload) :
    Inv D (S.setFlow workflow_id c) where
  requests := hinv.requests
  flows := by
    intro id c' hid
    by_cases h : id = workflow_id
    · subst h
      cases (setFlow_self S id c).symm.trans hid
      exact hc
    · rw [setFlow_of_ne h] at hid
      exact hinv.flows id c' hid
  queue := hinv.queue
  pending := by
    intro id c' payload hid hsig
    by_cases h : id = workflow_id
    · subst h
      cases (setFlow_self S id c).symm.trans hid
      exact hpending payload hsig
    · rw [setFlow_of_ne h] at hid
      exact hinv.pending id c' payload hid hsig

/-- Another queue and another server, of which the queue matters. -/
theorem Inv.requeue (hinv : Inv D S) (hflows : S'.flows = S.flows)
    (hrequests : S'.requests = S.requests)
    (hqueue : ∀ m ∈ S'.queue, ∃ i, Sanctioned D S i m.1 m.2.2) : Inv D S' := by
  have hkeeps : Keeps S S' := fun i w c hi => ⟨c, by rw [hrequests, hi], List.prefix_rfl⟩
  refine ⟨?_, ?_, ?_, ?_⟩
  · rw [hrequests]
    exact hinv.requests
  · rw [hflows]
    exact hinv.flows
  · intro m hm
    obtain ⟨i, hi⟩ := hqueue m hm
    exact ⟨i, hi.keeps hkeeps⟩
  · intro id c payload hid hsig
    rw [hflows] at hid
    obtain ⟨i, hi⟩ := hinv.pending id c payload hid hsig
    exact ⟨i, hi.keeps hkeeps⟩

section
variable [DecidableEq ι] {i : ι} {w : World Tok} {c' : Hitl.RequestConf Tok}

theorem setRequest_self (S : ApprovalSystem Tok ι) (i : ι) (w : World Tok)
    (c' : Hitl.RequestConf Tok) : (S.setRequest i w c').requests i = some (w, c') :=
  Function.update_self ..

theorem setRequest_of_ne {j : ι} (h : j ≠ i) :
    (S.setRequest i w c').requests j = S.requests j :=
  Function.update_of_ne h ..

/-- What happens to a request. -/
theorem Inv.setRequest (hinv : Inv D S)
    (hc : Co.Conf.Reachable (fun _ _ => True) Hitl.Replies
      (Hitl.handler (some D.env) (D.name i) (some (D.request i))) w c')
    (hkeep : ∀ w₀ c, S.requests i = some (w₀, c) → w₀ = w ∧ c.hist <+: c'.hist) :
    Inv D (S.setRequest i w c') ∧ Keeps S (S.setRequest i w c') := by
  have hkeeps : Keeps S (S.setRequest i w c') := by
    intro j w₀ c hj
    by_cases h : j = i
    · subst h
      obtain ⟨rfl, hprefix⟩ := hkeep w₀ c hj
      exact ⟨c', setRequest_self S j w₀ c', hprefix⟩
    · exact ⟨c, (setRequest_of_ne h).trans hj, List.prefix_rfl⟩
  refine ⟨⟨?_, hinv.flows, ?_, ?_⟩, hkeeps⟩
  · intro j w₀ c hj
    by_cases h : j = i
    · subst h
      cases (setRequest_self S j w c').symm.trans hj
      exact hc
    · rw [setRequest_of_ne h] at hj
      exact hinv.requests j w₀ c hj
  · intro m hm
    obtain ⟨j, hj⟩ := hinv.queue m hm
    exact ⟨j, hj.keeps hkeeps⟩
  · intro id c payload hid hsig
    obtain ⟨j, hj⟩ := hinv.pending id c payload hid hsig
    exact ⟨j, hj.keeps hkeeps⟩

omit [DecidableEq ι] in
/-- An answer of the cluster or the policy engine is one that a request may get, and what it puts on
its way is the signal it answers. -/
theorem Replied.replies {q : HitlCall} {r : Except Exc q.Answer}
    {sent : List (String × SignalName × ApprovalSignalPayload)} (h : S.Replied q r sent)
    (w : World Tok) :
    Hitl.Replies q r w ∧ ∀ m ∈ sent, q = .temporal (.signal m.1 m.2.1 m.2.2) := by
  cases h with
  | snapshot _ | signalled _ _ =>
      refine ⟨?_, by simp⟩
      intro e he
      cases he
  | raised he | unsure he =>
      refine ⟨?_, by simp⟩
      intro e' he'
      cases he'
      exact he
  | evaluated hs => exact ⟨⟨_, _, hs, rfl⟩, by simp⟩

theorem Inv.reply (hinv : Inv D S) {s₀ s₁ s : World Tok} {h : Hitl.Answers} {q : HitlCall}
    {k : Except Exc q.Answer → Hitl.Run Tok ApprovalDecisionResponse} {r : Except Exc q.Answer}
    {sent : List (String × SignalName × ApprovalSignalPayload)}
    (hi : S.requests i = some (w, ⟨h, s₀, s₁, .waiting q k, s⟩)) (hr : S.Replied q r sent) :
    Inv D { S.setRequest i w (Co.Conf.answer h q k r S.server) with queue := S.queue ++ sent } := by
  obtain ⟨hreplies, hsent⟩ := hr.replies S.server
  have hreach : Co.Conf.Reachable (fun _ _ => True) Hitl.Replies
      (Hitl.handler (some D.env) (D.name i) (some (D.request i))) w
      ⟨h, s₀, s₁, .waiting q k, S.server⟩ := (hinv.requests i w _ hi).tail (.interfere trivial)
  obtain ⟨hinv', hkeeps⟩ := hinv.setRequest (hreach.tail (.answer hreplies)) (by
    intro w₀ c hc
    cases hi.symm.trans hc
    exact ⟨rfl, List.prefix_append _ _⟩)
  refine hinv'.requeue rfl rfl ?_
  intro m hm
  rcases List.mem_append.mp hm with hm | hm
  · exact hinv'.queue m hm
  · -- the signal that has been answered is on its way
    have hq := hsent m hm
    subst hq
    obtain ⟨hgranted, hsigns⟩ := Hitl.signal_awaited hreach rfl
    obtain ⟨hid, hname, hpayload⟩ := hsigns
    refine ⟨i, w, _, setRequest_self _ _ _ _, hgranted.append _, ⟨hid, rfl, hpayload⟩, ?_⟩
    rw [← hname]
    simp [Co.Conf.answer]

theorem Inv.step (hinv : Inv D S) (h : Step D S S') : Inv D S' := by
  cases h with
  | @start workflow_id _ =>
      refine hinv.setFlow ⟨{}, .refl, .refl⟩ ?_
      intro payload hsig
      have hstart : AgentTaskWorkflow.Reaches (D.task workflow_id)
          (Co.Conf.start (AgentTaskWorkflow.run (D.task workflow_id) : Flow Tok _) {}) :=
        ⟨{}, .refl, .refl⟩
      cases (AgentTaskWorkflow.good_stop hstart.good).unwritten.symm.trans hsig
  | @resume workflow_id h s₀ s₁ s q k r hid hr =>
      have hc := hinv.flows _ _ hid
      refine hinv.setFlow (hc.step (.answer hr)) ?_
      intro payload hsig
      exact hinv.pending _ _ payload hid ((hc.unwritten hr).symm.trans hsig)
  | @time workflow_id c t hid =>
      refine hinv.setFlow ((hinv.flows _ _ hid).step (.interfere (.time t _))) ?_
      exact fun payload hsig => hinv.pending _ _ payload hid hsig
  | @deliver workflow_id c m before behind hqueue hid =>
      have hmem : (workflow_id, m) ∈ S.queue := by
        rw [hqueue]
        exact List.mem_append_right _ List.mem_cons_self
      have hsignalled : AgentTaskWorkflow.Signalled c.state (Protocol.handle m c.state) := by
        rcases m with ⟨_ | _, d⟩
        · exact .approve d _
        · exact .deny d _
      have hc := (hinv.flows _ _ hid).step (.interfere hsignalled)
      refine (hinv.setFlow hc ?_).requeue rfl rfl ?_
      · intro payload hsig
        rcases AgentTaskWorkflow.handle_signal m c.state with hset | hsame
        · rw [show _ = _ from hset] at hsig
          cases hsig
          exact hinv.queue _ hmem
        · exact hinv.pending _ _ payload hid (hsame ▸ hsig)
      · intro m' hm'
        refine hinv.queue m' ?_
        rw [hqueue]
        rcases List.mem_append.mp hm' with hm' | hm'
        · exact List.mem_append_left _ hm'
        · exact List.mem_append_right _ (List.mem_cons_of_mem _ hm')
  | @arrive i hi =>
      refine (hinv.setRequest .refl ?_).1
      intro w₀ c hc
      cases hi.symm.trans hc
  | @reply i w s₀ s₁ s h q k r sent hi hr => exact hinv.reply hi hr
  | @serve w => exact hinv.requeue rfl rfl hinv.queue

theorem Reachable.inv (h : Reachable D S) : Inv D S := by
  obtain ⟨S₀, ⟨hflows, hqueue, hrequests⟩, hsteps⟩ := h
  induction hsteps with
  | refl =>
      refine ⟨?_, ?_, ?_, ?_⟩ <;> simp [hflows, hqueue, hrequests]
  | tail _ hs ih => exact ih.step hs

/-! ## From the request to the adapter -/

open AgentTaskWorkflow (DecidedBy decisionEvents scheduled Gated exceeds_threshold) in
/-- **Every decision is that of an authorised request**, in every state of the system: the one a
workflow has settled by, the one its audit records name, and the approval behind which alone a
task over the threshold spends budget or calls the model. -/
theorem decision_end_to_end (hS : Reachable D S) (hc : S.flows workflow_id = some c) :
    (∀ d, DecidedBy c d → ∃ i, Sanctioned D S i workflow_id d) ∧
    (∀ ev ∈ decisionEvents c, ev.event ≠ "workflow.timed_out" → ∃ i d,
      Sanctioned D S i workflow_id d ∧
        ev.event = (if D.name i = .approve then "workflow.approved" else "workflow.denied") ∧
        ev.details = [("approver_id", .str d.approver_id), ("reason", .str d.reason)]) ∧
    (exceeds_threshold (D.task workflow_id) = .ok true → ∀ q ∈ scheduled c, Gated q → ∃ i d,
      D.name i = .approve ∧ Sanctioned D S i workflow_id d ∧ DecidedBy c d) := by
  have hinv := hS.inv
  have hreaches := hinv.flows _ _ hc
  have hevents := AgentTaskWorkflow.good_events hreaches.good
  unfold AgentTaskWorkflow.EventsMatch at hevents
  refine ⟨fun d hd => hinv.pending _ _ d hc hd.2, ?_, ?_⟩
  · intro ev hev hne
    cases hst : c.state.approval_state with
    | NOT_REQUIRED | AWAITING_APPROVAL =>
        rw [hst] at hevents
        rw [hevents] at hev
        cases hev
    | APPROVED | DENIED =>
        rw [hst] at hevents
        obtain ⟨d, ev', hsig, happroved, hall, hname, hdetails⟩ := hevents
        rw [hall, List.mem_singleton] at hev
        subst hev
        obtain ⟨i, hi⟩ := hinv.pending _ _ d hc hsig
        have hdecide := hi.approved.symm.trans happroved
        refine ⟨i, d, hi, ?_, hdetails⟩
        rw [hname]
        simpa using hdecide
    | TIMED_OUT =>
        rw [hst] at hevents
        obtain ⟨ev', hall, hname⟩ := hevents
        rw [hall, List.mem_singleton] at hev
        exact absurd (hev ▸ hname) hne
  · intro hexc q hq hg
    have hst := hreaches.approved hexc q hq hg
    rw [hst] at hevents
    obtain ⟨d, -, hsig, happroved, -⟩ := hevents
    obtain ⟨i, hi⟩ := hinv.pending _ _ d hc hsig
    have hdecide := hi.approved.symm.trans happroved
    exact ⟨i, d, by simpa using hdecide, hi, .inl hst, hsig⟩

end

end

/-! ### A run of the system -/

inductive Turn (ι : Type) where
  | start (workflow_id : String)
  | resume (workflow_id : String)
  | deliver
  | arrive (i : ι)
  | reply (i : ι)

/-- What a cluster that can be reached, and an OPA server, answer. -/
def served (S : ApprovalSystem Tok ι) : (q : HitlCall) → Except Exc q.Answer
  | .temporal (.query workflow_id) =>
      match S.flows workflow_id with
      | some c => .ok c.state.approval_status
      | none => .error ⟨.other "RPCError", "workflow not found"⟩
  | .temporal (.signal workflow_id _ _) =>
      match S.flows workflow_id with
      | some c => if (AgentTaskWorkflow.waitingFor c).isSome then .ok ()
          else .error ⟨.other "RPCError", "workflow execution already completed"⟩
      | none => .error ⟨.other "RPCError", "workflow not found"⟩
  | .evaluate policy_name input => PolicyEngine.evaluate "http://localhost:8181" policy_name
      (.response 200 (some (AgentAccess.document input)))

/-- The signal of a call that has been answered. -/
def sends : (q : HitlCall) → Except Exc q.Answer →
    List (String × SignalName × ApprovalSignalPayload)
  | .temporal (.signal workflow_id name payload), .ok _ => [(workflow_id, name, payload)]
  | _, _ => []

theorem served_replied (S : ApprovalSystem Tok ι) (q : HitlCall) :
    S.Replied q (S.served q) (sends q (S.served q)) := by
  rcases q with (workflow_id | ⟨workflow_id, name, payload⟩) | ⟨policy_name, input⟩
  · cases h : S.flows workflow_id with
    | some c =>
        simp only [served, h]
        exact .snapshot h
    | none =>
        simp only [served, h]
        exact .raised (by simp)
  · cases h : S.flows workflow_id with
    | some c =>
        by_cases hrun : (AgentTaskWorkflow.waitingFor c).isSome
        · simp only [served, h, if_pos hrun]
          exact .signalled h hrun
        · simp only [served, h, if_neg hrun]
          exact .raised (by simp)
    | none =>
        simp only [served, h]
        exact .raised (by simp)
  · have hserves : Serves policy_name input (.response 200 (some (AgentAccess.document input))) :=
      fun _ _ _ => rfl
    exact @Replied.evaluated _ _ S _ "http://localhost:8181" _ _ hserves

section
variable [DecidableEq ι] (D : Deployment Tok ι)
  (f : (q : WorkflowCall Tok) → Except Exc q.Answer)

/-- One turn; the activities answer as `f` does.  A turn that cannot be taken is passed over. -/
def turn (S : ApprovalSystem Tok ι) : Turn ι → ApprovalSystem Tok ι
  | .start workflow_id =>
      match S.flows workflow_id with
      | none => S.setFlow workflow_id
          (Co.Conf.start (AgentTaskWorkflow.run (D.task workflow_id)) {})
      | some _ => S
  | .resume workflow_id =>
      match S.flows workflow_id with
      | some ⟨h, _, _, .waiting q k, s⟩ =>
          if MayAnswer q (f q) s then S.setFlow workflow_id (Co.Conf.answer h q k (f q) s) else S
      | _ => S
  | .deliver =>
      match S.queue with
      | (workflow_id, m) :: rest =>
          match S.flows workflow_id with
          | some c =>
              { S.setFlow workflow_id { c with state := Protocol.handle m c.state } with
                queue := rest }
          | none => S
      | [] => S
  | .arrive i =>
      match S.requests i with
      | none => S.setRequest i S.server
          (Co.Conf.start (Hitl.handler (some D.env) (D.name i) (some (D.request i))) S.server)
      | some _ => S
  | .reply i =>
      match S.requests i with
      | some (w, ⟨h, _, _, .waiting q k, _⟩) =>
          { S.setRequest i w (Co.Conf.answer h q k (S.served q) S.server) with
            queue := S.queue ++ sends q (S.served q) }
      | _ => S

variable {D f}

theorem Reachable.turn {S : ApprovalSystem Tok ι} (h : Reachable D S) (t : Turn ι) :
    Reachable D (S.turn D f t) := by
  obtain ⟨S₀, h₀, hsteps⟩ := h
  have hstep : ∀ {S'}, Step D S S' → Reachable D S' := fun hs => ⟨S₀, h₀, hsteps.tail hs⟩
  have hstay : Reachable D S := ⟨S₀, h₀, hsteps⟩
  cases t with
  | start workflow_id =>
      simp only [ApprovalSystem.turn]
      split
      · rename_i hid
        exact hstep (.start hid)
      · exact hstay
  | resume workflow_id =>
      simp only [ApprovalSystem.turn]
      split
      · rename_i hid
        split
        · rename_i hmay
          exact hstep (.resume hid hmay)
        · exact hstay
      · exact hstay
  | deliver =>
      simp only [ApprovalSystem.turn]
      split
      · rename_i workflow_id m rest hqueue
        split
        · rename_i hid
          have hfirst : S.queue = [] ++ (workflow_id, m) :: rest := hqueue
          exact hstep (.deliver hfirst hid)
        · exact hstay
      · exact hstay
  | arrive i =>
      simp only [ApprovalSystem.turn]
      split
      · rename_i hi
        exact hstep (.arrive hi)
      · exact hstay
  | reply i =>
      simp only [ApprovalSystem.turn]
      split
      · rename_i hi
        exact hstep (.reply hi (served_replied S _))
      · exact hstay

theorem Reachable.turns (ts : List (Turn ι)) :
    ∀ {S : ApprovalSystem Tok ι}, Reachable D S →
      Reachable D (ts.foldl (ApprovalSystem.turn D f) S) := by
  induction ts with
  | nil => exact id
  | cons t ts ih => exact fun h => ih (h.turn t)

end

/-- One task over the threshold, and an administrator who approves it. -/
def oneTask : Deployment SymToken Unit where
  env := symbolicEnv {}
  name _ := .approve
  request _ := Hitl.adminRequest
  task _ := AgentTaskWorkflow.gatedInput

/-- Activities that succeed, and a wait that ends when it may. -/
def activities : (q : WorkflowCall SymToken) → Except Exc q.Answer
  | .PrePIIScrub inp => .ok ⟨inp.prompt, []⟩
  | .PolicyEval inp => .ok ⟨true, "allow", [], inp.sanitized_prompt, []⟩
  | .JITTokenIssue _ => .ok ⟨Hitl.adminToken, "jti-0", none, none⟩
  | .BudgetPreCheck _ => .ok ⟨BudgetSession.serialize ⟨⟨""⟩, "general", 1, 0, 0, [], ∅⟩⟩
  | .LLMInvoke inp => .ok ⟨"hi", 7, inp.model, "openai", 0⟩
  | .BudgetRecordSpend inp =>
      .ok ⟨BudgetSession.serialize ⟨⟨""⟩, "general", 1, 0, 0, [], ∅⟩, inp.history⟩
  | .PostSanitize inp => .ok ⟨inp.content, []⟩
  | .WorkflowAudit _ => .ok ()
  | .wait_condition _ => .ok ()

/-- The workflow up to its gate, the request while the gate is open, and the workflow up to the
model. -/
def schedule : List (Turn Unit) :=
  [.start "task-0", .resume "task-0", .resume "task-0", .resume "task-0", .resume "task-0",
    .arrive (), .reply (), .reply (), .reply (), .reply (), .deliver,
    .resume "task-0", .resume "task-0"]

def approvedSystem : ApprovalSystem SymToken Unit :=
  schedule.foldl (turn oneTask activities)
    ⟨fun _ => none, [], Orchestrator.plainWorld, fun _ => none⟩

def invokes : WorkflowCall SymToken → Bool
  | .LLMInvoke _ => true
  | _ => false

open AgentTaskWorkflow (waitingFor) in
/-- The model is being called, behind the approval of an administrator. -/
theorem approvedSystem_sanctioned :
    ∃ c inp, approvedSystem.flows "task-0" = some c ∧ waitingFor c = some (.LLMInvoke inp) ∧
      ∃ i d, oneTask.name i = .approve ∧ Sanctioned oneTask approvedSystem i "task-0" d := by
  have hreachable : Reachable oneTask approvedSystem :=
    Reachable.turns schedule ⟨_, ⟨rfl, rfl, rfl⟩, .refl⟩
  have hend : ((approvedSystem.flows "task-0").bind waitingFor).map invokes = some true := by
    decide +kernel
  obtain ⟨q, hq, hllm⟩ := Option.map_eq_some_iff.mp hend
  obtain ⟨c, hc, hwait⟩ := Option.bind_eq_some_iff.mp hq
  cases q with
  | LLMInvoke inp =>
      refine ⟨c, inp, hc, hwait, ?_⟩
      have h := (decision_end_to_end hreachable hc).2.2 (by decide +kernel) (.LLMInvoke inp)
        (List.mem_append_right _ (Option.mem_toList.mpr hwait)) trivial
      obtain ⟨i, d, hname, hsanctioned, -⟩ := h
      exact ⟨i, d, hname, hsanctioned⟩
  | _ => cases hllm

end ApprovalSystem

end AegisOs
