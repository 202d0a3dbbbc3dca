/-
# `AegisOs.ControlPlane.Approval` — the approval protocol

`TaskApprovalService` of `approval_service.py`, and the protocol it runs with a
workflow at the approval gate.  A service call is two awaits: it queries the
workflow's snapshot, and only when that says awaiting-approval it sends its
signal and returns.

**The protocol.**  A `Protocol` state is a configuration of the workflow, the
signals on their way to it, oldest first, and any number of service calls.
`Protocol.Step` interleaves them: the workflow is resumed with an answer, the
oldest signal is delivered, a call makes its query, a call sends its signal.

`Agreement` is what the callers rely on: what a call returned is what the gate
ends in.  `Careful` is the condition on a step under which it is kept.
-/
import AegisOs.ControlPlane.ApprovalGate

namespace AegisOs

open Lib

/-! ## The service -/

structure ApprovalDecisionResult where
  task_id : Uuid
  status : String
  actor_id : String
  reason : String
  deriving DecidableEq

/-- The two signals of the workflow. -/
inductive SignalName where
  | approve | deny
  deriving DecidableEq

/-- The calls of the Temporal client the service makes on a workflow's handle. -/
inductive TemporalCall where
  | query (workflow_id : String)
  | signal (workflow_id : String) (name : SignalName) (payload : ApprovalSignalPayload)
  deriving DecidableEq

def TemporalCall.Answer : TemporalCall → Type
  | .query _ => ApprovalStatusSnapshot
  | .signal _ _ _ => Unit

namespace TaskApprovalService

abbrev Service : Type → Type := Co Unit Exc TemporalCall TemporalCall.Answer

/-- `handle.query(AgentTaskWorkflow.approval_status)`. -/
def query (workflow_id : String) : Service ApprovalStatusSnapshot :=
  Co.call (TemporalCall.query workflow_id)

/-- `handle.signal(...)`. -/
def signal (workflow_id : String) (name : SignalName) (payload : ApprovalSignalPayload) :
    Service Unit :=
  Co.call (TemporalCall.signal workflow_id name payload)

/-- `get_snapshot`: whatever goes wrong, the task is not found. -/
def get_snapshot (task_id : Uuid) : Service ApprovalStatusSnapshot :=
  tryCatch (query task_id.text) fun _ => throw ⟨.PendingApprovalNotFoundError,
    [.lit "No active PendingApproval workflow found for task_id=", .lit task_id.text]⟩

/-- `get_pending_snapshot`. -/
def get_pending_snapshot (task_id : Uuid) : Service ApprovalStatusSnapshot := do
  let snapshot ← get_snapshot task_id
  if snapshot.approval_state ≠ PendingApprovalState.AWAITING_APPROVAL.value then
    throw ⟨.PendingApprovalConflictError,
      [.lit "Task ", .lit task_id.text, .lit " is no longer awaiting approval (approval_state=",
        .lit snapshot.approval_state, .lit ", workflow_status=", .lit snapshot.workflow_status,
        .lit ")"]⟩
  return snapshot

/-- The body `approve` and `deny` share. -/
def signal_decision (name : SignalName) (approved : Bool) (status : PendingApprovalState)
    (task_id : Uuid) (approver_id reason : String) : Service ApprovalDecisionResult := do
  let _ ← get_pending_snapshot task_id
  signal task_id.text name ⟨approver_id, reason, approved⟩
  return ⟨task_id, status.value, approver_id, reason⟩

/-- `approve`. -/
def approve : Uuid → String → String → Service ApprovalDecisionResult :=
  signal_decision .approve true .APPROVED

/-- `deny`. -/
def deny : Uuid → String → String → Service ApprovalDecisionResult :=
  signal_decision .deny false .DENIED

/-- What a payload decides. -/
def decisionOf (d : ApprovalSignalPayload) : PendingApprovalState :=
  if d.approved then .APPROVED else .DENIED

abbrev Log : Type := Co.Hist Exc TemporalCall TemporalCall.Answer

/-- A call that returns has just sent a signal that decides what it returns. -/
def Returned (h : Log) (r : ApprovalDecisionResult) : Prop :=
  ∃ h₀ id name d, h = h₀ ++ [⟨.signal id name d, .ok ()⟩] ∧ r.status = (decisionOf d).value

/-- No signal of the call has been accepted yet. -/
def Unsent (h : Log) : Prop :=
  ∀ id name d, (⟨.signal id name d, .ok ()⟩ : Σ q : TemporalCall, Except Exc q.Answer) ∉ h

theorem Unsent.nil : Unsent [] := by
  intro id name d hm
  cases hm

theorem Unsent.error {h : Log} (hu : Unsent h) (q : TemporalCall) (e : Exc) :
    Unsent (h ++ [⟨q, .error e⟩]) := by
  intro id name d hm
  rcases List.mem_append.mp hm with hm | hm
  · exact hu id name d hm
  · cases List.mem_singleton.mp hm

theorem Unsent.query {h : Log} (hu : Unsent h) (workflow_id : String)
    (r : Except Exc ApprovalStatusSnapshot) : Unsent (h ++ [⟨.query workflow_id, r⟩]) := by
  intro id name d hm
  rcases List.mem_append.mp hm with hm | hm
  · exact hu id name d hm
  · cases List.mem_singleton.mp hm

/-- Where a call awaits: nothing has been sent, and a signal is sent only after a query that saw the
workflow awaiting approval. -/
def AtAwait (h : Log) (q : TemporalCall) : Prop :=
  Unsent h ∧ ∀ id name d, q = .signal id name d →
    ∃ (h₀ : Log) (id' : String) (snapshot : ApprovalStatusSnapshot),
      h = h₀ ++ [⟨.query id', .ok snapshot⟩] ∧
      snapshot.approval_state = PendingApprovalState.AWAITING_APPROVAL.value

/-- What the programs of the service keep to. -/
abbrev ServiceSafe (h : Log) (p : Service ApprovalDecisionResult) : Prop :=
  Co.Safe Co.anyEnv (fun h _ q _ => AtAwait h q) (fun h _ r _ => Returned h r)
    (fun h _ _ _ => Unsent h) h () p ()

/-- A call awaits and raises only before its signal; behind it, it returns. -/
theorem signal_decision_safe {name : SignalName} {approved : Bool} {status : PendingApprovalState}
    (hst : status = if approved then .APPROVED else .DENIED) (task_id : Uuid)
    (approver_id reason : String) :
    ServiceSafe [] (signal_decision name approved status task_id approver_id reason) := by
  unfold signal_decision get_pending_snapshot get_snapshot
  refine Co.Safe.bind (Co.Safe.bind (Co.Safe.tryCatch
    (Co.Safe.call (q := TemporalCall.query task_id.text)
      ⟨Unsent.nil, fun _ _ _ h => nomatch h⟩ ?_ ?_)))
  · intro snapshot _ _
    by_cases hp : snapshot.approval_state ≠ PendingApprovalState.AWAITING_APPROVAL.value
    · rw [if_pos hp]
      exact Unsent.nil.query _ _
    · rw [if_neg hp]
      refine Co.Safe.bind (Co.Safe.call
        (q := TemporalCall.signal task_id.text name ⟨approver_id, reason, approved⟩)
        ⟨Unsent.nil.query _ _, fun _ _ _ _ => ⟨[], _, snapshot, rfl, not_not.mp hp⟩⟩ ?_ ?_)
      · intro _ _ _
        exact ⟨_, _, _, ⟨approver_id, reason, approved⟩, rfl, by rw [hst]; rfl⟩
      · intro e _ _
        exact (Unsent.nil.query _ _).error _ e
  · intro e _ _
    exact Unsent.nil.error _ e

end TaskApprovalService

/-! ## The protocol -/

open TaskApprovalService

/-- A call of the service. -/
abbrev ServiceCall : Type :=
  Co.Thread Unit Exc TemporalCall TemporalCall.Answer ApprovalDecisionResult

structure Protocol (Tok ι : Type) where
  flow : AgentTaskWorkflow.Config Tok
  queue : List (SignalName × ApprovalSignalPayload)
  calls : ι → ServiceCall

namespace Protocol

variable {Tok ι : Type}

/-- The handler of a signal. -/
def handle : SignalName × ApprovalSignalPayload → AgentTaskWorkflow → AgentTaskWorkflow
  | (.approve, d) => AgentTaskWorkflow.approve d
  | (.deny, d) => AgentTaskWorkflow.deny d

/-- The workflow has not ended. -/
def Running (c : AgentTaskWorkflow.Config Tok) : Prop := (AgentTaskWorkflow.waitingFor c).isSome

/-- Let call `i` run on, after `h`, to its next stop. -/
def advance [DecidableEq ι] (S : Protocol Tok ι) (i : ι) (h : Log)
    (p : Service ApprovalDecisionResult) : ι → ServiceCall :=
  Function.update S.calls i (.stopped h (p.resume ()).1)

/-- What happened in a step. -/
inductive Event (Tok ι : Type) where
  | resume (q : WorkflowCall Tok) (r : Except Exc q.Answer)
  | deliver
  | time
  | begin (i : ι)
  | query (i : ι)
  | send (i : ι) (d : ApprovalSignalPayload)
  | refuse (i : ι)

inductive Step [DecidableEq ι] : Protocol Tok ι → Event Tok ι → Protocol Tok ι → Prop
  /-- What the workflow awaits is answered, the timer included. -/
  | resume {S : Protocol Tok ι} {h : AgentTaskWorkflow.Calls Tok} {s₀ s₁ s : AgentTaskWorkflow}
      {q : WorkflowCall Tok} {k : Except Exc q.Answer → AgentTaskWorkflow.Flow Tok WorkflowOutput}
      {r : Except Exc q.Answer} :
      S.flow = ⟨h, s₀, s₁, .waiting q k, s⟩ → AgentTaskWorkflow.MayAnswer q r s →
      Step S (.resume q r) { S with flow := Co.Conf.answer h q k r s }
  | deliver {S : Protocol Tok ι} {m : SignalName × ApprovalSignalPayload}
      {rest : List (SignalName × ApprovalSignalPayload)} :
      S.queue = m :: rest →
      Step S .deliver
        { S with flow := { S.flow with state := handle m S.flow.state }, queue := rest }
  | time {S : Protocol Tok ι} (t : ℚ) :
      Step S .time { S with flow := { S.flow with state := { S.flow.state with now := t } } }
  | begin {S : Protocol Tok ι} {i : ι} {p : Service ApprovalDecisionResult} :
      S.calls i = .fresh p →
      Step S (.begin i) { S with calls := S.advance i [] p }
  | query {S : Protocol Tok ι} {i : ι} {h : Log} {id : String}
      {k : Except Exc ApprovalStatusSnapshot → Service ApprovalDecisionResult} :
      S.calls i = .stopped h (.waiting (.query id) k) →
      Step S (.query i)
        { S with
          calls := S.advance i (h ++ [⟨.query id, .ok S.flow.state.approval_status⟩])
            (k (.ok S.flow.state.approval_status)) }
  /-- Only a running workflow can be signalled. -/
  | send {S : Protocol Tok ι} {i : ι} {h : Log} {id : String} {name : SignalName}
      {d : ApprovalSignalPayload} {k : Except Exc Unit → Service ApprovalDecisionResult} :
      S.calls i = .stopped h (.waiting (.signal id name d) k) → Running S.flow →
      Step S (.send i d)
        { S with
          queue := S.queue ++ [(name, d)]
          calls := S.advance i (h ++ [⟨.signal id name d, .ok ()⟩]) (k (.ok ())) }
  /-- The client raises. -/
  | refuse {S : Protocol Tok ι} {i : ι} {h : Log} {q : TemporalCall}
      {k : Except Exc q.Answer → Service ApprovalDecisionResult} (e : Exc) :
      S.calls i = .stopped h (.waiting q k) →
      Step S (.refuse i) { S with calls := S.advance i (h ++ [⟨q, .error e⟩]) (k (.error e)) }

/-- A workflow that has just started, and calls that have not. -/
structure Initial (inp : WorkflowInput) (S : Protocol Tok ι) : Prop where
  flow : S.flow = Co.Conf.start (AgentTaskWorkflow.run inp) {}
  queue : S.queue = []
  calls : ∀ i, ∃ task_id approver_id reason, S.calls i = .fresh (approve task_id approver_id reason) ∨
    S.calls i = .fresh (deny task_id approver_id reason)

/-- `Trace S₀ tr S`: a run from `S₀` to `S`; `tr` has each step's event and the state before it. -/
inductive Trace [DecidableEq ι] (S₀ : Protocol Tok ι) :
    List (Protocol Tok ι × Event Tok ι) → Protocol Tok ι → Prop
  | start : Trace S₀ [] S₀
  | snoc {tr : List (Protocol Tok ι × Event Tok ι)} {S S' : Protocol Tok ι} {ev : Event Tok ι} :
      Trace S₀ tr S → Step S ev S' → Trace S₀ (tr ++ [(S, ev)]) S'

/-- What call `i` returned. -/
def returned (S : Protocol Tok ι) (i : ι) : Option ApprovalDecisionResult :=
  match S.calls i with
  | .stopped _ (.done r) => some r
  | _ => none

/-- No two calls have returned different decisions, and whenever a call has returned, the state the
gate ends in is the one it returned; the gate ends when it decides and when the workflow does. -/
def Agreement (S : Protocol Tok ι) : Prop :=
  (∀ i j r r', S.returned i = some r → S.returned j = some r' → r.status = r'.status) ∧
  ∀ i r, S.returned i = some r →
    AgentTaskWorkflow.Final S.flow.state.approval_state ∨ ¬Running S.flow →
    S.flow.state.approval_state.value = r.status

/-- A signal is sent only while nobody has returned the other decision and the gate is still open to
it, and the gate is not abandoned once somebody has returned. -/
def Careful (S : Protocol Tok ι) : Event Tok ι → Prop
  | .send _ d =>
      (∀ j r, S.returned j = some r → r.status = (decisionOf d).value) ∧
      (S.flow.state.approval_state = .AWAITING_APPROVAL ∨
        S.flow.state.approval_state = decisionOf d)
  | .resume _ (.error _) =>
      S.flow.state.approval_state = .AWAITING_APPROVAL → ∀ j, S.returned j = none
  | _ => True

end Protocol

end AegisOs
