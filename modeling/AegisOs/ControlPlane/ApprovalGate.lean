/-
# `AegisOs.ControlPlane.ApprovalGate` — the state machine of the approval gate

What holds of an instance of `AgentTaskWorkflow` in every configuration a run
can be in, whatever its activities answer and whatever signals arrive:

    not-required ──▸ awaiting-approval ──▸ approved | denied | timed-out

`Stop` is the assertion proved of every stop of `run` (`run_safe`): the pending
timestamp goes with the awaiting state, the decision events scheduled so far
are the ones the state calls for, and the segment that led to the stop made one
of the machine's moves, the deciding one with the signal it read.  Signals
change nothing in it but the pending decision (`Stop.signalled`), so it also
holds of every state a query can see.
-/
import AegisOs.ControlPlane.Workflow

namespace AegisOs.AgentTaskWorkflow

open Lib Lib.EState

variable {Tok : Type}

/-! ## What signals can change -/

/-- An instance as its own code left it, but for a pending decision and the time. -/
structure Drifted (w w' : AgentTaskWorkflow) : Prop where
  state : w'.approval_state = w.approval_state
  pending : w'.pending_since_epoch_seconds = w.pending_since_epoch_seconds
  status : w'.workflow_status = w.workflow_status
  signal : w.approval_state ≠ .AWAITING_APPROVAL → w'.approval_signal = w.approval_signal

theorem Drifted.refl (w : AgentTaskWorkflow) : Drifted w w := ⟨rfl, rfl, rfl, fun _ => rfl⟩

theorem Drifted.trans {w₁ w₂ w₃ : AgentTaskWorkflow} (h₁ : Drifted w₁ w₂) (h₂ : Drifted w₂ w₃) :
    Drifted w₁ w₃ where
  state := h₂.state.trans h₁.state
  pending := h₂.pending.trans h₁.pending
  status := h₂.status.trans h₁.status
  signal h := (h₂.signal (by rwa [h₁.state])).trans (h₁.signal h)

theorem drifted_on_signal (d : ApprovalSignalPayload) (w : AgentTaskWorkflow) :
    Drifted w (on_signal d w) := by
  unfold on_signal
  split
  · rename_i h
    exact ⟨rfl, rfl, rfl, fun hn => absurd h hn⟩
  · exact .refl w

theorem Signalled.drifted {w w' : AgentTaskWorkflow} (h : Signalled w w') : Drifted w w' := by
  cases h with
  | approve d => exact drifted_on_signal d w
  | deny d => exact drifted_on_signal d w
  | time t => exact ⟨rfl, rfl, rfl, fun _ => rfl⟩

theorem drifted_of_signals {w w' : AgentTaskWorkflow}
    (h : Relation.ReflTransGen Signalled w w') : Drifted w w' := by
  induction h with
  | refl => exact .refl w
  | tail _ hs ih => exact ih.trans hs.drifted

/-! ## The runs -/

/-- `wait_condition` returns only when its condition holds; all else may be answered at any time. -/
def MayAnswer : (q : WorkflowCall Tok) → Except Exc q.Answer → AgentTaskWorkflow → Prop
  | .wait_condition _, .ok _, w => w.approval_signal ≠ none
  | _, _, _ => True

instance decMayAnswer (q : WorkflowCall Tok) (r : Except Exc q.Answer) (w : AgentTaskWorkflow) :
    Decidable (MayAnswer q r w) :=
  match q, r with
  | .wait_condition _, .ok _ => inferInstanceAs (Decidable (w.approval_signal ≠ none))
  | .wait_condition _, .error _ => isTrue trivial
  | .PrePIIScrub _, _ | .PolicyEval _, _ | .JITTokenIssue _, _ | .BudgetPreCheck _, _
  | .LLMInvoke _, _ | .BudgetRecordSpend _, _ | .PostSanitize _, _ | .WorkflowAudit _, _ =>
      isTrue trivial

abbrev Config (Tok : Type) : Type :=
  Co.Conf AgentTaskWorkflow Exc (WorkflowCall Tok) WorkflowCall.Answer WorkflowOutput

abbrev Calls (Tok : Type) : Type := Co.Hist Exc (WorkflowCall Tok) WorkflowCall.Answer

/-- Whatever signals arrive, the program returns with `D`, if it returns. -/
abbrev FlowSafe {α : Type} (D : α → AgentTaskWorkflow → Prop) (h : Calls Tok)
    (w₀ : AgentTaskWorkflow) (p : Flow Tok α) (w : AgentTaskWorkflow) : Prop :=
  Co.Safe (Co.awaitEnv Signalled MayAnswer) (fun _ _ _ _ => True) (fun _ _ a w => D a w)
    (fun _ _ _ _ => True) h w₀ p w

/-- The configurations of a run; signals may precede it. -/
def Reaches (inp : WorkflowInput) (c : Config Tok) : Prop :=
  ∃ w₀, Relation.ReflTransGen Signalled {} w₀ ∧
    Co.Conf.Reachable Signalled MayAnswer (run inp) w₀ c

/-- One step of a run: a signal, the time, or an answer. -/
def Steps : Config Tok → Config Tok → Prop := Co.Conf.Step Signalled MayAnswer

/-- The calls of the pipeline that need the approval. -/
def Gated : WorkflowCall Tok → Prop
  | .BudgetPreCheck _ | .LLMInvoke _ | .BudgetRecordSpend _ | .PostSanitize _ => True
  | _ => False

/-- The audit record of a decision, when the call is one. -/
def decisionEvent : WorkflowCall Tok → Option WorkflowAuditInput
  | .WorkflowAudit inp =>
      if inp.event ∈ ["workflow.approved", "workflow.denied", "workflow.timed_out"] then some inp
      else none
  | _ => none

/-- The call a stop waits for. -/
def waitingFor (c : Config Tok) : Option (WorkflowCall Tok) :=
  match c.point with
  | .waiting q _ => some q
  | _ => none

/-- Every call scheduled so far. -/
def scheduled (c : Config Tok) : List (WorkflowCall Tok) :=
  c.hist.map Sigma.fst ++ (waitingFor c).toList

/-- The decision events scheduled so far. -/
def decisionEvents (c : Config Tok) : List WorkflowAuditInput :=
  (scheduled c).filterMap decisionEvent

/-! ## The assertion -/

/-- The decision events a state calls for. -/
def decided (inp : WorkflowInput) (w : AgentTaskWorkflow) : List WorkflowAuditInput :=
  match w.approval_state, w.approval_signal with
  | .APPROVED, some d => [decision_event inp d]
  | .DENIED, some d => [decision_event inp d]
  | .TIMED_OUT, _ => [timed_out_event inp]
  | _, _ => []

/-- The machine's moves; the last two are made by the segment that follows the wait. -/
inductive Move (h : Calls Tok) (w w' : AgentTaskWorkflow) : Prop
  | stay : w'.approval_state = w.approval_state → w'.approval_signal = w.approval_signal →
      Move h w w'
  | enter : w.approval_state = .NOT_REQUIRED → w'.approval_state = .AWAITING_APPROVAL →
      Move h w w'
  | settle (h₀ : Calls Tok) (t : ℤ) (d : ApprovalSignalPayload) :
      h = h₀ ++ [⟨.wait_condition t, .ok ()⟩] → w.approval_state = .AWAITING_APPROVAL →
      w.approval_signal = some d → w'.approval_signal = some d →
      w'.approval_state = (if d.approved then .APPROVED else .DENIED) → Move h w w'
  | timeOut (h₀ : Calls Tok) (t : ℤ) (e : Exc) :
      h = h₀ ++ [⟨.wait_condition t, .error e⟩] → e.kind = .TimeoutError →
      w.approval_state = .AWAITING_APPROVAL → w'.approval_state = .TIMED_OUT → Move h w w'

/-- The last call has not failed. -/
def Answered (h : Calls Tok) : Prop := ∀ h₀ q e, h ≠ h₀ ++ [⟨q, .error e⟩]

theorem answered_ok (h : Calls Tok) {q : WorkflowCall Tok} (a : q.Answer) :
    Answered (h ++ [⟨q, .ok a⟩]) := by
  intro h₀ q' e he
  obtain ⟨_, hlast⟩ := List.append_inj' he rfl
  cases hlast

/-- What holds where `run` stops, after the calls `h` and about to await `q`, having run from `w₀`
to `w`. -/
structure Stop (inp : WorkflowInput) (h : Calls Tok) (w₀ : AgentTaskWorkflow)
    (q : Option (WorkflowCall Tok)) (w : AgentTaskWorkflow) : Prop where
  pending : w.pending_since_epoch_seconds.isSome = true ↔ w.approval_state = .AWAITING_APPROVAL
  events : (h.map Sigma.fst ++ q.toList).filterMap decisionEvent = decided inp w
  signal : w.approval_state = .APPROVED ∨ w.approval_state = .DENIED →
    ∃ d, w.approval_signal = some d ∧ (d.approved = true ↔ w.approval_state = .APPROVED)
  gated : ∀ q', q = some q' → Gated q' → exceeds_threshold inp = .ok true →
    w.approval_state = .APPROVED
  move : Move h w₀ w
  /-- The workflow's own code never writes the pending decision. -/
  unwritten : w.approval_signal = w₀.approval_signal
  /-- No failure is passed over in the gate. -/
  answered : q ≠ none → w.approval_state = .AWAITING_APPROVAL → Answered h

theorem decided_drifted {inp : WorkflowInput} {w w' : AgentTaskWorkflow} (h : Drifted w w') :
    decided inp w' = decided inp w := by
  by_cases ha : w.approval_state = .AWAITING_APPROVAL
  · unfold decided
    rw [h.state, ha]
  · unfold decided
    rw [h.state, h.signal ha]

/-- A segment that has just been resumed. -/
theorem Stop.resumed {inp : WorkflowInput} {h : Calls Tok} {w₀ w w' : AgentTaskWorkflow}
    {q : WorkflowCall Tok} (hs : Stop inp h w₀ (some q) w)
    (hd : Relation.ReflTransGen Signalled w w') (r : Except Exc q.Answer) :
    Stop inp (h ++ [⟨q, r⟩]) w' none w' := by
  have hd := drifted_of_signals hd
  refine ⟨?_, ?_, ?_, ?_, .stay rfl rfl, rfl, fun hn => absurd rfl hn⟩
  · rw [hd.pending, hd.state]
    exact hs.pending
  · rw [decided_drifted hd, ← hs.events]
    simp
  · intro hst
    rw [hd.state] at hst ⊢
    have hne : w.approval_state ≠ .AWAITING_APPROVAL := by
      rcases hst with hst | hst <;> simp [hst]
    rw [hd.signal hne]
    exact hs.signal hst
  · intro q' hq'
    cases hq'

/-! ## Every stop of `run` -/

/-- What is asserted at an await, a return and a raise. -/
def AtCall (inp : WorkflowInput) (h : Calls Tok) (w₀ : AgentTaskWorkflow) (q : WorkflowCall Tok)
    (w : AgentTaskWorkflow) : Prop :=
  Stop inp h w₀ (some q) w

def AtReturn (inp : WorkflowInput) (h : Calls Tok) (w₀ : AgentTaskWorkflow) (out : WorkflowOutput)
    (w : AgentTaskWorkflow) : Prop :=
  Stop inp h w₀ none w ∧ w.approval_state ≠ .AWAITING_APPROVAL ∧
    (w.approval_state = .DENIED ∨ w.approval_state = .TIMED_OUT →
      out.tokens_used = 0 ∧ out.content = "")

/-- A run that raises in the gate raises what its last call answered. -/
def AtRaise (inp : WorkflowInput) (h : Calls Tok) (w₀ : AgentTaskWorkflow) (_ : Exc)
    (w : AgentTaskWorkflow) : Prop :=
  Stop inp h w₀ none w ∧
    (w.approval_state = .AWAITING_APPROVAL → ∃ h₀ q e, h = h₀ ++ [⟨q, .error e⟩])

section Rules
variable {α β : Type} {inp : WorkflowInput} {h : Calls Tok} {w₀ w : AgentTaskWorkflow}
  {D : Calls Tok → AgentTaskWorkflow → β → AgentTaskWorkflow → Prop}
  {X : Calls Tok → AgentTaskWorkflow → Exc → AgentTaskWorkflow → Prop}

/-- Scheduling a call that is not a decision event. -/
theorem Stop.schedule {q : WorkflowCall Tok} (hs : Stop inp h w₀ none w)
    (hq : decisionEvent q = none)
    (hg : Gated q → exceeds_threshold inp = .ok true → w.approval_state = .APPROVED)
    (ha : w.approval_state = .AWAITING_APPROVAL → Answered h) :
    Stop inp h w₀ (some q) w := by
  refine ⟨hs.pending, ?_, hs.signal, ?_, hs.move, hs.unwritten, fun _ => ha⟩
  · rw [← hs.events]
    simp [hq]
  · intro q' hq' hgq
    cases hq'
    exact hg hgq

/-- A call, in the state that the stop before it described. -/
theorem safe_execute {q : WorkflowCall Tok}
    {D : Calls Tok → AgentTaskWorkflow → q.Answer → AgentTaskWorkflow → Prop}
    (hs : Stop inp h w₀ (some q) w)
    (hok : ∀ a w', Drifted w w' → MayAnswer q (.ok a) w' →
      Stop inp (h ++ [⟨q, .ok a⟩]) w' none w' → D (h ++ [⟨q, .ok a⟩]) w' a w')
    (herr : ∀ e w', Drifted w w' → Stop inp (h ++ [⟨q, .error e⟩]) w' none w' →
      X (h ++ [⟨q, .error e⟩]) w' e w') :
    Co.Safe (Co.awaitEnv Signalled MayAnswer) (AtCall inp) D X h w₀ (execute q) w := by
  refine Co.Safe.call hs ?_ ?_
  · intro a w' henv
    exact hok a w' (drifted_of_signals henv.1) henv.2 (hs.resumed henv.1 _)
  · intro e w' henv
    exact herr e w' (drifted_of_signals henv.1) (hs.resumed henv.1 _)

/-- Code on the fields that returns. -/
theorem safe_lift {m : EStateM Exc AgentTaskWorkflow α} {f : α → Flow Tok β} {a : α}
    {w' : AgentTaskWorkflow} (hm : m w = .ok a w')
    (hk : Co.Safe (Co.awaitEnv Signalled MayAnswer) (AtCall inp) D X h w₀ (f a) w') :
    Co.Safe (Co.awaitEnv Signalled MayAnswer) (AtCall inp) D X h w₀ (Co.lift m >>= f) w := by
  refine Co.Safe.bind (Co.Safe.lift ?_ ?_)
  · intro a' w₁ hm'
    cases hm.symm.trans hm'
    exact hk
  · intro e w₁ hm'
    cases hm.symm.trans hm'

theorem safe_set {g : AgentTaskWorkflow → AgentTaskWorkflow} {f : Unit → Flow Tok β}
    (hk : Co.Safe (Co.awaitEnv Signalled MayAnswer) (AtCall inp) D X h w₀ (f ()) (g w)) :
    Co.Safe (Co.awaitEnv Signalled MayAnswer) (AtCall inp) D X h w₀ (set g >>= f) w :=
  safe_lift rfl hk

theorem safe_self {f : AgentTaskWorkflow → Flow Tok β}
    (hk : Co.Safe (Co.awaitEnv Signalled MayAnswer) (AtCall inp) D X h w₀ (f w) w) :
    Co.Safe (Co.awaitEnv Signalled MayAnswer) (AtCall inp) D X h w₀ (self >>= f) w :=
  safe_lift rfl hk

/-- The status is no part of the assertion. -/
theorem Stop.set_status {q : Option (WorkflowCall Tok)} (hs : Stop inp h w₀ q w)
    (status : String) : Stop inp h w₀ q { w with workflow_status := status } := by
  refine ⟨hs.pending, hs.events, hs.signal, hs.gated, ?_, hs.unwritten, hs.answered⟩
  cases hs.move with
  | stay h₁ h₂ => exact .stay h₁ h₂
  | enter h₁ h₂ => exact .enter h₁ h₂
  | settle h₀ t d h₁ h₂ h₃ h₄ h₅ => exact .settle h₀ t d h₁ h₂ h₃ h₄ h₅
  | timeOut h₀ t e h₁ h₂ h₃ h₄ => exact .timeOut h₀ t e h₁ h₂ h₃ h₄

/-- The gate is behind the run, or there is none. -/
def Open (inp : WorkflowInput) (w : AgentTaskWorkflow) : Prop :=
  w.approval_state = .APPROVED ∨
    (w.approval_state = .NOT_REQUIRED ∧ exceeds_threshold inp ≠ .ok true)

theorem Open.ne_awaiting (ho : Open inp w) : w.approval_state ≠ .AWAITING_APPROVAL := by
  rcases ho with ha | ⟨ha, _⟩ <;> simp [ha]

/-- Past the gate, or before it, a raise has nothing more to show. -/
theorem Stop.atRaise (hs : Stop inp h w₀ none w) (hn : w.approval_state ≠ .AWAITING_APPROVAL)
    (e : Exc) : AtRaise inp h w₀ e w :=
  ⟨hs, fun ha => absurd ha hn⟩

theorem Open.drifted {w' : AgentTaskWorkflow} (ho : Open inp w) (hd : Drifted w w') :
    Open inp w' := by
  unfold Open
  rw [hd.state]
  exact ho

/-- A call of the pipeline where the gate is open. -/
theorem safe_open {q : WorkflowCall Tok}
    {D : Calls Tok → AgentTaskWorkflow → q.Answer → AgentTaskWorkflow → Prop}
    (hs : Stop inp h w₀ none w) (ho : Open inp w) (hq : decisionEvent q = none)
    (hok : ∀ a h' w', Stop inp h' w' none w' → Open inp w' → D h' w' a w')
    (herr : ∀ e h' w', Stop inp h' w' none w' → Open inp w' → X h' w' e w') :
    Co.Safe (Co.awaitEnv Signalled MayAnswer) (AtCall inp) D X h w₀ (execute q) w := by
  refine safe_execute (hs.schedule hq ?_ fun ha => absurd ha ho.ne_awaiting) ?_ ?_
  · intro _ hexc
    rcases ho with ha | ⟨_, hn⟩
    · exact ha
    · exact absurd hexc hn
  · intro a w' hd _ hs'
    exact hok a _ w' hs' (ho.drifted hd)
  · intro e w' hd hs'
    exact herr e _ w' hs' (ho.drifted hd)

/-- Such a call, and what follows it; an activity that raises ends the run. -/
theorem safe_open_bind {q : WorkflowCall Tok} {f : q.Answer → Flow Tok β}
    {D : Calls Tok → AgentTaskWorkflow → β → AgentTaskWorkflow → Prop}
    (hs : Stop inp h w₀ none w) (ho : Open inp w) (hq : decisionEvent q = none)
    (hk : ∀ a h' w', Stop inp h' w' none w' → Open inp w' →
      Co.Safe (Co.awaitEnv Signalled MayAnswer) (AtCall inp) D (AtRaise inp) h' w' (f a) w') :
    Co.Safe (Co.awaitEnv Signalled MayAnswer) (AtCall inp) D (AtRaise inp) h w₀ (execute q >>= f) w :=
  Co.Safe.bind (safe_open hs ho hq hk fun e _ _ hs' ho' => hs'.atRaise ho'.ne_awaiting e)

end Rules

section
variable {inp : WorkflowInput} {h : Calls Tok} {w₀ w : AgentTaskWorkflow}

/-- The clause `except ActivityError` schedules an audit event, which is no decision, and raises. -/
theorem llm_failed_safe {D : Calls Tok → AgentTaskWorkflow → LLMInvokeResult → AgentTaskWorkflow → Prop}
    (hs : Stop inp h w₀ none w) (ho : Open inp w) (e : Exc) :
    Co.Safe (Co.awaitEnv Signalled MayAnswer) (AtCall inp) D (AtRaise inp) h w₀
      (llm_failed inp e) w := by
  unfold llm_failed
  split
  · split
    · refine safe_set (safe_open_bind (hs.set_status _) ho rfl ?_)
      intro _ h' w' hs' ho'
      exact hs'.atRaise ho'.ne_awaiting _
    · refine safe_set (safe_open_bind (hs.set_status _) ho rfl ?_)
      intro _ h' w' hs' ho'
      exact hs'.atRaise ho'.ne_awaiting _
  · exact hs.atRaise ho.ne_awaiting e

theorem pre_check_safe {D : Calls Tok → AgentTaskWorkflow → Option ℚ → AgentTaskWorkflow → Prop}
    (history : List BudgetHistoryEntry) (hs : Stop inp h w₀ none w) (ho : Open inp w)
    (hk : ∀ a h' w₀' w', Stop inp h' w₀' none w' → Open inp w' → D h' w₀' a w') :
    Co.Safe (Co.awaitEnv Signalled MayAnswer) (AtCall inp) D (AtRaise inp) h w₀
      (pre_check inp history) w := by
  unfold pre_check
  split
  · refine safe_open_bind hs ho rfl ?_
    intro a h' w' hs' ho'
    exact hk _ _ _ _ hs' ho'
  · exact hk _ _ _ _ hs ho

theorem record_budget_safe
    {D : Calls Tok → AgentTaskWorkflow → Option ℚ → AgentTaskWorkflow → Prop}
    (history : List BudgetHistoryEntry) (tokens : ℤ) (spent : Option ℚ)
    (hs : Stop inp h w₀ none w) (ho : Open inp w)
    (hk : ∀ a h' w₀' w', Stop inp h' w₀' none w' → Open inp w' → D h' w₀' a w') :
    Co.Safe (Co.awaitEnv Signalled MayAnswer) (AtCall inp) D (AtRaise inp) h w₀
      (record_budget inp history tokens spent) w := by
  unfold record_budget
  split
  · refine safe_open_bind hs ho rfl ?_
    intro a h' w' hs' ho'
    exact hk _ _ _ _ hs' ho'
  · exact hk _ _ _ _ hs ho

theorem after_gate_safe (scrub : PrePIIScrubResult) (policy : PolicyEvalResult)
    (token : JITTokenResult Tok) (hs : Stop inp h w₀ none w) (ho : Open inp w) :
    Co.Safe (Co.awaitEnv Signalled MayAnswer) (AtCall inp) (AtReturn inp) (AtRaise inp) h w₀
      (after_gate inp scrub policy token) w := by
  unfold after_gate
  refine Co.Safe.bind (pre_check_safe _ hs ho ?_)
  intro spent h₁ w₁' w₁ hs₁ ho₁
  refine Co.Safe.bind (Co.Safe.tryCatch ?_)
  refine safe_open hs₁ ho₁ rfl ?_ ?_
  · intro llm h₂ w₂ hs₂ ho₂
    refine Co.Safe.bind (record_budget_safe _ _ _ hs₂ ho₂ ?_)
    intro spent h₃ w₃' w₃ hs₃ ho₃
    refine safe_open_bind hs₃ ho₃ rfl ?_
    intro post h₄ w₄ hs₄ ho₄
    refine safe_set (safe_self ⟨hs₄.set_status _, ho₄.ne_awaiting, ?_⟩)
    rcases ho₄ with ha | ⟨ha, _⟩
    · simp [ha]
    · simp [ha]
  · intro e h₂ w₂ hs₂ ho₂
    exact llm_failed_safe hs₂ ho₂ e

/-! ### The gate -/

theorem Stop.enter_gate (hs : Stop inp h w₀ none w) (hst : w.approval_state = .NOT_REQUIRED) :
    Stop inp h w₀ none (enter_gate w) := by
  have hst₀ : w₀.approval_state = .NOT_REQUIRED := by
    cases hs.move with
    | stay h₁ _ => rw [← h₁, hst]
    | enter h₁ _ => exact h₁
    | settle h₀ t d _ _ _ _ h₅ =>
        rw [hst] at h₅
        split at h₅ <;> cases h₅
    | timeOut h₀ t e _ _ _ h₄ =>
        rw [hst] at h₄
        cases h₄
  refine ⟨?_, ?_, ?_, ?_, .enter hst₀ rfl, hs.unwritten, fun hn => absurd rfl hn⟩
  · simp [AgentTaskWorkflow.enter_gate]
  · rw [hs.events]
    simp [decided, hst, AgentTaskWorkflow.enter_gate]
  · intro hc
    rcases hc with hc | hc <;> cases hc
  · intro q' hq'
    cases hq'

/-- No decision event has been scheduled while the gate is undecided. -/
theorem Stop.undecided (hs : Stop inp h w₀ none w) (hst : w.approval_state = .AWAITING_APPROVAL) :
    (h.map Sigma.fst).filterMap decisionEvent = [] := by
  have hev := hs.events
  simp only [decided, hst, Option.toList_none, List.append_nil] at hev
  exact hev

theorem decisionEvent_settle (d : ApprovalSignalPayload) :
    decisionEvent (.WorkflowAudit (decision_event inp d) : WorkflowCall Tok) =
      some (decision_event inp d) := by
  unfold decisionEvent
  cases hd : d.approved <;> simp [decision_event, gate_event, hd]

theorem decisionEvent_timeOut :
    decisionEvent (.WorkflowAudit (timed_out_event inp) : WorkflowCall Tok) =
      some (timed_out_event inp) := by
  simp [decisionEvent, timed_out_event, gate_event]

theorem settle_ne_awaiting (d : ApprovalSignalPayload) (w : AgentTaskWorkflow) :
    (settle d w).approval_state ≠ .AWAITING_APPROVAL := by
  cases hda : d.approved <;> simp [AgentTaskWorkflow.settle, hda]

/-- The wait has resumed with the signal `d`. -/
theorem Stop.settle {h₀ : Calls Tok} {t : ℤ} {d : ApprovalSignalPayload}
    (hs : Stop inp h w none w) (hh : h = h₀ ++ [⟨.wait_condition t, .ok ()⟩])
    (hst : w.approval_state = .AWAITING_APPROVAL) (hd : w.approval_signal = some d) :
    Stop inp h w (some (.WorkflowAudit (decision_event inp d))) (settle d w) := by
  have hev := hs.undecided hst
  refine ⟨?_, ?_, ?_, ?_, .settle h₀ t d hh hst hd hd rfl, rfl,
    fun _ ha => absurd ha (settle_ne_awaiting d w)⟩
  · cases hda : d.approved <;> simp [AgentTaskWorkflow.settle, hda]
  · rw [List.filterMap_append, hev]
    cases hda : d.approved <;>
      simp [decided, AgentTaskWorkflow.settle, hda, hd, decisionEvent_settle]
  · intro _
    refine ⟨d, hd, ?_⟩
    cases hda : d.approved <;> simp [AgentTaskWorkflow.settle, hda]
  · intro q' hq' hg
    cases hq'
    exact absurd hg (by simp [Gated])

/-- The timer fired first. -/
theorem Stop.timeOut {h₀ : Calls Tok} {t : ℤ} {e : Exc} (hs : Stop inp h w none w)
    (hh : h = h₀ ++ [⟨.wait_condition t, .error e⟩]) (he : e.kind = .TimeoutError)
    (hst : w.approval_state = .AWAITING_APPROVAL) :
    Stop inp h w (some (.WorkflowAudit (timed_out_event inp))) (time_out w) := by
  have hev := hs.undecided hst
  refine ⟨?_, ?_, ?_, ?_, .timeOut h₀ t e hh he hst rfl, rfl, fun _ ha => nomatch ha⟩
  · simp [time_out]
  · rw [List.filterMap_append, hev]
    simp [decided, time_out, decisionEvent_timeOut]
  · intro hc
    rcases hc with hc | hc <;> cases hc
  · intro q' hq' hg
    cases hq'
    exact absurd hg (by simp [Gated])

theorem await_pending_approval_safe
    {D : Calls Tok → AgentTaskWorkflow → ApprovalSignalPayload → AgentTaskWorkflow → Prop}
    (hs : Stop inp h w₀ none w) (hst : w.approval_state = .NOT_REQUIRED) (hans : Answered h)
    (hk : ∀ d h' w', Stop inp h' w' none w' → w'.approval_state ≠ .AWAITING_APPROVAL →
      (d.approved = true → w'.approval_state = .APPROVED) → D h' w' d w') :
    Co.Safe (Co.awaitEnv Signalled MayAnswer) (AtCall inp) D (AtRaise inp) h w₀
      (await_pending_approval inp) w := by
  unfold await_pending_approval wait_for_signal
  have hpend : decisionEvent (.WorkflowAudit (pending_event inp) : WorkflowCall Tok) = none := by
    simp [decisionEvent, pending_event, gate_event]
  refine safe_set (Co.Safe.bind (safe_execute
    ((hs.enter_gate hst).schedule hpend (fun hg => absurd hg (by simp [Gated])) fun _ => hans)
    ?_ ?_))
  · intro _ w₁ hd₁ _ hs₁
    have hst₁ : w₁.approval_state = .AWAITING_APPROVAL := hd₁.state
    refine Co.Safe.bind (Co.Safe.tryCatch (Co.Safe.bind (safe_execute
      (hs₁.schedule rfl (fun hg => absurd hg (by simp [Gated])) fun _ => answered_ok _ _) ?_ ?_)))
    · intro _ w₂ hd₂ hsome hs₂
      have hst₂ : w₂.approval_state = .AWAITING_APPROVAL := hd₂.state.trans hst₁
      refine safe_self ?_
      cases hsig : w₂.approval_signal with
      | none => exact absurd hsig hsome
      | some d =>
          refine safe_set (Co.Safe.bind (safe_execute (hs₂.settle rfl hst₂ hsig) ?_ ?_))
          · intro _ w₃ hd₃ _ hs₃
            refine hk d _ w₃ hs₃ (by rw [hd₃.state]; exact settle_ne_awaiting d w₂) ?_
            intro hda
            rw [hd₃.state]
            simp [AgentTaskWorkflow.settle, hda]
          · intro e w₃ hd₃ hs₃
            exact hs₃.atRaise (by rw [hd₃.state]; exact settle_ne_awaiting d w₂) e
    · intro e w₂ hd₂ hs₂
      have hst₂ : w₂.approval_state = .AWAITING_APPROVAL := hd₂.state.trans hst₁
      by_cases he : e.kind = .TimeoutError
      · rw [if_pos he]
        refine safe_set (Co.Safe.bind (safe_execute (hs₂.timeOut rfl he hst₂) ?_ ?_))
        · intro _ w₃ hd₃ _ hs₃
          exact hk _ _ w₃ hs₃ (by rw [hd₃.state]; simp [time_out]) (fun hf => absurd hf (by simp))
        · intro e w₃ hd₃ hs₃
          exact hs₃.atRaise (by rw [hd₃.state]; simp [time_out]) e
      · rw [if_neg he]
        exact ⟨hs₂, fun _ => ⟨_, _, e, rfl⟩⟩
  · intro e w₁ _ hs₁
    exact ⟨hs₁, fun _ => ⟨_, _, e, rfl⟩⟩

/-- A call of stages 1 to 3. -/
theorem safe_before {q : WorkflowCall Tok}
    {D : Calls Tok → AgentTaskWorkflow → q.Answer → AgentTaskWorkflow → Prop}
    (hs : Stop inp h w₀ none w) (hst : w.approval_state = .NOT_REQUIRED)
    (hq : decisionEvent q = none) (hg : ¬Gated q)
    (hk : ∀ a h' w', Stop inp h' w' none w' → w'.approval_state = .NOT_REQUIRED → Answered h' →
      D h' w' a w') :
    Co.Safe (Co.awaitEnv Signalled MayAnswer) (AtCall inp) D (AtRaise inp) h w₀ (execute q) w := by
  refine safe_execute (hs.schedule hq (fun h => absurd h hg) fun ha => ?_) ?_ ?_
  · rw [hst] at ha
    cases ha
  · intro a w' hd _ hs'
    exact hk a _ w' hs' (hd.state.trans hst) (answered_ok _ a)
  · intro e w' hd hs'
    exact hs'.atRaise (by rw [hd.state, hst]; simp) e

theorem run_safe (hw : Drifted {} w) :
    Co.Safe (Co.awaitEnv Signalled MayAnswer) (AtCall inp) (AtReturn inp) (AtRaise inp) [] w
      (run inp : Flow Tok WorkflowOutput) w := by
  have hst : w.approval_state = .NOT_REQUIRED := hw.state
  have hs : Stop inp [] w (none : Option (WorkflowCall Tok)) (begin_run inp w) := by
    refine ⟨?_, ?_, ?_, ?_, .stay rfl rfl, rfl, fun hn => absurd rfl hn⟩
    · simp [begin_run, hst]
    · simp [decided, begin_run, hst]
    · simp [begin_run, hst]
    · intro q' hq'
      cases hq'
  unfold run before_gate
  refine Co.Safe.bind (safe_set (Co.Safe.bind (safe_before hs hst rfl (by simp [Gated]) ?_)))
  intro scrub h₁ w₁ hs₁ hst₁ _
  refine Co.Safe.bind (safe_before hs₁ hst₁ rfl (by simp [Gated]) ?_)
  intro policy h₂ w₂ hs₂ hst₂ _
  refine Co.Safe.bind (safe_before hs₂ hst₂ rfl (by simp [Gated]) ?_)
  intro token h₃ w₃ hs₃ hst₃ hans₃
  refine Co.Safe.bind (Co.Safe.lift ?_ ?_)
  · intro b w₄ hm
    have hexc : exceeds_threshold inp = .ok b ∧ w₄ = w₃ := by
      cases hx : exceeds_threshold inp with
      | error e =>
          rw [hx] at hm
          cases hm
      | ok b' =>
          rw [hx] at hm
          cases hm
          exact ⟨rfl, rfl⟩
    obtain ⟨hexc, rfl⟩ := hexc
    cases b with
    | true =>
        refine Co.Safe.bind (await_pending_approval_safe hs₃ hst₃ hans₃ ?_)
        intro d h₄ w₄ hs₄ hne hopen
        by_cases hda : d.approved = true
        · rw [if_pos hda]
          exact after_gate_safe _ _ _ hs₄ (.inl (hopen hda))
        · rw [if_neg hda]
          exact safe_self ⟨hs₄, hne, fun _ => ⟨rfl, rfl⟩⟩
    | false =>
        refine after_gate_safe _ _ _ hs₃ (.inr ⟨hst₃, ?_⟩)
        rw [hexc]
        simp
  · intro e w₄ hm
    have hw₄ : w₄ = w₃ := by
      cases hx : exceeds_threshold inp with
      | error e' =>
          rw [hx] at hm
          cases hm
          rfl
      | ok b' =>
          rw [hx] at hm
          cases hm
    rw [hw₄]
    exact hs₃.atRaise (by rw [hst₃]; simp) e

end

/-! ## Every configuration of a run -/

section
variable {inp : WorkflowInput} {c c' : Config Tok}

/-- The assertions hold where the run stopped, and only signals have happened since. -/
abbrev Good (inp : WorkflowInput) (c : Config Tok) : Prop :=
  Co.Conf.Good Signalled MayAnswer (AtCall inp) (AtReturn inp) (AtRaise inp) c

theorem Reaches.good (h : Reaches inp c) : Good inp c := by
  obtain ⟨w₀, hw₀, hr⟩ := h
  exact Co.Conf.good_of_reachable (run_safe (drifted_of_signals hw₀)) hr

theorem Reaches.step (h : Reaches inp c) (hs : Steps c c') : Reaches inp c' := by
  obtain ⟨w₀, hw₀, hr⟩ := h
  exact ⟨w₀, hw₀, hr.tail hs⟩

theorem Reaches.steps (h : Reaches inp c) (hs : Relation.ReflTransGen Steps c c') :
    Reaches inp c' := by
  induction hs with
  | refl => exact h
  | tail _ hs ih => exact ih.step hs

theorem good_stop (h : Good inp c) : Stop inp c.hist c.seg (waitingFor c) c.stop := by
  have hok := h.stopOk
  unfold waitingFor
  cases hp : c.point with
  | done out =>
      rw [hp] at hok
      exact hok.1
  | failed e =>
      rw [hp] at hok
      exact hok.1
  | waiting q k =>
      rw [hp] at hok
      exact hok.1

theorem good_now (h : Good inp c) : Drifted c.stop c.state := drifted_of_signals h.drift

/-- A step is a drift, or an answer whose segment made a move. -/
theorem step_move (h : Good inp c) (hs : Steps c c') :
    (c'.hist = c.hist ∧ Drifted c.state c'.state) ∨
    ∃ q r, waitingFor c = some q ∧ c'.hist = c.hist ++ [⟨q, r⟩] ∧
      c'.state.approval_signal = c.state.approval_signal ∧ Move c'.hist c.state c'.state := by
  have hgood' : Good inp c' := h.step hs
  cases hs with
  | interfere hi => exact .inl ⟨rfl, hi.drifted⟩
  | @answer hist s₀ s₁ s q k r hg =>
      exact .inr ⟨q, r, rfl, rfl, (good_stop hgood').unwritten, (good_stop hgood').move⟩

/-- The moves of the approval state. -/
inductive Next : PendingApprovalState → PendingApprovalState → Prop
  | stay (a : PendingApprovalState) : Next a a
  | enter : Next .NOT_REQUIRED .AWAITING_APPROVAL
  | approve : Next .AWAITING_APPROVAL .APPROVED
  | deny : Next .AWAITING_APPROVAL .DENIED
  | timeOut : Next .AWAITING_APPROVAL .TIMED_OUT

theorem Move.next {h : Calls Tok} {w w' : AgentTaskWorkflow} (hm : Move h w w') :
    Next w.approval_state w'.approval_state := by
  cases hm with
  | stay h₁ _ =>
      rw [h₁]
      exact .stay _
  | enter h₁ h₂ =>
      rw [h₁, h₂]
      exact .enter
  | settle h₀ t d _ h₂ _ _ h₅ =>
      rw [h₂, h₅]
      split
      · exact .approve
      · exact .deny
  | timeOut h₀ t e _ _ h₃ h₄ =>
      rw [h₃, h₄]
      exact .timeOut

/-- One of the three states the gate ends in. -/
def Final (a : PendingApprovalState) : Prop := a = .APPROVED ∨ a = .DENIED ∨ a = .TIMED_OUT

theorem Final.ne_awaiting {a : PendingApprovalState} (h : Final a) : a ≠ .AWAITING_APPROVAL := by
  rcases h with rfl | rfl | rfl <;> simp

theorem step_next (h : Good inp c) (hs : Steps c c') :
    Next c.state.approval_state c'.state.approval_state := by
  rcases step_move h hs with ⟨_, hd⟩ | ⟨q, r, _, _, _, hm⟩
  · rw [hd.state]
    exact .stay _
  · exact hm.next

/-- A decision that has been made is not touched again. -/
theorem step_final (h : Good inp c) (hf : Final c.state.approval_state) (hs : Steps c c') :
    c'.state.approval_state = c.state.approval_state ∧
      c'.state.approval_signal = c.state.approval_signal := by
  rcases step_move h hs with ⟨_, hd⟩ | ⟨q, r, _, _, _, hm⟩
  · exact ⟨hd.state, hd.signal hf.ne_awaiting⟩
  · cases hm with
    | stay h₁ h₂ => exact ⟨h₁, h₂⟩
    | enter h₁ _ =>
        rw [h₁] at hf
        rcases hf with hf | hf | hf <;> cases hf
    | settle h₀ t d _ h₂ _ _ _ => exact absurd h₂ hf.ne_awaiting
    | timeOut h₀ t e _ _ h₃ _ => exact absurd h₃ hf.ne_awaiting

theorem steps_final (h : Reaches inp c) (hf : Final c.state.approval_state)
    (hs : Relation.ReflTransGen Steps c c') :
    c'.state.approval_state = c.state.approval_state ∧
      c'.state.approval_signal = c.state.approval_signal := by
  induction hs with
  | refl => exact ⟨rfl, rfl⟩
  | tail hs₁ hs₂ ih =>
      obtain ⟨hst, hsig⟩ := step_final (h.steps hs₁).good (by rwa [ih.1]) hs₂
      exact ⟨hst.trans ih.1, hsig.trans ih.2⟩

/-- The step that decides follows the wait, and goes by the signal it finds. -/
theorem step_decides (h : Good inp c) (hs : Steps c c')
    (hne : c'.state.approval_state ≠ c.state.approval_state)
    (hd : c'.state.approval_state = .APPROVED ∨ c'.state.approval_state = .DENIED) :
    ∃ t d, waitingFor c = some (.wait_condition t) ∧
      c'.hist = c.hist ++ [⟨.wait_condition t, .ok ()⟩] ∧
      c.state.approval_signal = some d ∧ c'.state.approval_signal = some d ∧
      (d.approved = true ↔ c'.state.approval_state = .APPROVED) := by
  rcases step_move h hs with ⟨_, hdr⟩ | ⟨q, r, hq, hh, _, hm⟩
  · exact absurd hdr.state hne
  · cases hm with
    | stay h₁ _ => exact absurd h₁ hne
    | enter _ h₂ =>
        rw [h₂] at hd
        rcases hd with hd | hd <;> cases hd
    | settle h₀ t d h₁ _ h₃ h₄ h₅ =>
        rw [hh] at h₁
        obtain ⟨_, he⟩ := List.append_inj' h₁ rfl
        cases he
        refine ⟨t, d, hq, hh, h₃, h₄, ?_⟩
        rw [h₅]
        cases hda : d.approved <;> simp
    | timeOut h₀ t e _ _ _ h₄ =>
        rw [h₄] at hd
        rcases hd with hd | hd <;> cases hd

/-- An answer that leaves the awaiting state without an error leaves it by the signal it finds. -/
theorem step_leaves {q : WorkflowCall Tok} {a : q.Answer} (h : Good inp c) (hs : Steps c c')
    (haw : c.state.approval_state = .AWAITING_APPROVAL)
    (hne : c'.state.approval_state ≠ c.state.approval_state)
    (hh : c'.hist = c.hist ++ [⟨q, .ok a⟩]) :
    ∃ d, c.state.approval_signal = some d ∧
      c'.state.approval_state = (if d.approved then .APPROVED else .DENIED) := by
  rcases step_move h hs with ⟨_, hdr⟩ | ⟨q', r, _, _, _, hm⟩
  · exact absurd hdr.state hne
  · cases hm with
    | stay h₁ _ => exact absurd h₁ hne
    | enter h₁ _ =>
        rw [haw] at h₁
        cases h₁
    | settle h₀ t d _ _ h₃ _ h₅ => exact ⟨d, h₃, h₅⟩
    | timeOut h₀ t e h₁ _ _ _ =>
        rw [hh] at h₁
        obtain ⟨_, hlast⟩ := List.append_inj' h₁ rfl
        cases hlast

/-- An error in the gate times it out, or ends the run undecided. -/
theorem step_fails {q : WorkflowCall Tok} {e : Exc} (h : Good inp c) (hs : Steps c c')
    (haw : c.state.approval_state = .AWAITING_APPROVAL)
    (hh : c'.hist = c.hist ++ [⟨q, .error e⟩]) :
    c'.state.approval_state = .TIMED_OUT ∨
      (c'.state.approval_state = .AWAITING_APPROVAL ∧ waitingFor c' = none) := by
  have hgood' : Good inp c' := h.step hs
  rcases step_move h hs with ⟨hsame, _⟩ | ⟨q', r, _, _, _, hm⟩
  · rw [hsame] at hh
    exact absurd hh (by simp)
  · cases hm with
    | stay h₁ _ =>
        refine .inr ⟨h₁.trans haw, ?_⟩
        by_contra hw
        refine (good_stop hgood').answered hw ?_ _ q e hh
        rw [← (good_now hgood').state]
        exact h₁.trans haw
    | enter h₁ _ =>
        rw [haw] at h₁
        cases h₁
    | settle h₀ t d h₁ _ _ _ _ => exact absurd hh (h₁ ▸ answered_ok h₀ _ _ q e)
    | timeOut h₀ t e' _ _ _ h₄ => exact .inl h₄

/-- The decision events scheduled so far are those of the state. -/
def EventsMatch (c : Config Tok) : Prop :=
  match c.state.approval_state with
  | .APPROVED => ∃ d ev, c.state.approval_signal = some d ∧ d.approved = true ∧
      decisionEvents c = [ev] ∧ ev.event = "workflow.approved" ∧
      ev.details = [("approver_id", .str d.approver_id), ("reason", .str d.reason)]
  | .DENIED => ∃ d ev, c.state.approval_signal = some d ∧ d.approved = false ∧
      decisionEvents c = [ev] ∧ ev.event = "workflow.denied" ∧
      ev.details = [("approver_id", .str d.approver_id), ("reason", .str d.reason)]
  | .TIMED_OUT => ∃ ev, decisionEvents c = [ev] ∧ ev.event = "workflow.timed_out"
  | .NOT_REQUIRED => decisionEvents c = []
  | .AWAITING_APPROVAL => decisionEvents c = []

theorem good_events (h : Good inp c) : EventsMatch c := by
  have hstop := good_stop h
  have hnow := good_now h
  have hev : decisionEvents c = decided inp c.state := hstop.events.trans (decided_drifted hnow).symm
  have hsig : c.state.approval_state = .APPROVED ∨ c.state.approval_state = .DENIED →
      ∃ d, c.state.approval_signal = some d ∧
        (d.approved = true ↔ c.state.approval_state = .APPROVED) := by
    intro hst
    have hne : c.stop.approval_state ≠ .AWAITING_APPROVAL := by
      rw [← hnow.state]
      rcases hst with hst | hst <;> simp [hst]
    rw [hnow.signal hne, hnow.state]
    exact hstop.signal (by rwa [hnow.state] at hst)
  unfold EventsMatch
  unfold decided at hev
  cases hst : c.state.approval_state with
  | NOT_REQUIRED | AWAITING_APPROVAL =>
      rw [hst] at hev
      exact hev
  | APPROVED =>
      obtain ⟨d, hd, hda⟩ := hsig (.inl hst)
      have hda : d.approved = true := hda.mpr hst
      rw [hst, hd] at hev
      exact ⟨d, _, hd, hda, hev, by simp [decision_event, gate_event, hda], rfl⟩
  | DENIED =>
      obtain ⟨d, hd, hda⟩ := hsig (.inr hst)
      have hda : d.approved = false := by
        rw [hst] at hda
        simpa using hda
      rw [hst, hd] at hev
      exact ⟨d, _, hd, hda, hev, by simp [decision_event, gate_event, hda], rfl⟩
  | TIMED_OUT =>
      rw [hst] at hev
      exact ⟨_, hev, rfl⟩

/-- **The approval gate is the state machine it says it is**, in every configuration of every run. -/
theorem approval_gate (inp : WorkflowInput) {c : Config Tok} (hc : Reaches inp c) :
    (c.state.approval_status.pending_since_epoch_seconds.isSome = true ↔
      c.state.approval_status.approval_state = PendingApprovalState.AWAITING_APPROVAL.value) ∧
    (∀ c', Steps c c' → Next c.state.approval_state c'.state.approval_state) ∧
    (Final c.state.approval_state → ∀ c', Relation.ReflTransGen Steps c c' →
      c'.state.approval_state = c.state.approval_state ∧
        c'.state.approval_signal = c.state.approval_signal) ∧
    (exceeds_threshold inp = .ok true → ∀ q, waitingFor c = some q → Gated q →
      c.stop.approval_state = .APPROVED) ∧
    (∀ c', Steps c c' → c'.state.approval_state ≠ c.state.approval_state →
      c'.state.approval_state = .APPROVED ∨ c'.state.approval_state = .DENIED →
      ∃ t d, waitingFor c = some (.wait_condition t) ∧
        c'.hist = c.hist ++ [⟨.wait_condition t, .ok ()⟩] ∧
        c.state.approval_signal = some d ∧ c'.state.approval_signal = some d ∧
        (d.approved = true ↔ c'.state.approval_state = .APPROVED)) ∧
    (∀ out, c.point = .done out →
      c.state.approval_state = .DENIED ∨ c.state.approval_state = .TIMED_OUT →
      out.tokens_used = 0 ∧ out.content = "") ∧
    EventsMatch c := by
  have hgood := hc.good
  have hstop := good_stop hgood
  have hnow := good_now hgood
  refine ⟨?_, fun c' hs => step_next hgood hs, fun hf c' hs => steps_final hc hf hs, ?_,
    fun c' hs hne hd => step_decides hgood hs hne hd, ?_, good_events hgood⟩
  · show c.state.pending_since_epoch_seconds.isSome = true ↔ _
    rw [hnow.pending, hstop.pending, ← hnow.state]
    exact PendingApprovalState.value_injective.eq_iff.symm
  · intro hexc q hq hg
    exact hstop.gated q hq hg hexc
  · intro out hp hst
    have hok := hgood.stopOk
    rw [hp] at hok
    rw [hnow.state] at hst
    exact hok.2.2 hst

end

/-! ## A denied run -/

/-- A task whose projected spend needs an approval. -/
def gatedInput : WorkflowInput where
  task_id := "task-0"
  prompt := "hello"
  agent_type := "general"
  requester_id := "client"
  projected_spend_usd := ⟨"100.00", some (.fin 100)⟩

/-- Activities that succeed, and a wait that ends as given. -/
def gatedAnswers (wait : Except Exc Unit) : (q : WorkflowCall Unit) → Except Exc q.Answer
  | .PrePIIScrub inp => .ok ⟨inp.prompt, []⟩
  | .PolicyEval inp => .ok ⟨true, "allow", [], inp.sanitized_prompt, []⟩
  | .JITTokenIssue _ => .ok ⟨(), "jti-0", none, none⟩
  | .BudgetPreCheck _ => .ok ⟨BudgetSession.serialize ⟨⟨""⟩, "general", 1, 0, 0, [], ∅⟩⟩
  | .LLMInvoke inp => .ok ⟨"hi", 7, inp.model, "openai", 0⟩
  | .BudgetRecordSpend inp =>
      .ok ⟨BudgetSession.serialize ⟨⟨""⟩, "general", 1, 0, 0, [], ∅⟩, inp.history⟩
  | .PostSanitize inp => .ok ⟨inp.content, []⟩
  | .WorkflowAudit _ => .ok ()
  | .wait_condition _ => wait

def timeoutError : Exc := ⟨.TimeoutError, []⟩

/-- The run at the wait. -/
def waitingConf : Config Unit :=
  let answer := Co.Conf.respond (gatedAnswers (.error timeoutError))
  answer (answer (answer (answer (Co.Conf.start (run gatedInput) {}))))

/-- The run when a denial has arrived, and its end. -/
def deniedConf : Config Unit :=
  { waitingConf with state := waitingConf.state.deny ⟨"alice", "too much", false⟩ }

def refusedConf : Config Unit :=
  let answer := Co.Conf.respond (gatedAnswers (.ok ()))
  answer (answer deniedConf)

theorem mayAnswer_error (q : WorkflowCall Unit) (w : AgentTaskWorkflow) :
    MayAnswer q (gatedAnswers (.error timeoutError) q) w := by
  cases q <;> trivial

theorem mayAnswer_ok (q : WorkflowCall Unit) {w : AgentTaskWorkflow}
    (h : w.approval_signal ≠ none) : MayAnswer q (gatedAnswers (.ok ()) q) w := by
  cases q <;> trivial

theorem waitingConf_reaches : Reaches gatedInput waitingConf := by
  refine ⟨{}, .refl, ?_⟩
  have h₀ : Co.Conf.Reachable Signalled MayAnswer (run gatedInput : Flow Unit _) {}
    (Co.Conf.start (run gatedInput) {}) := .refl
  have h₁ := h₀.respond _ fun q => mayAnswer_error q _
  have h₂ := h₁.respond _ fun q => mayAnswer_error q _
  have h₃ := h₂.respond _ fun q => mayAnswer_error q _
  exact h₃.respond _ fun q => mayAnswer_error q _

theorem refusedConf_reaches : Reaches gatedInput refusedConf := by
  obtain ⟨w₀, hw₀, h⟩ := waitingConf_reaches.step (.interfere (.deny ⟨"alice", "too much", false⟩ _))
  refine ⟨w₀, hw₀, ?_⟩
  have h₁ := h.respond _ fun q => mayAnswer_ok q (by decide +kernel)
  exact h₁.respond _ fun q => mayAnswer_ok q (by decide +kernel)

/-- The run ends refused, with the denial on record. -/
theorem refusedConf_gate :
    (∃ out, refusedConf.point = .done out ∧ out.tokens_used = 0 ∧ out.content = "") ∧
      EventsMatch refusedConf := by
  have h := approval_gate gatedInput refusedConf_reaches
  refine ⟨⟨_, rfl, h.2.2.2.2.2.1 _ rfl (.inl (by decide +kernel))⟩, h.2.2.2.2.2.2⟩

end AegisOs.AgentTaskWorkflow
