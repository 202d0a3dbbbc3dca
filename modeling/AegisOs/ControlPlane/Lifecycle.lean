/-
# `AegisOs.ControlPlane.Lifecycle` — how a durable task begins and ends in the audit trail

`PrePIIScrub` records that a task has started, `PostSanitize` that it is
completed, and the workflow itself, through `WorkflowAudit`, that it was denied
at the gate or that `LLMInvoke` failed for good.  `milestones` is what the
trail says of a task in these terms.

A run is followed from one milestone to the next:

    `[]`  ──▸  `[STARTED]`  ──▸  `[STARTED, COMPLETED | DENIED | FAILED]`

with the status the instance shows along the way (`Stands`).  `LLMInvoke` that
fails for any other reason is handed to a human: this is no terminal failure,
so the run closes with `[STARTED]`.

The other stages are expected not to fail (`unfailing`); how often they are
retried does not matter, except for `PrePIIScrub`, whose every attempt records
a start.
-/
import AegisOs.ControlPlane.ActivityFrame
import AegisOs.ControlPlane.ApprovalGate
import AegisOs.ControlPlane.DurableCap

namespace AegisOs

open Lib Lib.EState

variable {Tok ι : Type}

/-! ## Milestones -/

/-- The start or the end of the task, when the event records one. -/
def AuditEvent.milestone (task_id : String) : AuditEvent → Option LifecycleEvent
  | .lifecycle_event _ event_type task _ _ _ _ _ =>
      if task = task_id ∧ event_type ∈ [.STARTED, .COMPLETED, .FAILED, .DENIED] then some event_type
      else none
  | _ => none

/-- What the trail says of how the task began and ended, oldest first. -/
def milestones (task_id : String) (audit : List AuditEvent) : List LifecycleEvent :=
  audit.filterMap (AuditEvent.milestone task_id)

theorem milestones_append (task_id : String) (audit : List AuditEvent) (event : AuditEvent) :
    milestones task_id (audit ++ [event]) =
      milestones task_id audit ++ (event.milestone task_id).toList := by
  unfold milestones
  rw [List.filterMap_append]
  cases h : event.milestone task_id <;> simp [h]

theorem milestone_routine {event : AuditEvent} (h : event.routine = true) (task_id : String) :
    event.milestone task_id = none := by
  cases event with
  | lifecycle_event name event_type task agent session status stage extra =>
      cases event_type <;> simp_all [AuditEvent.routine, AuditEvent.milestone]
  | _ => rfl

/-- The task has got no further. -/
def Unmoved (task_id : String) (w w' : World Tok) : Prop :=
  milestones task_id w'.audit = milestones task_id w.audit

theorem log_milestones (task_id : String) (event : AuditEvent) (w : World Tok) :
    ∃ w', log event w = .ok () w' ∧ milestones task_id w'.audit =
      milestones task_id w.audit ++ (event.milestone task_id).toList :=
  ⟨_, rfl, milestones_append task_id w.audit event⟩

theorem unmoved_issuing (task_id : String) : Issuing (@Unmoved Tok task_id) := by
  have hmgr : ∀ {α : Type} (m : SM Tok α), Keeps (Unmoved task_id) (on_session_mgr m) :=
    fun _ => Keeps.zoom (R := fun _ _ => True) (fun _ => trivial) fun _ _ _ => rfl
  refine ⟨⟨fun _ => rfl, fun _ _ _ h₁ h₂ => Eq.trans h₂ h₁, ?_, ?_⟩, fun _ _ => hmgr _,
    fun _ _ => hmgr _, hmgr _, fun _ _ _ _ _ _ _ => hmgr _⟩
  · intro event hr w
    show milestones task_id (w.audit ++ [event]) = milestones task_id w.audit
    rw [milestones_append, milestone_routine hr]
    simp
  · exact fun _ => Keeps.zoom (R := fun _ _ => True) (fun _ => trivial) fun _ _ _ => rfl

namespace AegisActivities

variable {A : AegisActivities Tok} {w w' : World Tok}

theorem require_task_id_eq_ok {task_id stage agent_type id : String}
    (h : require_task_id task_id stage agent_type w = .ok id w') : id = task_id ∧ w' = w := by
  unfold require_task_id at h
  by_cases htask : task_id = ""
  · rw [if_pos htask] at h
    cases h
  · rw [if_neg htask] at h
    cases h
    exact ⟨rfl, rfl⟩

/-- `PrePIIScrub` that succeeds has recorded one start. -/
theorem pre_pii_scrub_milestones {inp : WorkflowInput} {r : PrePIIScrubResult}
    (h : A.pre_pii_scrub inp w = .ok r w') :
    milestones inp.task_id w'.audit = milestones inp.task_id w.audit ++ [.STARTED] := by
  obtain ⟨task_id, w₁, hid, h₁⟩ := bind_eq_ok.mp h
  obtain ⟨rfl, rfl⟩ := require_task_id_eq_ok hid
  obtain ⟨_, w₂, hlog, h₂⟩ := bind_eq_ok.mp h₁
  obtain ⟨_, w₃, hcheck, h₃⟩ := bind_eq_ok.mp h₂
  obtain ⟨_, rfl⟩ := Orchestrator.guard_eq_ok.mp hcheck
  obtain ⟨_, w₄, hmask, h₄⟩ := bind_eq_ok.mp h₃
  obtain ⟨_, rfl⟩ := Orchestrator.guard_eq_ok.mp hmask
  cases hlog
  cases h₄
  show milestones inp.task_id (w₁.audit ++ [_] ++ [_]) = _
  rw [milestones_append, milestones_append]
  simp [AuditEvent.milestone]

/-- `PostSanitize` records the end as the last thing it does. -/
theorem post_sanitize_milestones {inp : PostSanitizeInput} {r : PostSanitizeResult}
    (h : A.post_sanitize inp w = .ok r w') :
    milestones inp.task_id w'.audit = milestones inp.task_id w.audit ++ [.COMPLETED] := by
  obtain ⟨task_id, w₁, hid, h₁⟩ := bind_eq_ok.mp h
  obtain ⟨rfl, rfl⟩ := require_task_id_eq_ok hid
  obtain ⟨_, w₂, hmask, h₂⟩ := bind_eq_ok.mp h₁
  obtain ⟨_, rfl⟩ := Orchestrator.guard_eq_ok.mp hmask
  cases h₂
  show milestones inp.task_id (w₂.audit ++ [_] ++ [_]) = _
  rw [milestones_append, milestones_append]
  simp [AuditEvent.milestone]

theorem post_sanitize_failed {inp : PostSanitizeInput} {e : Exc} (task_id : String)
    (h : A.post_sanitize inp w = .error e w') : Unmoved task_id w w' := by
  have B := (@unmoved_issuing Tok task_id).toOnlooker
  rcases bind_eq_error.mp h with hid | ⟨task, w₁, hid, h₁⟩
  · exact (B.require_task_id _ _ _).error hid
  · obtain ⟨rfl, rfl⟩ := require_task_id_eq_ok hid
    rcases bind_eq_error.mp h₁ with hmask | ⟨_, w₂, hmask, h₂⟩
    · exact (B.guard _).error hmask
    · cases h₂

/-- The milestone of a workflow event. -/
def audit_milestone (task_id : String) (inp : WorkflowAuditInput) : List LifecycleEvent :=
  (inp.event_type.filter fun ty =>
    decide (inp.task_id = task_id ∧ ty ∈ [.STARTED, .COMPLETED, .FAILED, .DENIED])).toList

/-- `WorkflowAudit` always succeeds. -/
theorem record_event_milestones (task_id : String) (inp : WorkflowAuditInput) (w : World Tok) :
    ∃ w', record_event inp w = .ok () w' ∧
      milestones task_id w'.audit = milestones task_id w.audit ++ audit_milestone task_id inp := by
  unfold record_event audit_milestone
  cases hty : inp.event_type with
  | some ty =>
      obtain ⟨w', hlog, hw'⟩ := log_milestones task_id (.lifecycle_event inp.event ty inp.task_id
        inp.agent_type inp.session_id inp.workflow_status inp.stage inp.details) w
      refine ⟨w', hlog, hw'.trans ?_⟩
      simp only [AuditEvent.milestone, Option.filter]
      split <;> simp_all
  | none =>
      cases inp.outcome <;> exact log_milestones task_id _ w

theorem audit_milestone_recorded {task_id : String} {inp : WorkflowAuditInput} {ty : LifecycleEvent}
    (htask : inp.task_id = task_id) (hty : inp.event_type = some ty)
    (hm : ty ∈ [.STARTED, .COMPLETED, .FAILED, .DENIED]) : audit_milestone task_id inp = [ty] := by
  unfold audit_milestone
  rw [hty]
  simp only [htask, hm, Option.filter]
  rfl

theorem audit_milestone_pending (inp : WorkflowInput) :
    audit_milestone inp.task_id (AgentTaskWorkflow.pending_event inp) = [] := by
  simp [audit_milestone, AgentTaskWorkflow.pending_event, AgentTaskWorkflow.gate_event, Option.filter]

theorem audit_milestone_decision (inp : WorkflowInput) (signal : ApprovalSignalPayload) :
    audit_milestone inp.task_id (AgentTaskWorkflow.decision_event inp signal) =
      if signal.approved then [] else [.DENIED] := by
  cases h : signal.approved <;>
    simp [audit_milestone, AgentTaskWorkflow.decision_event, AgentTaskWorkflow.gate_event,
      Option.filter, h]

end AegisActivities

/-! ## The runs -/

namespace Durable

open AgentTaskWorkflow

/-- What may happen on the worker while the run `i` is suspended: signals to it, and everything that
the others do under task ids of their own. -/
structure Alongside (task_id : String) (i : ι) (s s' : Worker Tok ι) : Prop where
  trail : Unmoved task_id s.world s'.world
  flow : Relation.ReflTransGen Signalled (s.flows i) (s'.flows i)

/-- `ActivityError`. -/
def is_activity_error (e : Exc) : Prop := ∃ cause retry_state, e.kind = .ActivityError cause retry_state

/-- What Temporal answers: an activity that it gives up on is an `ActivityError`, and the wait for a
signal ends with one, or with the timer. -/
def Answers (i : ι) : (q : DurableCall Tok) → Except Exc q.Answer → Worker Tok ι → Prop
  | .wait_condition _, .ok _, s => (s.flows i).approval_signal ≠ none
  | .wait_condition _, .error e, _ => e.kind = .TimeoutError
  | .schedule _, .error e, _ => is_activity_error e
  | .report _ _ _, .error e, _ => is_activity_error e
  | .backoff _ _, .error e, _ => is_activity_error e
  | _, _, _ => True

def is_llm : WorkflowCall Tok → Bool
  | .LLMInvoke _ => true
  | _ => false

def is_scrub : WorkflowCall Tok → Bool
  | .PrePIIScrub _ => true
  | _ => false

/-- The step fails no stage but `LLMInvoke`: a failed attempt is followed by another, and
`PrePIIScrub` needs one only. -/
def unfailing : (Σ q : DurableCall Tok, Except Exc q.Answer) → Bool
  | ⟨.schedule q, .error _⟩ => is_llm q
  | ⟨.report q attempt (.error e), .ok _⟩ => is_llm q || (!is_scrub q && will_retry q attempt e)
  | ⟨.report q _ _, .error _⟩ => is_llm q
  | ⟨.backoff q _, .error _⟩ => is_llm q
  | _ => true

abbrev DurableConf (Tok ι : Type) : Type :=
  Co.Conf (Worker Tok ι) Exc (DurableCall Tok) DurableCall.Answer WorkflowOutput

abbrev DurablePoint (Tok ι : Type) : Type :=
  Co.Point (Worker Tok ι) Exc (DurableCall Tok) DurableCall.Answer WorkflowOutput

/-- The terminal event of a run that returns: it is completed, or was not approved. -/
def returned_as (out : WorkflowOutput) : LifecycleEvent :=
  if out.workflow_status = WorkflowStatus.COMPLETED.value then .COMPLETED else .DENIED

/-- The terminal event of a run that raises; an escalation to a human is none. -/
def raised_as (e : Exc) : Option LifecycleEvent :=
  if e.kind = .HITLEscalationError then none else some .FAILED

/-- The terminal event that agrees with how a run has closed. -/
def closing : DurablePoint Tok ι → Option LifecycleEvent
  | .done out => some (returned_as out)
  | .failed e => raised_as e
  | .waiting _ _ => none

/-- The trail has one start of the task and `terminal` as its end, and the instance does not show
that it is running. -/
structure Accounted (task_id : String) (i : ι) (terminal : Option LifecycleEvent)
    (s : Worker Tok ι) : Prop where
  started : (milestones task_id s.world.audit).count .STARTED = 1
  ended : (milestones task_id s.world.audit).filter (fun ty => decide (ty ≠ .STARTED)) = terminal.toList
  status : (s.flows i).workflow_status ≠ WorkflowStatus.RUNNING.value

/-! ### The assertion -/

/-- Where a run stands. -/
structure Stands (task_id : String) (i : ι) (reached : List LifecycleEvent) (status : String)
    (s : Worker Tok ι) : Prop where
  trail : milestones task_id s.world.audit = reached
  status : (s.flows i).workflow_status = status

section
variable {task_id : String} {i : ι} {reached : List LifecycleEvent} {status : String}
  {s s' : Worker Tok ι}

theorem alongside_keeps (h : Relation.ReflTransGen (Alongside task_id i) s s') :
    Unmoved task_id s.world s'.world ∧ (s'.flows i).workflow_status = (s.flows i).workflow_status := by
  induction h with
  | refl => exact ⟨rfl, rfl⟩
  | tail _ hs ih => exact ⟨hs.trail.trans ih.1, (drifted_of_signals hs.flow).status.trans ih.2⟩

theorem Stands.alongside (hs : Stands task_id i reached status s)
    (h : Relation.ReflTransGen (Alongside task_id i) s s') : Stands task_id i reached status s' :=
  ⟨(alongside_keeps h).1.trans hs.trail, (alongside_keeps h).2.trans hs.status⟩

theorem Accounted.alongside {terminal : Option LifecycleEvent}
    (ha : Accounted task_id i terminal s) (h : Relation.ReflTransGen (Alongside task_id i) s s') :
    Accounted task_id i terminal s' := by
  obtain ⟨htrail, hstatus⟩ := alongside_keeps h
  refine ⟨?_, ?_, ?_⟩
  · rw [htrail]
    exact ha.started
  · rw [htrail]
    exact ha.ended
  · rw [hstatus]
    exact ha.status

theorem Stands.accounted (terminal : Option LifecycleEvent) (ht : terminal ≠ some .STARTED)
    (hs : Stands task_id i (.STARTED :: terminal.toList) status s)
    (hstatus : status ≠ WorkflowStatus.RUNNING.value) : Accounted task_id i terminal s := by
  refine ⟨?_, ?_, by rwa [hs.status]⟩
  · rw [hs.trail]
    cases terminal with
    | none => rfl
    | some ty =>
        have hne : ty ≠ .STARTED := fun h => ht (congrArg some h)
        simp [hne]
  · rw [hs.trail]
    cases terminal with
    | none => rfl
    | some ty =>
        have hne : ty ≠ .STARTED := fun h => ht (congrArg some h)
        simp [hne]

end

/-- No stage but `LLMInvoke` has failed so far. -/
def Unfailed (h : Log Tok) : Prop := ∀ x ∈ h, unfailing x = true

theorem unfailed_append {h : Log Tok} {x : Σ q : DurableCall Tok, Except Exc q.Answer} :
    Unfailed (h ++ [x]) ↔ Unfailed h ∧ unfailing x = true := by
  unfold Unfailed
  simp [or_imp, forall_and]

theorem not_unfailed_append {h : Log Tok} {x : Σ q : DurableCall Tok, Except Exc q.Answer}
    (hx : unfailing x = false) : ¬Unfailed (h ++ [x]) := by
  intro hu
  rw [(unfailed_append.mp hu).2] at hx
  cases hx

section
variable {task_id : String} {i : ι} {A : AegisActivities Tok} {workflow_id : Option String}
  {h : Log Tok} {s₀ s : Worker Tok ι} {reached : List LifecycleEvent} {status : String}

/-- The assertion: while no other stage has failed, the run stands where it is said to. -/
def At (task_id : String) (i : ι) (reached : List LifecycleEvent) (status : String) (h : Log Tok)
    (s : Worker Tok ι) : Prop :=
  Unfailed h → Stands task_id i reached status s

theorem At.await {q : DurableCall Tok} {r : Except Exc q.Answer} {s' : Worker Tok ι}
    (ha : At task_id i reached status h s)
    (henv : Co.awaitEnv (Alongside task_id i) (Answers i) q s r s') :
    At task_id i reached status (h ++ [⟨q, r⟩]) s' := by
  intro hu
  exact (ha (unfailed_append.mp hu).1).alongside henv.1

/-- A program of the system; nothing is asserted where it awaits. -/
abbrev TrailSafe (task_id : String) (i : ι) {α : Type}
    (D : Log Tok → Worker Tok ι → α → Worker Tok ι → Prop)
    (X : Log Tok → Worker Tok ι → Exc → Worker Tok ι → Prop) (h : Log Tok) (s₀ : Worker Tok ι)
    (p : Durable Tok ι α) (s : Worker Tok ι) : Prop :=
  Co.Safe (Co.awaitEnv (Alongside task_id i) (Answers i)) (fun _ _ _ _ => True) D X h s₀ p s

/-! ## The activities -/

theorem unfailing_lost (q : WorkflowCall Tok) (n : ℕ) (r : Except Exc q.Answer) (e : Exc) :
    unfailing ⟨.report q n r, .error e⟩ = is_llm q := by
  cases r <;> rfl

/-- Code of an activity that gets the task no further. -/
theorem on_world_unmoved {α : Type} {p : Orchestrator.Run Tok α} (hp : Co.Segments (Unmoved task_id) p)
    (ha : At task_id i reached status h s) :
    TrailSafe task_id i (fun h _ _ s => At task_id i reached status h s)
      (fun h _ _ s => At task_id i reached status h s) h s₀ (on_world p) s := by
  refine Co.Segments.handle (P := Unmoved task_id) (J := fun h s => At task_id i reached status h s)
    (fun _ => rfl) ?_ ?_ ?_ ?_ ?_ hp ha
  · exact fun _ _ => rfl
  · exact fun _ => rfl
  · exact fun _ _ _ => rfl
  · intro h w s hq ha hu
    exact ⟨hq.trans (ha hu).trail, (ha hu).status⟩
  · intro q h s₀ s ha
    exact Co.Safe.call (q := DurableCall.io q) trivial (fun _ _ henv => ha.await henv)
      fun _ _ henv => ha.await henv

/-- How an attempt has ended: in `next` when it has returned, where it was when it has failed. -/
def Ended (task_id : String) (i : ι) (reached next : List LifecycleEvent) (status : String) {α : Type}
    (r : Except Exc α) (h : Log Tok) (s : Worker Tok ι) : Prop :=
  match r with
  | .ok _ => At task_id i next status h s
  | .error _ => At task_id i reached status h s

/-- A stage that may be retried, but not given up. -/
theorem execute_stage {q : WorkflowCall Tok} (hllm : is_llm q = false)
    {next : List LifecycleEvent}
    (hbody : ∀ info h (s : Worker Tok ι), At task_id i reached status h s →
      TrailSafe task_id i (fun h _ _ s => At task_id i next status h s)
        (fun h _ _ s => At task_id i reached status h s) h s (on_world (perform A info q)) s)
    {D : Log Tok → Worker Tok ι → q.Answer → Worker Tok ι → Prop}
    {X : Log Tok → Worker Tok ι → Exc → Worker Tok ι → Prop}
    (ha : At task_id i reached status h s)
    (hD : ∀ h s₀ a s, At task_id i next status h s → D h s₀ a s)
    (hX : ∀ h s₀ e s, ¬Unfailed h → X h s₀ e s) :
    TrailSafe task_id i D X h s₀ (execute_activity A workflow_id q) s := by
  -- every way out but a result is a step that fails the stage
  have R : Retries (Co.awaitEnv (Alongside task_id i) (Answers i)) (fun _ _ _ _ => True) D X
      (fun _ h s => At task_id i reached status h s) (fun _ h s => At task_id i reached status h s)
      (fun _ (r : Except Exc q.Answer) h _ s => Ended task_id i reached next status r h s) :=
    { report := fun _ => trivial
      lost := fun _ _ => hX _ _ _ _ (not_unfailed_append ((unfailing_lost _ _ _ _).trans hllm))
      returned := fun ho henv => hD _ _ _ _ (At.await ho henv)
      given_up := by
        intro h s₀ s n e s' _ _ _ hretry
        refine hX _ _ _ _ (not_unfailed_append ?_)
        show (is_llm q || (!is_scrub q && will_retry q n e)) = false
        rw [hllm, hretry]
        simp
      again := fun ho henv _ => At.await ho henv
      backoff := fun _ => trivial
      backoff_next := fun hw henv => hw.await henv
      backoff_lost := fun _ _ => hX _ _ _ _ (not_unfailed_append hllm) }
  refine execute_activity_retries R (fun activity_id n h s ha => hbody _ h s ha) trivial ?_ ?_
  · exact fun _ _ henv => ha.await henv
  · exact fun _ _ _ => hX _ _ _ _ (not_unfailed_append hllm)

/-- `PrePIIScrub`: its first attempt records the start. -/
theorem execute_pre_pii_scrub {inp : WorkflowInput}
    {D : Log Tok → Worker Tok ι → PrePIIScrubResult → Worker Tok ι → Prop}
    {X : Log Tok → Worker Tok ι → Exc → Worker Tok ι → Prop}
    (ha : At inp.task_id i [] status h s)
    (hD : ∀ h s₀ a s, At inp.task_id i [.STARTED] status h s → D h s₀ a s)
    (hX : ∀ h s₀ e s, ¬Unfailed h → X h s₀ e s) :
    TrailSafe inp.task_id i D X h s₀ (execute_activity A workflow_id (.PrePIIScrub inp)) s := by
  have R : Retries (q := .PrePIIScrub inp) (Co.awaitEnv (Alongside inp.task_id i) (Answers i))
      (fun _ _ _ _ => True) D X (fun _ h s => At inp.task_id i [] status h s)
      (fun _ h _ => ¬Unfailed h) (fun _ r h _ s => r.isOk = true → At inp.task_id i [.STARTED] status h s) :=
    { report := fun _ => trivial
      lost := fun _ _ => hX _ _ _ _ (not_unfailed_append (unfailing_lost _ _ _ _))
      returned := fun ho henv => hD _ _ _ _ (At.await (ho rfl) henv)
      given_up := fun _ _ _ _ => hX _ _ _ _ (not_unfailed_append rfl)
      again := fun _ _ _ => not_unfailed_append rfl
      backoff := fun _ => trivial
      backoff_next := fun hw _ hu => absurd (unfailed_append.mp hu).1 hw
      backoff_lost := fun _ _ => hX _ _ _ _ (not_unfailed_append rfl) }
  refine execute_activity_retries R ?_ trivial ?_ ?_
  · intro activity_id n h s ha
    refine Co.Safe.handle_lift ?_ ?_
    · intro r w hrun _ hu
      refine ⟨(AegisActivities.pre_pii_scrub_milestones hrun).trans ?_, (ha hu).status⟩
      rw [(ha hu).trail]
      rfl
    · intro e w _ hok
      cases hok
  · exact fun _ _ henv => ha.await henv
  · exact fun _ _ _ => hX _ _ _ _ (not_unfailed_append rfl)

/-- `LLMInvoke`: however it ends, the task has got no further. -/
theorem execute_llm_stage {li : LLMInvokeInput Tok}
    {D : Log Tok → Worker Tok ι → LLMInvokeResult → Worker Tok ι → Prop}
    {X : Log Tok → Worker Tok ι → Exc → Worker Tok ι → Prop}
    (ha : At task_id i reached status h s)
    (hD : ∀ h s₀ a s, At task_id i reached status h s → D h s₀ a s)
    (hX : ∀ h s₀ e s, is_activity_error e → At task_id i reached status h s → X h s₀ e s) :
    TrailSafe task_id i D X h s₀ (execute_activity A workflow_id (.LLMInvoke li)) s := by
  have R : Retries (q := .LLMInvoke li) (Co.awaitEnv (Alongside task_id i) (Answers i))
      (fun _ _ _ _ => True) D X (fun _ h s => At task_id i reached status h s)
      (fun _ h s => At task_id i reached status h s) (fun _ _ h _ s => At task_id i reached status h s) :=
    { report := fun _ => trivial
      lost := fun ho henv => hX _ _ _ _ henv.2 (ho.await henv)
      returned := fun ho henv => hD _ _ _ _ (ho.await henv)
      given_up := fun _ ho henv _ => hX _ _ _ _ ⟨_, _, rfl⟩ (ho.await henv)
      again := fun ho henv _ => ho.await henv
      backoff := fun _ => trivial
      backoff_next := fun hw henv => hw.await henv
      backoff_lost := fun hw henv => hX _ _ _ _ henv.2 (hw.await henv) }
  refine execute_activity_retries R ?_ trivial ?_ ?_
  · exact fun activity_id n h s ha => on_world_unmoved ((unmoved_issuing task_id).llm_invoke _ li) ha
  · exact fun _ _ henv => ha.await henv
  · exact fun _ _ henv => hX _ _ _ _ henv.2 (ha.await henv)

/-! ## One run -/

variable [DecidableEq ι]

/-- The assertion where a run raises. -/
def RaisesAccounted (task_id : String) (i : ι) (h : Log Tok) (_ : Worker Tok ι) (e : Exc)
    (s : Worker Tok ι) : Prop :=
  Unfailed h → Accounted task_id i (raised_as e) s

/-- The assertion where it returns. -/
def ReturnsAccounted (task_id : String) (i : ι) (h : Log Tok) (_ : Worker Tok ι) (out : WorkflowOutput)
    (s : Worker Tok ι) : Prop :=
  Unfailed h → Accounted task_id i (some (returned_as out)) s

/-- A program of the workflow. -/
abbrev FlowTrail (A : AegisActivities Tok) (workflow_id : Option String) (task_id : String) (i : ι)
    {α : Type} (D : Log Tok → Worker Tok ι → α → Worker Tok ι → Prop) (h : Log Tok)
    (s₀ : Worker Tok ι) (p : Flow Tok α) (s : Worker Tok ι) : Prop :=
  TrailSafe task_id i D (RaisesAccounted task_id i) h s₀ (on_flow A workflow_id i p) s

theorem set_trail {D : Log Tok → Worker Tok ι → Unit → Worker Tok ι → Prop} (status' : String)
    {f : AgentTaskWorkflow → AgentTaskWorkflow} (hf : ∀ w, (f w).workflow_status = status')
    (ha : At task_id i reached status h s)
    (hD : ∀ s', At task_id i reached status' h s' → D h s₀ () s') :
    FlowTrail A workflow_id task_id i D h s₀ (set f) s := by
  refine Co.Safe.handle_lift ?_ ?_
  · intro _ w hrun
    cases hrun
    refine hD _ fun hu => ⟨(ha hu).trail, ?_⟩
    show (Function.update s.flows i (f (s.flows i)) i).workflow_status = status'
    rw [Function.update_self]
    exact hf _
  · intro e w hrun
    cases hrun

theorem self_trail {D : Log Tok → Worker Tok ι → AgentTaskWorkflow → Worker Tok ι → Prop}
    (hD : D h s₀ (s.flows i) s) : FlowTrail A workflow_id task_id i D h s₀ self s := by
  refine Co.Safe.handle_lift ?_ ?_
  · intro w w' hrun
    cases hrun
    have hsame : { s with flows := Function.update s.flows i (s.flows i) } = s := by
      rw [Function.update_eq_self]
    show D h s₀ (s.flows i) { s with flows := Function.update s.flows i (s.flows i) }
    rw [hsame]
    exact hD
  · intro e w hrun
    cases hrun

/-- A stage of the workflow whose failure is not looked at. -/
theorem stage_trail {q : WorkflowCall Tok} (hllm : is_llm q = false)
    (hact : (carry_out A workflow_id q : Durable Tok ι q.Answer) = execute_activity A workflow_id q)
    {next : List LifecycleEvent}
    (hbody : ∀ info h (s : Worker Tok ι), At task_id i reached status h s →
      TrailSafe task_id i (fun h _ _ s => At task_id i next status h s)
        (fun h _ _ s => At task_id i reached status h s) h s (on_world (perform A info q)) s)
    {D : Log Tok → Worker Tok ι → q.Answer → Worker Tok ι → Prop}
    (ha : At task_id i reached status h s)
    (hD : ∀ h s₀ a s, At task_id i next status h s → D h s₀ a s) :
    FlowTrail A workflow_id task_id i D h s₀ (execute q) s := by
  refine execute_safe ?_
  rw [hact]
  exact execute_stage hllm hbody ha hD fun _ _ _ _ hn hu => absurd hu hn

/-- A workflow event. -/
theorem audit_trail {D : Log Tok → Worker Tok ι → Unit → Worker Tok ι → Prop}
    {audit : WorkflowAuditInput} {recorded : List LifecycleEvent}
    (hm : AegisActivities.audit_milestone task_id audit = recorded)
    (ha : At task_id i reached status h s)
    (hD : ∀ h s₀ a s, At task_id i (reached ++ recorded) status h s → D h s₀ a s) :
    FlowTrail A workflow_id task_id i D h s₀ (execute (.WorkflowAudit audit)) s := by
  refine stage_trail (q := .WorkflowAudit audit) rfl rfl ?_ ha hD
  intro info h s ha
  obtain ⟨w, hrun, hw⟩ := AegisActivities.record_event_milestones task_id audit s.world
  refine Co.Safe.handle_lift ?_ ?_
  · intro _ w' hrun'
    rw [hrun] at hrun'
    cases hrun'
    intro hu
    refine ⟨hw.trans ?_, (ha hu).status⟩
    rw [(ha hu).trail, hm]
  · intro e w' hrun'
    rw [hrun] at hrun'
    cases hrun'

theorem before_gate_trail {inp : WorkflowInput} (hnew : milestones inp.task_id s.world.audit = [])
    {D : Log Tok → Worker Tok ι → PrePIIScrubResult × PolicyEvalResult × JITTokenResult Tok →
      Worker Tok ι → Prop}
    (hD : ∀ h s₀ a s, At inp.task_id i [.STARTED] WorkflowStatus.RUNNING.value h s → D h s₀ a s) :
    FlowTrail A workflow_id inp.task_id i D h s₀ (before_gate inp) s := by
  refine Co.Safe.handle_bind (set_trail WorkflowStatus.RUNNING.value (fun _ => rfl)
    (fun _ => ⟨hnew, rfl⟩) fun s₁ ha₁ => ?_)
  refine Co.Safe.handle_bind (execute_safe (q := WorkflowCall.PrePIIScrub inp)
    (execute_pre_pii_scrub ha₁ ?_ fun _ _ _ _ hn hu => absurd hu hn))
  intro h₂ _ scrub s₂ ha₂
  refine Co.Safe.handle_bind (stage_trail (q := .PolicyEval _) rfl rfl
    (fun info h s ha => on_world_unmoved ((unmoved_issuing _).policy_eval A _) ha) ha₂ ?_)
  intro h₃ _ policy s₃ ha₃
  refine Co.Safe.handle_bind (stage_trail (q := .JITTokenIssue _) rfl rfl
    (fun info h s ha => on_world_unmoved
      (Co.Segments.lift (unmoved_issuing _).trans ((unmoved_issuing _).jit_token_issue _)) ha) ha₃ ?_)
  exact fun h₄ s₄ token s₅ ha₄ => hD h₄ s₄ (scrub, policy, token) s₅ ha₄

/-- The wait ends with a signal or with the timer. -/
theorem wait_for_signal_trail {inp : WorkflowInput} (ha : At task_id i reached status h s)
    {D : Log Tok → Worker Tok ι → Bool → Worker Tok ι → Prop}
    (hsignal : ∀ h s₀ s, At task_id i reached status h s → (s.flows i).approval_signal ≠ none →
      D h s₀ false s)
    (htimer : ∀ h s₀ s, At task_id i reached status h s → D h s₀ true s) :
    FlowTrail A workflow_id task_id i D h s₀ (wait_for_signal inp) s := by
  refine Co.Safe.handle_tryCatch (Co.Safe.handle_bind (execute_safe
    (q := WorkflowCall.wait_condition inp.approval_timeout_seconds)
    (Co.Safe.call (q := DurableCall.wait_condition inp.approval_timeout_seconds) trivial ?_ ?_)))
  · exact fun _ s' henv => hsignal _ _ _ (ha.await henv) henv.2
  · intro e s' henv
    have htimeout : e.kind = .TimeoutError := henv.2
    rw [if_pos htimeout]
    exact htimer _ _ _ (ha.await henv)

/-- Where the gate leaves a run: on its way, or denied. -/
def Decided (task_id : String) (i : ι) (h : Log Tok) (decision : ApprovalSignalPayload)
    (s : Worker Tok ι) : Prop :=
  if decision.approved then At task_id i [.STARTED] WorkflowStatus.RUNNING.value h s
  else ∃ state : PendingApprovalState, At task_id i [.STARTED, .DENIED] state.value h s

theorem await_pending_approval_trail {inp : WorkflowInput}
    (ha : At inp.task_id i [.STARTED] status h s)
    {D : Log Tok → Worker Tok ι → ApprovalSignalPayload → Worker Tok ι → Prop}
    (hD : ∀ h s₀ decision s, Decided inp.task_id i h decision s → D h s₀ decision s) :
    FlowTrail A workflow_id inp.task_id i D h s₀ (await_pending_approval inp) s := by
  refine Co.Safe.handle_bind (set_trail WorkflowStatus.HUMAN_INTERVENTION_REQUIRED.value
    (fun _ => rfl) ha fun s₁ ha₁ => ?_)
  refine Co.Safe.handle_bind (audit_trail (AegisActivities.audit_milestone_pending inp) ha₁ ?_)
  intro h₂ _ _ s₂ ha₂
  refine Co.Safe.handle_bind (wait_for_signal_trail ha₂ ?_ ?_)
  · intro h₃ s₃ s₄ ha₃ hsignal
    refine Co.Safe.handle_bind (self_trail ?_)
    cases hsig : (s₄.flows i).approval_signal with
    | none => exact absurd hsig hsignal
    | some signal =>
        cases happ : signal.approved with
        | true =>
            refine Co.Safe.handle_bind (set_trail WorkflowStatus.RUNNING.value ?_ ha₃ fun s₅ ha₄ => ?_)
            · intro w
              simp [AgentTaskWorkflow.settle, happ]
            · refine Co.Safe.handle_bind
                (audit_trail (AegisActivities.audit_milestone_decision inp signal) ha₄ ?_)
              intro h₅ s₆ _ s₇ ha₅
              refine hD h₅ s₆ signal s₇ ?_
              rw [if_pos happ] at ha₅
              unfold Decided
              rw [if_pos happ]
              exact ha₅
        | false =>
            refine Co.Safe.handle_bind (set_trail PendingApprovalState.DENIED.value ?_ ha₃
              fun s₅ ha₄ => ?_)
            · intro w
              simp [AgentTaskWorkflow.settle, happ]
            · refine Co.Safe.handle_bind
                (audit_trail (AegisActivities.audit_milestone_decision inp signal) ha₄ ?_)
              intro h₅ s₆ _ s₇ ha₅
              refine hD h₅ s₆ signal s₇ ?_
              have hdenied : ¬signal.approved = true := by simp [happ]
              rw [if_neg hdenied] at ha₅
              unfold Decided
              rw [if_neg hdenied]
              exact ⟨.DENIED, ha₅⟩
  · intro h₃ s₃ s₄ ha₃
    refine Co.Safe.handle_bind (set_trail PendingApprovalState.TIMED_OUT.value (fun _ => rfl) ha₃
      fun s₅ ha₄ => ?_)
    refine Co.Safe.handle_bind
      (audit_trail (AegisActivities.audit_milestone_recorded rfl rfl (by decide)) ha₄ ?_)
    intro h₅ s₆ _ s₇ ha₅
    exact hD h₅ s₆ _ s₇ ⟨.TIMED_OUT, ha₅⟩

/-- `LLMInvoke` has failed: for good, which is recorded, or for a human to look at. -/
theorem llm_failed_trail {inp : WorkflowInput} {e : Exc} (he : is_activity_error e)
    (ha : At inp.task_id i [.STARTED] status h s)
    {D : Log Tok → Worker Tok ι → LLMInvokeResult → Worker Tok ι → Prop} :
    FlowTrail A workflow_id inp.task_id i D h s₀ (llm_failed inp e) s := by
  obtain ⟨cause, retry_state, hkind⟩ := he
  unfold llm_failed
  simp only [hkind]
  cases cause.filter (fun c => c.type ∈ terminal_types) with
  | some cause =>
      refine Co.Safe.handle_bind (set_trail WorkflowStatus.FAILED.value (fun _ => rfl) ha
        fun s₁ ha₁ => ?_)
      refine Co.Safe.handle_bind
        (audit_trail (AegisActivities.audit_milestone_recorded rfl rfl (by decide)) ha₁ ?_)
      intro h₂ _ _ s₂ ha₂ hu
      refine Stands.accounted (some .FAILED) (by decide) (ha₂ hu) ?_
      decide
  | none =>
      refine Co.Safe.handle_bind (set_trail WorkflowStatus.HUMAN_INTERVENTION_REQUIRED.value
        (fun _ => rfl) ha fun s₁ ha₁ => ?_)
      refine Co.Safe.handle_bind (audit_trail rfl ha₁ ?_)
      intro h₂ _ _ s₂ ha₂ hu
      refine Stands.accounted none (by decide) (ha₂ hu) ?_
      decide

theorem pre_check_trail {inp : WorkflowInput} (ha : At task_id i reached status h s)
    {D : Log Tok → Worker Tok ι → Option ℚ → Worker Tok ι → Prop}
    (hD : ∀ h s₀ a s, At task_id i reached status h s → D h s₀ a s) :
    FlowTrail A workflow_id task_id i D h s₀ (pre_check inp []) s := by
  have B := (@unmoved_issuing Tok task_id).toOnlooker
  unfold pre_check
  split
  · refine Co.Safe.handle_bind (stage_trail (q := .BudgetPreCheck _) rfl rfl
      (fun info h s ha => on_world_unmoved (Co.Segments.lift B.trans (B.budget_pre_check _)) ha) ha ?_)
    exact fun h₁ s₁ r s₂ ha₁ => hD h₁ s₁ _ s₂ ha₁
  · exact hD _ _ _ _ ha

theorem record_budget_trail {inp : WorkflowInput} {tokens_used : ℤ} {spent : Option ℚ}
    (ha : At task_id i reached status h s)
    {D : Log Tok → Worker Tok ι → Option ℚ → Worker Tok ι → Prop}
    (hD : ∀ h s₀ a s, At task_id i reached status h s → D h s₀ a s) :
    FlowTrail A workflow_id task_id i D h s₀ (record_budget inp [] tokens_used spent) s := by
  have B := (@unmoved_issuing Tok task_id).toOnlooker
  unfold record_budget
  split
  · refine Co.Safe.handle_bind (stage_trail (q := .BudgetRecordSpend _) rfl rfl
      (fun info h s ha => on_world_unmoved (Co.Segments.lift B.trans (B.budget_record_spend _ _)) ha)
      ha ?_)
    exact fun h₁ s₁ r s₂ ha₁ => hD h₁ s₁ _ s₂ ha₁
  · exact hD _ _ _ _ ha

theorem post_sanitize_trail {pin : PostSanitizeInput} (htask : pin.task_id = task_id)
    (ha : At task_id i [.STARTED] status h s)
    {D : Log Tok → Worker Tok ι → PostSanitizeResult → Worker Tok ι → Prop}
    (hD : ∀ h s₀ a s, At task_id i [.STARTED, .COMPLETED] status h s → D h s₀ a s) :
    FlowTrail A workflow_id task_id i D h s₀ (execute (.PostSanitize pin)) s := by
  subst htask
  refine stage_trail (q := .PostSanitize pin) rfl rfl ?_ ha hD
  intro info h s ha
  refine Co.Safe.handle_lift ?_ ?_
  · intro r w hrun hu
    refine ⟨(AegisActivities.post_sanitize_milestones hrun).trans ?_, (ha hu).status⟩
    rw [(ha hu).trail]
    rfl
  · intro e w hrun hu
    exact ⟨(AegisActivities.post_sanitize_failed _ hrun).trans (ha hu).trail, (ha hu).status⟩

theorem after_gate_trail {inp : WorkflowInput} (ha : At inp.task_id i [.STARTED] status h s)
    (scrub : PrePIIScrubResult) (policy : PolicyEvalResult) (token : JITTokenResult Tok) :
    FlowTrail A workflow_id inp.task_id i (ReturnsAccounted inp.task_id i) h s₀
      (after_gate inp scrub policy token) s := by
  refine Co.Safe.handle_bind (pre_check_trail ha ?_)
  intro h₁ _ spent s₁ ha₁
  refine Co.Safe.handle_bind (Co.Safe.handle_tryCatch (execute_safe
    (q := WorkflowCall.LLMInvoke (llm_input inp policy.sanitized_prompt token))
    (execute_llm_stage ha₁ ?_ ?_)))
  · intro h₂ _ llm s₂ ha₂
    refine Co.Safe.handle_bind (record_budget_trail ha₂ ?_)
    intro h₃ _ spent' s₃ ha₃
    refine Co.Safe.handle_bind (post_sanitize_trail rfl ha₃ ?_)
    intro h₄ _ post s₄ ha₄
    refine Co.Safe.handle_bind (set_trail WorkflowStatus.COMPLETED.value (fun _ => rfl) ha₄
      fun s₅ ha₅ => ?_)
    refine Co.Safe.handle_bind (self_trail ?_)
    intro hu
    refine Stands.accounted (some .COMPLETED) (by decide) (ha₅ hu) ?_
    decide
  · exact fun h₂ _ e s₂ he ha₂ => llm_failed_trail he ha₂

/-- One run, whatever else goes on and whatever it is answered. -/
theorem run_trail_safe {inp : WorkflowInput} (hnew : milestones inp.task_id s.world.audit = [])
    (hspend : ∃ gated, exceeds_threshold inp = .ok gated) :
    TrailSafe inp.task_id i (ReturnsAccounted inp.task_id i) (RaisesAccounted inp.task_id i) [] s
      (run A workflow_id i inp) s := by
  obtain ⟨gated, hgated⟩ := hspend
  refine Co.Safe.handle_bind (before_gate_trail hnew ?_)
  rintro h₁ s₁ ⟨scrub, policy, token⟩ s₂ ha₁
  rw [hgated]
  refine Co.Safe.handle_bind (Co.Safe.handle_lift ?_ ?_)
  · intro _ w hrun
    cases hrun
    have ha₂ : At inp.task_id i [.STARTED] WorkflowStatus.RUNNING.value h₁
        { s₂ with flows := Function.update s₂.flows i (s₂.flows i) } := by
      rw [Function.update_eq_self]
      exact ha₁
    cases gated with
    | false => exact after_gate_trail ha₂ scrub policy token
    | true =>
        refine Co.Safe.handle_bind (await_pending_approval_trail ha₂ ?_)
        intro h₃ _ decision s₃ hd
        unfold Decided at hd
        by_cases happ : decision.approved
        · rw [if_pos happ] at hd ⊢
          exact after_gate_trail hd scrub policy token
        · rw [if_neg happ] at hd ⊢
          obtain ⟨state, ha₃⟩ := hd
          refine Co.Safe.handle_bind (self_trail ?_)
          intro hu
          have hstatus := (ha₃ hu).status
          have hout : returned_as (refused_output inp scrub policy decision (s₃.flows i)) = .DENIED := by
            unfold returned_as
            refine if_neg ?_
            show (s₃.flows i).workflow_status ≠ _
            rw [hstatus]
            cases state <;> decide
          rw [hout]
          refine Stands.accounted (some .DENIED) (by decide) (ha₃ hu) ?_
          cases state <;> decide
  · intro e w hrun
    cases hrun

end

/-- **How a durable task is accounted for.**  In every run whose other stages do not fail, whatever
`LLMInvoke` does, whatever the gate decides and however often a stage is retried: when it has closed,
the trail has one start of the task and the one terminal event that agrees with how it closed, none
after an escalation to a human; and the instance does not show that it is running. -/
theorem lifecycle_accounted [DecidableEq ι] (A : AegisActivities Tok) (workflow_id : Option String)
    (i : ι) {inp : WorkflowInput} {s : Worker Tok ι}
    (hnew : milestones inp.task_id s.world.audit = [])
    (hspend : ∃ gated, exceeds_threshold inp = .ok gated) {c : DurableConf Tok ι}
    (hc : Co.Conf.Reachable (Alongside inp.task_id i) (Answers i) (run A workflow_id i inp) s c)
    (hsteps : ∀ x ∈ c.hist, unfailing x = true) (hclosed : c.point.awaited = none) :
    Accounted inp.task_id i (closing c.point) c.state := by
  have hsafe : TrailSafe inp.task_id i (ReturnsAccounted inp.task_id i)
      (RaisesAccounted inp.task_id i) [] s (run A workflow_id i inp) s := run_trail_safe hnew hspend
  have hgood := Co.Conf.good_of_reachable hsafe hc
  have hstop : Accounted inp.task_id i (closing c.point) c.stop := by
    have hok := hgood.stopOk
    obtain ⟨hist, seg, stop, point, state⟩ := c
    cases point with
    | done out => exact hok hsteps
    | failed e => exact hok hsteps
    | waiting q k => cases hclosed
  exact hstop.alongside hgood.drift

/-! ### A task whose adapter is rate limited -/

/-- A task without a budget, below the threshold of the gate. -/
def plainTask : WorkflowInput where
  task_id := "task-0"
  prompt := "hello"
  agent_type := "general"
  requester_id := "client"

def idleWorker : Worker SymToken Unit where
  world := World.fresh {} (.still 0)
    (fun n => ["jti-0", "jti-1", "jti-2", "jti-3", "jti-4"].getD n "jti")
  flows := fun _ => {}

/-- Every activity is started and reported, the policy allows, and the adapter does the same at every
attempt. -/
def steadySteps (response : Except Exc LLMResponse) : (q : DurableCall SymToken) → Except Exc q.Answer
  | .schedule _ => .ok ("1" : String)
  | .io (.evaluate _ _) => .ok ({ allowed := true } : PolicyResult)
  | .io (.complete _) => response
  | .report _ _ _ => .ok ()
  | .backoff _ _ => .ok ()
  | .wait_condition _ => .error ⟨.TimeoutError, []⟩

theorem steadySteps_answers (response : Except Exc LLMResponse) (q : DurableCall SymToken)
    (s : Worker SymToken Unit) : Answers () q (steadySteps response q) s := by
  cases q with
  | io q => cases q <;> trivial
  | wait_condition t => rfl
  | _ => trivial

/-- The run of `plainTask`, until it has closed. -/
def steadyConf (response : Except Exc LLMResponse) : DurableConf SymToken Unit :=
  (Co.Conf.respond (steadySteps response))^[24]
    (Co.Conf.start (run plainActivities (some "task-0") () plainTask) idleWorker)

theorem steadyConf_reached (response : Except Exc LLMResponse) :
    Co.Conf.Reachable (Alongside plainTask.task_id ()) (Answers ())
      (run plainActivities (some "task-0") () plainTask) idleWorker (steadyConf response) :=
  Co.Conf.Reachable.responds .refl _ (steadySteps_answers response) 24

def rateLimited : Except Exc LLMResponse :=
  .error ⟨.ApplicationError "RateLimitError" false, "Rate limited"⟩

/-- The class a run has raised. -/
def raised_kind (c : DurableConf Tok ι) : Option ExcKind :=
  match c.point with
  | .failed e => some e.kind
  | _ => none

/-- After five attempts the task is handed to a human: the run closes without a terminal event. -/
theorem escalation_has_no_terminal_event :
    Co.Conf.Reachable (Alongside plainTask.task_id ()) (Answers ())
        (run plainActivities (some "task-0") () plainTask) idleWorker (steadyConf rateLimited) ∧
      raised_kind (steadyConf rateLimited) = some .HITLEscalationError ∧
      milestones "task-0" (steadyConf rateLimited).state.world.audit = [.STARTED] ∧
      ∀ terminal, ¬Accounted "task-0" () (some terminal) (steadyConf rateLimited).state := by
  have htrail : milestones "task-0" (steadyConf rateLimited).state.world.audit = [.STARTED] := by
    decide +kernel
  refine ⟨steadyConf_reached rateLimited, by decide +kernel, htrail, ?_⟩
  intro terminal haccounted
  have hended := haccounted.ended
  rw [htrail] at hended
  cases hended

def answered : Except Exc LLMResponse := .ok ⟨"hi", 1, "gpt-4o-mini", "openai", "stop"⟩

/-- A task that is completed. -/
theorem answered_task_accounted :
    Co.Conf.Reachable (Alongside plainTask.task_id ()) (Answers ())
        (run plainActivities (some "task-0") () plainTask) idleWorker (steadyConf answered) ∧
      (∀ x ∈ (steadyConf answered).hist, unfailing x = true) ∧
      Accounted "task-0" () (closing (steadyConf answered).point) (steadyConf answered).state := by
  have hsteps : ∀ x ∈ (steadyConf answered).hist, unfailing x = true :=
    List.all_eq_true.mp (by decide +kernel)
  have hclosed : (steadyConf answered).point.awaited = none :=
    Option.isNone_iff_eq_none.mp (by decide +kernel)
  exact ⟨steadyConf_reached answered, hsteps, lifecycle_accounted plainActivities (some "task-0") ()
    rfl ⟨false, by decide +kernel⟩ (steadyConf_reached answered) hsteps hclosed⟩

end Durable

end AegisOs
