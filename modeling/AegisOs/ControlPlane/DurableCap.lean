/-
# `AegisOs.ControlPlane.DurableCap` — many workflows, one budget session

Any number of `AgentTaskWorkflow` runs on one worker that carry the same budget
session and the same limit.  A run's `BudgetPreCheck` is handed an empty ledger
and restores the session from it, so what it finds is the limit and nothing
spent, whatever the runs before it have recorded: it refuses exactly when the
limit is not positive (`pre_checked_empty`).

`run_cap_safe` goes through one run with the rules of `Lib.Co` and
`Durable.Loop`.  Its assertion says what a run has asked for (`AskedOk`), and
what it must ask for next where the next step is forced (`Follows`): an
execution of `BudgetPreCheck` with money left reports that it passed, and a
report that it passed is followed by the scheduling of `LLMInvoke`.  The first
part bounds what every run can do, the second shows that the bound is met.
-/
import AegisOs.ControlPlane.Durable
import AegisOs.ControlPlane.DurableBudget
import AegisOs.ControlPlane.Pipeline
import Mathlib.Algebra.BigOperators.Group.Finset.Basic
import Mathlib.Data.Fintype.Basic

namespace AegisOs.Durable

open Lib Lib.EState AgentTaskWorkflow

variable {Tok ι : Type}

/-! ## The check of an empty ledger -/

/-- What a run hands to `BudgetPreCheck`. -/
def pre_check_input (inp : WorkflowInput) (bid : Lit Uuid) (blim : Lit ℚ) : BudgetPreCheckInput where
  task_id := inp.task_id
  agent_type := inp.agent_type
  budget_session_id := bid
  budget_limit_usd := blim
  history := []

section
variable {inp : WorkflowInput} {bid : Lit Uuid} {blim : Lit ℚ} {id : Uuid} {limit : ℚ}

/-- With an empty ledger only the limit is looked at. -/
theorem pre_checked_empty (hbid : bid.val = some id) (hlim : blim.val = some limit)
    (htask : inp.task_id ≠ "") :
    (0 < limit → ∃ r, AegisActivities.pre_checked (pre_check_input inp bid blim) = .ok r) ∧
    (limit ≤ 0 → ∃ msg, AegisActivities.pre_checked (pre_check_input inp bid blim) =
      .error ⟨.ApplicationError "BudgetExceededError" true, msg⟩) := by
  have hid : AegisActivities.requiredTaskId (pre_check_input inp bid blim).task_id
      "watchdog.pre-llm" = .ok inp.task_id := if_neg htask
  have hrestored : AegisActivities.restored bid inp.agent_type blim [] =
      .ok (id, BudgetEnforcer.blank id inp.agent_type limit) := by
    simp only [AegisActivities.restored, AegisActivities.readLit, hbid, hlim]
    rfl
  have hrun : AegisActivities.pre_checked (pre_check_input inp bid blim) =
      (if limit ≤ 0 then
        (.error ⟨.BudgetExceededError, AegisActivities.exhausted_message id
          (BudgetEnforcer.blank id inp.agent_type limit)⟩ : Except Exc BudgetPreCheckResult)
      else .ok ⟨(BudgetEnforcer.blank id inp.agent_type limit).serialize⟩).mapError
        AegisActivities.refused := by
    unfold AegisActivities.pre_checked
    rw [hid]
    show Except.mapError _ ((AegisActivities.restored bid inp.agent_type blim []).bind _) = _
    rw [hrestored]
    rfl
  rw [hrun]
  constructor
  · intro hpos
    rw [if_neg (not_le.mpr hpos)]
    exact ⟨_, rfl⟩
  · intro hneg
    rw [if_pos hneg]
    exact ⟨_, rfl⟩

end

/-! ## What is due next -/

/-- What the code must do next where that is forced. -/
inductive Due where
  | nothing
  /-- The outcome of an execution of `BudgetPreCheck`. -/
  | verdict (pc : BudgetPreCheckInput)
  | llm

/-- What is due once a call has been answered. -/
def dueAfter : (Σ q : DurableCall Tok, Except Exc q.Answer) → Due
  | ⟨.schedule (.BudgetPreCheck pc), .ok _⟩ => .verdict pc
  | ⟨.report (.BudgetPreCheck _) _ (.ok _), .ok _⟩ => .llm
  | _ => .nothing

def due (h : Log Tok) : Due := h.getLast?.elim .nothing dueAfter

@[simp] theorem due_append (h : Log Tok) (x : Σ q : DurableCall Tok, Except Exc q.Answer) :
    due (h ++ [x]) = dueAfter x := by
  simp [due]

def isPreCheck : WorkflowCall Tok → Bool
  | .BudgetPreCheck _ => true
  | _ => false

theorem dueAfter_schedule {q : WorkflowCall Tok} (hq : isPreCheck q = false)
    (r : Except Exc String) : dueAfter ⟨.schedule q, r⟩ = .nothing := by
  cases q with
  | BudgetPreCheck pc => cases hq
  | _ => rfl

theorem dueAfter_report {q : WorkflowCall Tok} (hq : isPreCheck q = false) (n : ℕ)
    (outcome : Except Exc q.Answer) (r : Except Exc Unit) :
    dueAfter ⟨.report q n outcome, r⟩ = .nothing := by
  cases q with
  | BudgetPreCheck pc => cases hq
  | _ => rfl

/-! ## The assertions -/

section
variable (inp : WorkflowInput) (bid : Lit Uuid) (blim : Lit ℚ) (limit : ℚ)

/-- What a run may ask for: `BudgetPreCheck` only with an empty ledger and as the activity answers
it, and `LLMInvoke` only when the limit is positive. -/
def AskedOk : DurableCall Tok → Prop
  | .schedule (.BudgetPreCheck pc) => pc = pre_check_input inp bid blim ∧ inp.task_id ≠ ""
  | .report (.BudgetPreCheck pc) _ r =>
      pc = pre_check_input inp bid blim ∧ inp.task_id ≠ "" ∧ r = AegisActivities.pre_checked pc
  | .schedule (.LLMInvoke _) => 0 < limit
  | _ => True

/-- Where the code stops, given what is due; `none` is its end. -/
def Follows (h : Log Tok) (stop : Option (DurableCall Tok)) : Prop :=
  match due h with
  | .nothing => True
  | .verdict pc => 0 < limit → ∃ r, stop = some (.report (.BudgetPreCheck pc) 1 (.ok r))
  | .llm => ∃ li, stop = some (.schedule (.LLMInvoke li))

/-- The assertion at an await. -/
def CapAwait (h : Log Tok) (_ : Worker Tok ι) (q : DurableCall Tok) (_ : Worker Tok ι) : Prop :=
  AskedOk inp bid blim limit q ∧ Follows limit h (some q)

/-- The assertion at the end. -/
def CapEnd {α : Type} (h : Log Tok) (_ : Worker Tok ι) (_ : α) (_ : Worker Tok ι) : Prop :=
  Follows limit h none

end

theorem follows_of_nothing {limit : ℚ} {h : Log Tok} (hd : due h = .nothing)
    (stop : Option (DurableCall Tok)) : Follows limit h stop := by
  unfold Follows
  rw [hd]
  trivial

section
variable {inp : WorkflowInput} {bid : Lit Uuid} {blim : Lit ℚ} {limit : ℚ}

/-- Code of an activity leaves nothing due, whatever it awaits. -/
theorem on_world_cap {α : Type} {P : α → Prop} {p : Orchestrator.Run Tok α} {h : Log Tok}
    {s₀ s : Worker Tok ι}
    (hp : Co.Safe Co.anyEnv (fun _ _ _ _ => True) (fun _ _ a _ => P a) (fun _ _ _ _ => True) []
      s.world p s.world) (hd : due h = .nothing) :
    Co.Safe Co.anyEnv (CapAwait inp bid blim limit) (fun h _ a _ => due h = .nothing ∧ P a)
      (fun h _ _ _ => due h = .nothing) h s₀ (on_world p) s := by
  refine Co.Safe.handle (J := fun h _ => due h = .nothing) (fun _ _ => rfl) (fun _ _ _ h => h) ?_ hp hd
  intro q h s₀ s hd
  refine Co.Safe.call (q := DurableCall.io q) ⟨trivial, follows_of_nothing hd _⟩ ?_ ?_
  · exact fun _ _ _ => due_append _ _
  · exact fun _ _ _ => due_append _ _

theorem askedOk_report {q : WorkflowCall Tok} (hq : isPreCheck q = false) (n : ℕ)
    (r : Except Exc q.Answer) : AskedOk inp bid blim limit (.report q n r) := by
  cases q with
  | BudgetPreCheck pc => cases hq
  | _ => trivial

variable {A : AegisActivities Tok} {workflow_id : Option String} {h : Log Tok} {s₀ s : Worker Tok ι}

/-- Every activity but `BudgetPreCheck` leaves nothing due. -/
theorem execute_activity_cap {q : WorkflowCall Tok} (hq : isPreCheck q = false)
    {P : q.Answer → Prop} {D : Log Tok → Worker Tok ι → q.Answer → Worker Tok ι → Prop}
    {X : Log Tok → Worker Tok ι → Exc → Worker Tok ι → Prop}
    (hp : ∀ info w, Co.Safe Co.anyEnv (fun _ _ _ _ => True) (fun _ _ a _ => P a)
      (fun _ _ _ _ => True) [] w (perform A info q) w)
    (hasked : AskedOk inp bid blim limit (.schedule q))
    (hfollows : Follows limit h (some (.schedule q)))
    (hD : ∀ h s₀ a s, due h = .nothing → P a → D h s₀ a s)
    (hX : ∀ h s₀ e s, due h = .nothing → X h s₀ e s) :
    Co.Safe Co.anyEnv (CapAwait inp bid blim limit) D X h s₀ (execute_activity A workflow_id q) s := by
  have hreport : ∀ (h : Log Tok) n (o : Except Exc q.Answer) (r : Except Exc Unit),
      due (h ++ [⟨.report q n o, r⟩]) = .nothing := fun h n o r =>
    (due_append _ _).trans (dueAfter_report hq n o r)
  have L : Loop (ι := ι) Co.anyEnv (CapAwait inp bid blim limit) D X
      (fun _ h _ => due h = .nothing) (fun _ h _ => due h = .nothing)
      (fun a h _ _ => due h = .nothing ∧ P a) :=
    { failed := fun e hd => ⟨askedOk_report hq _ _, follows_of_nothing hd _⟩
      failed_next := fun _ _ => hreport _ _ _ _
      returned := fun hk => ⟨askedOk_report hq _ _, follows_of_nothing hk.1 _⟩
      returned_next := fun hk _ => hD _ _ _ _ (hreport _ _ _ _) hk.2
      lost := fun _ _ => hX _ _ _ _ (hreport _ _ _ _)
      backoff := fun hd => ⟨trivial, follows_of_nothing hd _⟩
      backoff_next := fun _ _ => due_append _ _
      backoff_lost := fun _ _ => hX _ _ _ _ (due_append _ _)
      raised := fun _ hd => hX _ _ _ _ hd }
  refine execute_activity_safe L ?_ ⟨hasked, hfollows⟩ ?_ ?_
  · intro activity_id n h s hd
    exact on_world_cap (hp _ _) hd
  · intro activity_id s' _
    exact (due_append _ _).trans (dueAfter_schedule hq _)
  · intro e s' _
    exact hX _ _ _ _ ((due_append _ _).trans (dueAfter_schedule hq _))

/-- `BudgetPreCheck` returns only when the limit is positive, and then `LLMInvoke` is due. -/
theorem budget_pre_check_cap {id : Uuid} (hbid : bid.val = some id) (hlim : blim.val = some limit)
    (htask : inp.task_id ≠ "")
    {D : Log Tok → Worker Tok ι → BudgetPreCheckResult → Worker Tok ι → Prop}
    {X : Log Tok → Worker Tok ι → Exc → Worker Tok ι → Prop} (hd : due h = .nothing)
    (hD : ∀ h s₀ a s, due h = .llm → 0 < limit → D h s₀ a s)
    (hX : ∀ h s₀ e s, due h = .nothing → X h s₀ e s) :
    Co.Safe Co.anyEnv (CapAwait inp bid blim limit) D X h s₀
      (execute_activity A workflow_id (.BudgetPreCheck (pre_check_input inp bid blim))) s := by
  obtain ⟨hpass, hrefuse⟩ := pre_checked_empty hbid hlim htask
  refine Co.Safe.bind (Co.Safe.call
    (q := DurableCall.schedule (.BudgetPreCheck (pre_check_input inp bid blim)))
    ⟨⟨rfl, htask⟩, follows_of_nothing hd _⟩ ?_ ?_)
  · intro activity_id s₁ _
    refine Co.Safe.bind (Co.Safe.bind (Co.Safe.attempt (Co.Safe.handle_lift ?_ ?_)))
    · -- the check passes, so the limit is positive
      intro r w hrun
      have hr : AegisActivities.pre_checked (pre_check_input inp bid blim) = .ok r := by
        rw [← AegisActivities.budget_pre_check_result _ s₁.world, hrun]
        rfl
      have hpos : 0 < limit := by
        by_contra hneg
        obtain ⟨msg, hmsg⟩ := hrefuse (not_lt.mp hneg)
        rw [hr] at hmsg
        cases hmsg
      refine Co.Safe.bind (Co.Safe.call (q := DurableCall.report
        (.BudgetPreCheck (pre_check_input inp bid blim)) 1 (.ok r)) ⟨⟨rfl, htask, hr.symm⟩, ?_⟩ ?_ ?_)
      · unfold Follows
        rw [due_append]
        exact fun _ => ⟨r, rfl⟩
      · exact fun _ s₂ _ => hD _ _ _ _ (due_append _ _) hpos
      · exact fun e s₂ _ => hX _ _ _ _ (due_append _ _)
    · intro e w hrun
      have hr : AegisActivities.pre_checked (pre_check_input inp bid blim) = .error e := by
        rw [← AegisActivities.budget_pre_check_result _ s₁.world, hrun]
        rfl
      refine Co.Safe.bind (Co.Safe.call (q := DurableCall.report
        (.BudgetPreCheck (pre_check_input inp bid blim)) 1 (.error e)) ⟨⟨rfl, htask, hr.symm⟩, ?_⟩
        ?_ ?_)
      · unfold Follows
        rw [due_append]
        intro hpos
        obtain ⟨r, hok⟩ := hpass hpos
        rw [hr] at hok
        cases hok
      · intro _ s₂ _
        refine settle_error_safe (q := .BudgetPreCheck (pre_check_input inp bid blim)) ?_ ?_
        · exact fun _ => Co.Safe.throw (hX _ _ _ _ (due_append _ _))
        · exact fun _ => hX _ _ _ _ (due_append _ _)
      · exact fun e' s₂ _ => hX _ _ _ _ (due_append _ _)
  · exact fun e s₁ _ => hX _ _ _ _ (due_append _ _)

/-! ## One run -/

theorem capEnd_of_nothing {α : Type} {h : Log Tok} {s₀ s : Worker Tok ι} {a : α}
    (hd : due h = .nothing) : CapEnd limit h s₀ a s := follows_of_nothing hd none

variable [DecidableEq ι] {i : ι}

/-- A program of the workflow that leaves nothing due. -/
abbrev FlowCap (inp : WorkflowInput) (bid : Lit Uuid) (blim : Lit ℚ) (limit : ℚ)
    (A : AegisActivities Tok) (workflow_id : Option String) (i : ι) {α : Type}
    (D : Log Tok → Worker Tok ι → α → Worker Tok ι → Prop) (h : Log Tok) (s₀ : Worker Tok ι)
    (p : Flow Tok α) (s : Worker Tok ι) : Prop :=
  Co.Safe Co.anyEnv (CapAwait inp bid blim limit) D (CapEnd limit) h s₀ (on_flow A workflow_id i p) s

/-- The updates of the instance. -/
theorem set_cap {D : Log Tok → Worker Tok ι → Unit → Worker Tok ι → Prop}
    (f : AgentTaskWorkflow → AgentTaskWorkflow) (hD : ∀ s', D h s₀ () s') :
    FlowCap inp bid blim limit A workflow_id i D h s₀ (set f) s := by
  refine Co.Safe.handle_lift ?_ ?_
  · exact fun _ _ _ => hD _
  · intro e t hrun
    cases hrun

theorem self_cap {D : Log Tok → Worker Tok ι → AgentTaskWorkflow → Worker Tok ι → Prop}
    (hD : ∀ w s', D h s₀ w s') : FlowCap inp bid blim limit A workflow_id i D h s₀ self s := by
  refine Co.Safe.handle_lift ?_ ?_
  · exact fun _ _ _ => hD _ _
  · intro e t hrun
    cases hrun

theorem execute_cap {q : WorkflowCall Tok} (hq : isPreCheck q = false)
    (hact : (carry_out A workflow_id q : Durable Tok ι q.Answer) = execute_activity A workflow_id q)
    {D : Log Tok → Worker Tok ι → q.Answer → Worker Tok ι → Prop}
    {X : Log Tok → Worker Tok ι → Exc → Worker Tok ι → Prop}
    (hasked : AskedOk inp bid blim limit (.schedule q))
    (hfollows : Follows limit h (some (.schedule q)))
    (hD : ∀ h s₀ a s, due h = .nothing → D h s₀ a s)
    (hX : ∀ h s₀ e s, due h = .nothing → X h s₀ e s) :
    Co.Safe Co.anyEnv (CapAwait inp bid blim limit) D X h s₀
      (on_flow A workflow_id i (execute q)) s := by
  refine execute_safe ?_
  rw [hact]
  exact execute_activity_cap (P := fun _ => True) hq (fun _ _ => Co.Safe.trivial) hasked hfollows
    (fun h s₀ a s hd _ => hD h s₀ a s hd) hX

/-- An entry in the audit log. -/
theorem audit_cap {D : Log Tok → Worker Tok ι → Unit → Worker Tok ι → Prop} (hd : due h = .nothing)
    (inp' : WorkflowAuditInput) (hD : ∀ h s₀ a s, due h = .nothing → D h s₀ a s) :
    FlowCap inp bid blim limit A workflow_id i D h s₀ (execute (.WorkflowAudit inp')) s :=
  execute_cap (q := .WorkflowAudit inp') rfl rfl trivial (follows_of_nothing hd _) hD
    fun _ _ _ _ => capEnd_of_nothing

theorem before_gate_cap (hd : due h = .nothing)
    {D : Log Tok → Worker Tok ι → PrePIIScrubResult × PolicyEvalResult × JITTokenResult Tok →
      Worker Tok ι → Prop}
    (hD : ∀ h s₀ a s, due h = .nothing → inp.task_id ≠ "" → D h s₀ a s) :
    FlowCap inp bid blim limit A workflow_id i D h s₀ (before_gate inp) s := by
  have hend : ∀ (h : Log Tok) (s₀ : Worker Tok ι) (e : Exc) (s : Worker Tok ι), due h = .nothing →
      CapEnd limit h s₀ e s := fun _ _ _ _ => capEnd_of_nothing
  refine Co.Safe.handle_bind (set_cap _ fun s₁ => ?_)
  -- a task without an id does not get past the first activity
  have htask : ∀ info w, Co.Safe Co.anyEnv (fun _ _ _ _ => True)
      (fun _ _ (_ : PrePIIScrubResult) _ => inp.task_id ≠ "") (fun _ _ _ _ => True) [] w
      (perform A info (.PrePIIScrub inp)) w := by
    intro info w
    refine Co.Safe.lift ?_ (fun _ _ _ => trivial)
    intro a w' hrun hempty
    obtain ⟨_, _, hid, _⟩ := bind_eq_ok.mp hrun
    unfold AegisActivities.require_task_id at hid
    rw [if_pos hempty] at hid
    obtain ⟨_, _, _, hthrow⟩ := bind_eq_ok.mp hid
    cases hthrow
  refine Co.Safe.handle_bind (execute_safe (q := WorkflowCall.PrePIIScrub inp)
    (execute_activity_cap (q := .PrePIIScrub inp) rfl htask trivial (follows_of_nothing hd _) ?_ hend))
  intro h₁ s₁ scrub s₂ hd₁ hne
  refine Co.Safe.handle_bind (execute_cap (q := .PolicyEval _) rfl rfl trivial
    (follows_of_nothing hd₁ _) ?_ hend)
  intro h₂ _ policy _ hd₂
  refine Co.Safe.handle_bind (execute_cap (q := .JITTokenIssue _) rfl rfl trivial
    (follows_of_nothing hd₂ _) ?_ hend)
  intro h₃ s₃ token s₄ hd₃
  exact hD h₃ s₃ (scrub, policy, token) s₄ hd₃ hne

theorem wait_for_signal_cap (hd : due h = .nothing)
    {D : Log Tok → Worker Tok ι → Bool → Worker Tok ι → Prop}
    (hD : ∀ h s₀ a s, due h = .nothing → D h s₀ a s) :
    FlowCap inp bid blim limit A workflow_id i D h s₀ (wait_for_signal inp) s := by
  have hcall : CapAwait inp bid blim limit h s₀
      (.wait_condition inp.approval_timeout_seconds : DurableCall Tok) s :=
    ⟨trivial, follows_of_nothing hd _⟩
  refine Co.Safe.handle_tryCatch (Co.Safe.handle_bind (execute_safe
    (q := WorkflowCall.wait_condition inp.approval_timeout_seconds)
    (Co.Safe.call (q := DurableCall.wait_condition inp.approval_timeout_seconds) hcall ?_ ?_)))
  · exact fun _ _ _ => hD _ _ false _ (due_append _ _)
  · intro e s' _
    by_cases he : e.kind = .TimeoutError
    · rw [if_pos he]
      exact hD _ _ true _ (due_append _ _)
    · rw [if_neg he]
      exact Co.Safe.throw (capEnd_of_nothing (due_append _ _))

theorem await_pending_approval_cap (hd : due h = .nothing)
    {D : Log Tok → Worker Tok ι → ApprovalSignalPayload → Worker Tok ι → Prop}
    (hD : ∀ h s₀ a s, due h = .nothing → D h s₀ a s) :
    FlowCap inp bid blim limit A workflow_id i D h s₀ (await_pending_approval inp) s := by
  refine Co.Safe.handle_bind (set_cap _ fun s₁ => ?_)
  refine Co.Safe.handle_bind (audit_cap hd _ ?_)
  intro h₁ _ _ _ hd₁
  refine Co.Safe.handle_bind (wait_for_signal_cap hd₁ ?_)
  intro h₂ _ timed_out _ hd₂
  cases timed_out with
  | true =>
      refine Co.Safe.handle_bind (set_cap _ fun s₂ => ?_)
      refine Co.Safe.handle_bind (audit_cap hd₂ _ ?_)
      exact fun h₃ _ _ _ hd₃ => hD h₃ _ _ _ hd₃
  | false =>
      refine Co.Safe.handle_bind (self_cap fun w s₂ => ?_)
      cases hsig : w.approval_signal with
      | none => exact capEnd_of_nothing hd₂
      | some signal =>
          refine Co.Safe.handle_bind (set_cap _ fun s₃ => ?_)
          refine Co.Safe.handle_bind (audit_cap hd₂ _ ?_)
          exact fun h₃ _ _ _ hd₃ => hD h₃ _ _ _ hd₃

theorem pre_check_cap {id : Uuid} (hbid : bid.val = some id) (hlim : blim.val = some limit)
    (hin : budget_fields inp = some (bid, blim)) (htask : inp.task_id ≠ "") (hd : due h = .nothing)
    {D : Log Tok → Worker Tok ι → Option ℚ → Worker Tok ι → Prop}
    (hD : ∀ h s₀ a s, due h = .llm → 0 < limit → D h s₀ a s) :
    FlowCap inp bid blim limit A workflow_id i D h s₀ (pre_check inp []) s := by
  unfold pre_check
  rw [hin]
  refine Co.Safe.handle_bind (execute_safe
    (q := WorkflowCall.BudgetPreCheck (pre_check_input inp bid blim))
    (budget_pre_check_cap hbid hlim htask hd ?_ fun _ _ _ _ => capEnd_of_nothing))
  exact fun h₁ s₁ r s₂ hd₁ hpos => hD h₁ s₁ (some r.snapshot.cost_usd) s₂ hd₁ hpos

theorem llm_failed_cap (hd : due h = .nothing) (e : Exc)
    {D : Log Tok → Worker Tok ι → LLMInvokeResult → Worker Tok ι → Prop} :
    FlowCap inp bid blim limit A workflow_id i D h s₀ (llm_failed inp e) s := by
  obtain ⟨status, audit, e', heq⟩ | heq := llm_failed_cases Tok inp e
  · rw [heq]
    refine Co.Safe.handle_bind (set_cap _ fun s₁ => ?_)
    refine Co.Safe.handle_bind (audit_cap hd _ ?_)
    exact fun _ _ _ _ hd₁ => capEnd_of_nothing hd₁
  · rw [heq]
    exact capEnd_of_nothing hd

theorem record_budget_cap (hd : due h = .nothing) (tokens_used : ℤ) (spent : Option ℚ)
    {D : Log Tok → Worker Tok ι → Option ℚ → Worker Tok ι → Prop}
    (hD : ∀ h s₀ a s, due h = .nothing → D h s₀ a s) :
    FlowCap inp bid blim limit A workflow_id i D h s₀ (record_budget inp [] tokens_used spent) s := by
  unfold record_budget
  split
  · refine Co.Safe.handle_bind (execute_cap (q := .BudgetRecordSpend _) rfl rfl trivial
      (follows_of_nothing hd _) ?_ fun _ _ _ _ => capEnd_of_nothing)
    exact fun h₁ s₁ r s₂ hd₁ => hD h₁ s₁ _ s₂ hd₁
  · exact hD _ _ _ _ hd

theorem after_gate_cap {id : Uuid} (hbid : bid.val = some id) (hlim : blim.val = some limit)
    (hin : budget_fields inp = some (bid, blim)) (htask : inp.task_id ≠ "") (hd : due h = .nothing)
    (scrub : PrePIIScrubResult) (policy : PolicyEvalResult) (token : JITTokenResult Tok) :
    FlowCap inp bid blim limit A workflow_id i (CapEnd limit) h s₀
      (after_gate inp scrub policy token) s := by
  refine Co.Safe.handle_bind (pre_check_cap hbid hlim hin htask hd ?_)
  intro h₁ _ spent _ hd₁ hpos
  have hllm : ∀ li : LLMInvokeInput Tok, Follows limit h₁ (some (.schedule (.LLMInvoke li))) := by
    intro li
    unfold Follows
    rw [hd₁]
    exact ⟨li, rfl⟩
  refine Co.Safe.handle_bind (Co.Safe.handle_tryCatch (execute_cap
    (q := .LLMInvoke (llm_input inp policy.sanitized_prompt token)) rfl rfl hpos (hllm _) ?_ ?_))
  · intro h₂ _ llm _ hd₂
    refine Co.Safe.handle_bind (record_budget_cap hd₂ _ _ ?_)
    intro h₃ _ spent' _ hd₃
    refine Co.Safe.handle_bind (execute_cap (q := .PostSanitize _) rfl rfl trivial
      (follows_of_nothing hd₃ _) ?_ fun _ _ _ _ => capEnd_of_nothing)
    intro h₄ _ post _ hd₄
    refine Co.Safe.handle_bind (set_cap _ fun s₅ => ?_)
    refine Co.Safe.handle_bind (self_cap fun w s₆ => ?_)
    exact capEnd_of_nothing hd₄
  · exact fun h₂ _ e _ hd₂ => llm_failed_cap hd₂ e

/-- One run, whatever it finds and whatever it is answered. -/
theorem run_cap_safe {id : Uuid} (hbid : bid.val = some id) (hlim : blim.val = some limit)
    (hin : budget_fields inp = some (bid, blim)) (s : Worker Tok ι) :
    Co.Safe Co.anyEnv (CapAwait inp bid blim limit) (CapEnd limit) (CapEnd limit) [] s
      (run A workflow_id i inp) s := by
  refine Co.Safe.handle_bind (before_gate_cap rfl ?_)
  rintro h₁ s₁ ⟨scrub, policy, token⟩ s₂ hd₁ htask
  refine Co.Safe.handle_bind (Co.Safe.handle_lift ?_ fun _ _ _ => capEnd_of_nothing hd₁)
  intro gated _ _
  cases gated with
  | false => exact after_gate_cap hbid hlim hin htask hd₁ scrub policy token
  | true =>
      refine Co.Safe.handle_bind (await_pending_approval_cap hd₁ ?_)
      intro h₂ _ decision _ hd₂
      by_cases happ : decision.approved
      · rw [if_pos happ]
        exact after_gate_cap hbid hlim hin htask hd₂ scrub policy token
      · rw [if_neg happ]
        refine Co.Safe.handle_bind (self_cap fun w s₃ => ?_)
        exact capEnd_of_nothing hd₂

end

/-! ## Any number of runs -/

section Pool

abbrev RunThread (Tok ι : Type) : Type :=
  Co.Thread (Worker Tok ι) Exc (DurableCall Tok) DurableCall.Answer WorkflowOutput

abbrev RunPool (Tok ι : Type) : Type :=
  Co.Pool (Worker Tok ι) Exc (DurableCall Tok) DurableCall.Answer WorkflowOutput ι

/-- What a run awaits. -/
def awaited : RunThread Tok ι → Option (DurableCall Tok)
  | .stopped _ pt => pt.awaited
  | .fresh _ => none

/-- The spend an answered call has recorded: the ledger a `BudgetRecordSpend` returned. -/
def recordedBy : (Σ q : DurableCall Tok, Except Exc q.Answer) → ℚ
  | ⟨.report (.BudgetRecordSpend _) _ (.ok r), .ok _⟩ =>
      ((r : BudgetRecordResult).history.map BudgetHistoryEntry.amount_usd).sum
  | _ => 0

/-- What a run has recorded, once it is completed. -/
def spentBy : RunThread Tok ι → ℚ
  | .stopped h (.done _) => (h.map recordedBy).sum
  | _ => 0

/-- What the completed runs have recorded together. -/
def recorded [Fintype ι] (P : RunPool Tok ι) : ℚ := ∑ i, spentBy (P.threads i)

variable [DecidableEq ι]

/-- The runs, none of them started. -/
def poolStart (A : AegisActivities Tok) (workflow_id : ι → Option String) (inp : ι → WorkflowInput)
    (s : Worker Tok ι) : RunPool Tok ι :=
  ⟨s, fun i => .fresh (run A (workflow_id i) i (inp i))⟩

/-- A run goes on to its next stop; or something else happens on the worker: a signal, another
workflow, a request to the orchestrator. -/
inductive Step : RunPool Tok ι → RunPool Tok ι → Prop
  | run {P P' : RunPool Tok ι} {ev : Co.Pool.Event Exc (DurableCall Tok) DurableCall.Answer ι} :
      Co.Pool.Step P ev P' → Step P P'
  | outside {P : RunPool Tok ι} (s : Worker Tok ι) : Step P { P with shared := s }

abbrev Steps : RunPool Tok ι → RunPool Tok ι → Prop := Relation.ReflTransGen Step

/-- Run `i` does not schedule `LLMInvoke` any more. -/
def NoLLMInvoke (P : RunPool Tok ι) (i : ι) : Prop :=
  ∀ P', Steps P P' → ∀ li, awaited (P'.threads i) ≠ some (.schedule (.LLMInvoke li))

/-- Whenever run `i` executes `BudgetPreCheck` from now on, that raises `BudgetExceededError`. -/
def PreCheckRaises (P : RunPool Tok ι) (i : ι) : Prop :=
  ∀ P', Steps P P' → ∀ pc n r, awaited (P'.threads i) = some (.report (.BudgetPreCheck pc) n r) →
    ∃ e, r = .error e ∧ (failure e).type = "BudgetExceededError"

section
variable {inp : ι → WorkflowInput} {bid : Lit Uuid} {blim : Lit ℚ} {limit : ℚ} {id : Uuid}
  {A : AegisActivities Tok} {workflow_id : ι → Option String} {P P' : RunPool Tok ι} {i : ι}

/-- Every run keeps to its assertions, and is where they allow it to be. -/
structure CapGood (inp : ι → WorkflowInput) (bid : Lit Uuid) (blim : Lit ℚ) (limit : ℚ)
    (P : RunPool Tok ι) : Prop where
  good : P.Good (fun i => CapAwait (inp i) bid blim limit) (fun _ => CapEnd limit)
    (fun _ => CapEnd limit)
  asked : ∀ i q, awaited (P.threads i) = some q → AskedOk (inp i) bid blim limit q

/-- What a step of run `i` leaves: the run at a stop that its assertion allows, the others alone. -/
theorem CapGood.ran {h : Log Tok} (hP : CapGood inp bid blim limit P)
    (hr : Co.Pool.Ran (fun i => CapAwait (inp i) bid blim limit) (fun _ => CapEnd limit)
      (fun _ => CapEnd limit) i h P P') :
    CapGood inp bid blim limit P' ∧ Follows limit h (awaited (P'.threads i)) := by
  have hgood := hr.good hP.good
  obtain ⟨pt, hthreads, hstop⟩ := hr
  have hi : P'.threads i = .stopped h pt := by
    rw [hthreads, Function.update_self]
  constructor
  · refine ⟨hgood, ?_⟩
    intro j q hq
    by_cases hj : j = i
    · subst hj
      rw [hi] at hq
      obtain ⟨k, rfl⟩ := Co.Point.awaited_eq_some.mp hq
      exact hstop.1.1
    · rw [hthreads, Function.update_of_ne hj] at hq
      exact hP.asked j q hq
  · rw [hi]
    cases pt with
    | done out => exact hstop
    | failed e => exact hstop
    | waiting q k => exact hstop.1.2

theorem CapGood.step (hP : CapGood inp bid blim limit P) (hs : Step P P') :
    CapGood inp bid blim limit P' := by
  cases hs with
  | run hstep =>
      rcases hP.good.step_cases hstep with ⟨i, p, _, _, hr⟩ | ⟨i, h, q, k, r, _, _, hr⟩
      · exact (hP.ran hr).1
      · exact (hP.ran hr).1
  | outside s => exact ⟨hP.good, hP.asked⟩

theorem CapGood.steps (hP : CapGood inp bid blim limit P) (hs : Steps P P') :
    CapGood inp bid blim limit P' := by
  induction hs with
  | refl => exact hP
  | tail _ hstep ih => exact ih.step hstep

theorem capGood_start (hbid : bid.val = some id) (hlim : blim.val = some limit)
    (hin : ∀ i, budget_fields (inp i) = some (bid, blim)) (s : Worker Tok ι) :
    CapGood inp bid blim limit (poolStart A workflow_id inp s) where
  good := fun i s' => run_cap_safe hbid hlim (hin i) s'
  asked := by
    intro i q hq
    cases hq

/-- Answering what run `i` awaits. -/
theorem CapGood.answer (hP : CapGood inp bid blim limit P) {h : Log Tok} {q : DurableCall Tok}
    {k : Except Exc q.Answer → Durable Tok ι WorkflowOutput}
    (hi : P.threads i = .stopped h (.waiting q k)) (r : Except Exc q.Answer) :
    ∃ P', Step P P' ∧ (∃ pt, P'.threads i = .stopped (h ++ [⟨q, r⟩]) pt) ∧
      Follows limit (h ++ [⟨q, r⟩]) (awaited (P'.threads i)) := by
  have hstep : Co.Pool.Step P (.answer i q r) (P.advance i (h ++ [⟨q, r⟩]) (k r)) := .answer r hi
  refine ⟨_, .run hstep, ⟨_, Function.update_self _ _ _⟩, ?_⟩
  rcases hP.good.step_cases hstep with ⟨j, p, hev, _, _⟩ | ⟨j, h', q', k', r', hev, hj, hr⟩
  · cases hev
  · cases hev
    rw [hi] at hj
    cases hj
    exact (hP.ran hr).2

/-- Where the limit is not positive, every run is refused. -/
theorem CapGood.refused (hP : CapGood inp bid blim limit P) (hbid : bid.val = some id)
    (hlim : blim.val = some limit) (hneg : limit ≤ 0) (i : ι) :
    NoLLMInvoke P i ∧ PreCheckRaises P i := by
  constructor
  · intro P' hs li hw
    have hpos : 0 < limit := (hP.steps hs).asked i _ hw
    exact absurd hpos (not_lt.mpr hneg)
  · intro P' hs pc n r hw
    obtain ⟨rfl, htask, hr⟩ := (hP.steps hs).asked i _ hw
    have htask' : (inp i).task_id ≠ "" := htask
    obtain ⟨msg, hmsg⟩ := (pre_checked_empty hbid hlim htask').2 hneg
    rw [hmsg] at hr
    exact ⟨_, hr, rfl⟩

/-- Where it is positive, a run about to execute `BudgetPreCheck` passes and schedules `LLMInvoke`. -/
theorem CapGood.passes (hP : CapGood inp bid blim limit P) (hpos : 0 < limit)
    {pc : BudgetPreCheckInput} (hw : awaited (P.threads i) = some (.schedule (.BudgetPreCheck pc))) :
    ¬NoLLMInvoke P i ∧ ¬PreCheckRaises P i := by
  have hstopped : ∀ {P : RunPool Tok ι} {q : DurableCall Tok}, awaited (P.threads i) = some q →
      ∃ h k, P.threads i = .stopped h (.waiting q k) := by
    intro P q hq
    cases ht : P.threads i with
    | fresh p =>
        rw [ht] at hq
        cases hq
    | stopped h pt =>
        rw [ht] at hq
        obtain ⟨k, rfl⟩ := Co.Point.awaited_eq_some.mp hq
        exact ⟨h, k, rfl⟩
  obtain ⟨h, k, hi⟩ := hstopped hw
  obtain ⟨P₁, hs₁, -, hf₁⟩ := hP.answer hi (.ok "1")
  have hverdict : ∃ r, awaited (P₁.threads i) = some (.report (.BudgetPreCheck pc) 1 (.ok r)) := by
    unfold Follows at hf₁
    rw [due_append] at hf₁
    exact hf₁ hpos
  obtain ⟨r, hw₁⟩ := hverdict
  obtain ⟨h₁, k₁, hi₁⟩ := hstopped hw₁
  obtain ⟨P₂, hs₂, -, hf₂⟩ := (hP.step hs₁).answer hi₁ (.ok ())
  have hllm : ∃ li, awaited (P₂.threads i) = some (.schedule (.LLMInvoke li)) := by
    unfold Follows at hf₂
    rw [due_append] at hf₂
    exact hf₂
  constructor
  · intro hno
    obtain ⟨li, hw₂⟩ := hllm
    exact hno P₂ ((Relation.ReflTransGen.single hs₁).tail hs₂) li hw₂
  · intro hraises
    obtain ⟨e, he, -⟩ := hraises P₁ (.single hs₁) pc 1 _ hw₁
    cases he

end

/-- **The cap across workflows.**  Any runs of one budget session and one limit, interleaved in any
way; in every state they reach and for every run about to execute its `BudgetPreCheck`: that the
spend recorded by the completed runs keeps the run from scheduling `LLMInvoke`, and makes its check
raise, holds exactly when the limit is not positive or that spend has not reached it. -/
theorem durable_cap_iff [Fintype ι] (A : AegisActivities Tok) (workflow_id : ι → Option String)
    (inp : ι → WorkflowInput) {bid : Lit Uuid} {blim : Lit ℚ} {id : Uuid} {limit : ℚ}
    (hbid : bid.val = some id) (hlim : blim.val = some limit)
    (hin : ∀ i, budget_fields (inp i) = some (bid, blim)) (s : Worker Tok ι) {P : RunPool Tok ι}
    (hr : Steps (poolStart A workflow_id inp s) P) {i : ι} {pc : BudgetPreCheckInput}
    (hw : awaited (P.threads i) = some (.schedule (.BudgetPreCheck pc))) :
    ((limit ≤ recorded P → NoLLMInvoke P i) ↔ limit ≤ 0 ∨ recorded P < limit) ∧
    ((limit ≤ recorded P → PreCheckRaises P i) ↔ limit ≤ 0 ∨ recorded P < limit) := by
  have hP : CapGood inp bid blim limit P := (capGood_start hbid hlim hin s).steps hr
  rcases le_or_gt limit 0 with hneg | hpos
  · obtain ⟨hno, hraises⟩ := hP.refused hbid hlim hneg i
    exact ⟨⟨fun _ => .inl hneg, fun _ _ => hno⟩, ⟨fun _ => .inl hneg, fun _ _ => hraises⟩⟩
  · obtain ⟨hno, hraises⟩ := hP.passes hpos hw
    have hcond : ∀ {Q : Prop}, ¬Q → ((limit ≤ recorded P → Q) ↔ limit ≤ 0 ∨ recorded P < limit) := by
      intro Q hQ
      constructor
      · intro himp
        exact .inr (not_le.mp fun hle => hQ (himp hle))
      · rintro (hneg | hlt) hle
        · exact absurd hpos (not_lt.mpr hneg)
        · exact absurd hlt (not_lt.mpr hle)
    exact ⟨hcond hno, hcond hraises⟩

/-! ### Two runs of one session -/

theorem steps_of_run {P P' : RunPool Tok ι}
    {evs : List (Co.Pool.Event Exc (DurableCall Tok) DurableCall.Answer ι)}
    (h : Co.Pool.Run P evs P') : Steps P P' := by
  induction h with
  | refl => exact .refl
  | snoc _ hs ih => exact ih.tail (.run hs)

/-- The check a run is about to execute. -/
def scheduledPreCheck (t : RunThread Tok ι) : Option BudgetPreCheckInput :=
  match awaited t with
  | some (.schedule (.BudgetPreCheck pc)) => some pc
  | _ => none

omit [DecidableEq ι] in
theorem awaited_of_scheduledPreCheck {t : RunThread Tok ι}
    (h : (scheduledPreCheck t).isSome = true) :
    ∃ pc, awaited t = some (.schedule (.BudgetPreCheck pc)) := by
  unfold scheduledPreCheck at h
  split at h
  · exact ⟨_, by assumption⟩
  · cases h

end Pool

def plainActivities : AegisActivities SymToken where
  env := symbolicEnv {}
  guardrails := Orchestrator.plainGuardrails
  adapter := { provider_name := "openai" }

/-- A task of the session "budget-0", which has one dollar; a token costs a dollar. -/
def dollarInput (task_id : String) : WorkflowInput where
  task_id := task_id
  prompt := "hello"
  agent_type := "general"
  requester_id := "client"
  budget_session_id := some ⟨"budget-0", some ⟨"budget-0"⟩⟩
  budget_limit_usd := some ⟨"1", some 1⟩
  cost_per_token_usd := ⟨"1", some 1⟩

/-- Every activity is started and reported, the policy allows, and the adapter uses one token. -/
def dollarAnswers : (q : DurableCall SymToken) → Except Exc q.Answer
  | .schedule _ => .ok ("1" : String)
  | .io (.evaluate _ _) => .ok ({ allowed := true } : PolicyResult)
  | .io (.complete _) => .ok (⟨"hi", 1, "gpt-4o-mini", "openai", "stop"⟩ : LLMResponse)
  | .report _ _ _ => .ok ()
  | .backoff _ _ => .ok ()
  | .wait_condition _ => .ok ()

def dollarTasks : Fin 2 → WorkflowInput
  | 0 => dollarInput "task-0"
  | 1 => dollarInput "task-1"

def dollarWorker : Worker SymToken (Fin 2) where
  world := World.fresh {} (.still 0)
    (fun n => if n = 0 then "jti-0" else "jti-1")
  flows := fun _ => {}

def dollarStart : RunPool SymToken (Fin 2) :=
  poolStart plainActivities (fun i => some (dollarTasks i).task_id) dollarTasks dollarWorker

/-- The first task is completed, and the second is about to execute `BudgetPreCheck`. -/
def dollarPool : RunPool SymToken (Fin 2) :=
  (dollarStart.turns dollarAnswers (List.replicate 17 ⟨0, Nat.zero_lt_two⟩ ++
    List.replicate 8 ⟨1, Nat.one_lt_two⟩)).2

theorem dollarPool_reached : Steps dollarStart dollarPool :=
  steps_of_run (Co.Pool.Run.turns _ (.refl dollarStart))

theorem dollarPool_recorded : recorded dollarPool = 1 := by decide +kernel

theorem dollarPool_awaits :
    ∃ pc, awaited (dollarPool.threads 1) = some (.schedule (.BudgetPreCheck pc)) :=
  awaited_of_scheduledPreCheck (by decide +kernel)

theorem dollarTasks_budget (i : Fin 2) : budget_fields (dollarTasks i) =
    some (⟨"budget-0", some ⟨"budget-0"⟩⟩, ⟨"1", some 1⟩) := by
  fin_cases i <;> rfl

/-- The dollar is spent, and the second task goes on to `LLMInvoke`. -/
theorem second_task_invokes :
    Steps dollarStart dollarPool ∧ 1 ≤ recorded dollarPool ∧ ¬NoLLMInvoke dollarPool 1 ∧
      ¬PreCheckRaises dollarPool 1 := by
  have hgood : CapGood dollarTasks ⟨"budget-0", some ⟨"budget-0"⟩⟩ ⟨"1", some 1⟩ 1 dollarPool :=
    (capGood_start rfl rfl dollarTasks_budget dollarWorker).steps dollarPool_reached
  obtain ⟨pc, hw⟩ := dollarPool_awaits
  refine ⟨dollarPool_reached, ?_, hgood.passes one_pos hw⟩
  rw [dollarPool_recorded]

theorem dollarPool_cap :
    ((1 ≤ recorded dollarPool → NoLLMInvoke dollarPool 1) ↔
      (1 : ℚ) ≤ 0 ∨ recorded dollarPool < 1) := by
  obtain ⟨pc, hw⟩ := dollarPool_awaits
  exact (durable_cap_iff plainActivities _ dollarTasks rfl rfl dollarTasks_budget dollarWorker
    dollarPool_reached hw).1

end AegisOs.Durable
