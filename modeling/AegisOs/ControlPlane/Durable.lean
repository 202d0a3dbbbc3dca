/-
# `AegisOs.ControlPlane.Durable` — workflow, activities and worker together

`AgentTaskWorkflow.run` names its activities and waits for their results; here
they are carried out, by `AegisActivities` on one worker.  A `Worker` is the
world the activities share and the instances of the workflows.

    schedule   the workflow has asked for an activity
    io         an execution awaits the policy engine or the adapter
    report     an execution has ended, and its outcome is on its way
    backoff    the next attempt is due later

are the points at which control leaves the code, so that any number of runs
can be interleaved there, and where the environment may fail an activity (its
`schedule_to_close_timeout`).  Between them the code runs alone.

**Retries.**  An exception that leaves an activity is a failure with a type.
It ends the activity when it is marked non-retryable, when the retry policy
lists its type, or when the attempts are used up; otherwise the activity is
executed again, with the same id and the next attempt number.
-/
import AegisOs.ControlPlane.Workflow

namespace AegisOs

open Lib

/-! ## Retry policies -/

/-- The failure Temporal makes of an exception that leaves an activity. -/
def failure (e : Exc) : AppFailure :=
  match e.kind with
  | .ApplicationError type nonRetryable => ⟨type, e.msg, nonRetryable⟩
  | kind => ⟨kind.name, e.str, false⟩

structure RetryPolicy where
  maximum_attempts : ℕ
  non_retryable_error_types : List String := []

/-- Whether a failure may be followed by another attempt, if any is left. -/
def RetryPolicy.retryable (policy : RetryPolicy) (f : AppFailure) : Bool :=
  !f.nonRetryable && decide (f.type ∉ policy.non_retryable_error_types)

/-- The `retry_policy` each activity is scheduled with. -/
def retry_policy {Tok : Type} : WorkflowCall Tok → RetryPolicy
  | .PrePIIScrub _ => { maximum_attempts := 3 }
  | .PolicyEval _ =>
      { maximum_attempts := 1, non_retryable_error_types := ["PolicyDeniedError"] }
  | .JITTokenIssue _ => { maximum_attempts := 3 }
  | .BudgetPreCheck _ =>
      { maximum_attempts := 1, non_retryable_error_types := ["BudgetExceededError"] }
  | .LLMInvoke _ =>
      { maximum_attempts := AgentTaskWorkflow.llm_maximum_attempts
        non_retryable_error_types :=
          ["PolicyDeniedError", "TokenScopeError", "TokenExpiredError", "HITLEscalationError"] }
  | .BudgetRecordSpend _ =>
      { maximum_attempts := 3, non_retryable_error_types := ["BudgetExceededError"] }
  | .PostSanitize _ => { maximum_attempts := 3 }
  | .WorkflowAudit _ => { maximum_attempts := 3 }
  | .wait_condition _ => { maximum_attempts := 1 }

/-- `ActivityError`, raised in the workflow. -/
def activity_error (f : AppFailure) (retry_state : String) : Exc :=
  ⟨.ActivityError (some f) retry_state, "Activity task failed"⟩

/-- `str(RetryState.NON_RETRYABLE_FAILURE)`. -/
def non_retryable_failure : String := "2"

/-- `str(RetryState.MAXIMUM_ATTEMPTS_REACHED)`. -/
def maximum_attempts_reached : String := "4"

/-! ## The worker -/

structure Worker (Tok ι : Type) where
  world : World Tok
  flows : ι → AgentTaskWorkflow

inductive DurableCall (Tok : Type) where
  /-- Answered with the id the activity gets. -/
  | schedule (q : WorkflowCall Tok)
  | io (q : OrchCall Tok)
  | report (q : WorkflowCall Tok) (attempt : ℕ) (outcome : Except Exc q.Answer)
  | backoff (q : WorkflowCall Tok) (attempt : ℕ)
  | wait_condition (timeout_seconds : ℤ)

def DurableCall.Answer {Tok : Type} : DurableCall Tok → Type
  | .schedule _ => String
  | .io q => q.Answer
  | .report _ _ _ => Unit
  | .backoff _ _ => Unit
  | .wait_condition _ => Unit

abbrev Durable (Tok ι : Type) : Type → Type :=
  Co (Worker Tok ι) Exc (DurableCall Tok) DurableCall.Answer

namespace Durable

variable {Tok ι : Type}

/-- Code of an activity, on the worker. -/
def on_world {α : Type} (p : Orchestrator.Run Tok α) : Durable Tok ι α :=
  Co.handle Worker.world (fun w s => { s with world := w }) (fun q => Co.call (DurableCall.io q)) p

/-- The code of the activity a call names. -/
def perform (A : AegisActivities Tok) (info : ActivityInfo) :
    (q : WorkflowCall Tok) → Orchestrator.Run Tok q.Answer
  | .PrePIIScrub inp => Co.lift (A.pre_pii_scrub inp)
  | .PolicyEval inp => A.policy_eval inp
  | .JITTokenIssue inp => Co.lift (A.jit_token_issue inp)
  | .BudgetPreCheck inp => Co.lift (AegisActivities.budget_pre_check inp)
  | .LLMInvoke inp => A.llm_invoke info inp
  | .BudgetRecordSpend inp => Co.lift (AegisActivities.budget_record_spend info inp)
  | .PostSanitize inp => Co.lift (A.post_sanitize inp)
  | .WorkflowAudit inp => Co.lift (AegisActivities.record_event inp)
  -- not an activity; `carry_out` never asks for it
  | .wait_condition _ => pure ()

/-- One execution: its outcome, once it has been reported. -/
def execution (A : AegisActivities Tok) (info : ActivityInfo) (q : WorkflowCall Tok) :
    Durable Tok ι (Except Exc q.Answer) := do
  let outcome ← (on_world (perform A info q)).attempt
  Co.call (DurableCall.report q info.attempt outcome)
  return outcome

/-- What becomes of an outcome; `again` is what a failure that may be retried leads to. -/
def settle (q : WorkflowCall Tok) (again : AppFailure → Durable Tok ι q.Answer) :
    Except Exc q.Answer → Durable Tok ι q.Answer
  | .ok a => pure a
  | .error e =>
      if (retry_policy q).retryable (failure e) then again (failure e)
      else throw (activity_error (failure e) non_retryable_failure)

/-- The attempts from number `attempt` on, with so many more to follow. -/
def attempts (A : AegisActivities Tok) (workflow_id : Option String) (activity_id : String)
    (q : WorkflowCall Tok) : ℕ → ℕ → Durable Tok ι q.Answer
  | 0, attempt => do
      settle q (fun f => throw (activity_error f maximum_attempts_reached))
        (← execution A ⟨workflow_id, activity_id, attempt⟩ q)
  | more + 1, attempt => do
      settle q (fun _ => do
          Co.call (DurableCall.backoff q attempt)
          attempts A workflow_id activity_id q more (attempt + 1))
        (← execution A ⟨workflow_id, activity_id, attempt⟩ q)

/-- `workflow.execute_activity`. -/
def execute_activity (A : AegisActivities Tok) (workflow_id : Option String)
    (q : WorkflowCall Tok) : Durable Tok ι q.Answer := do
  let activity_id : String ← Co.call (DurableCall.schedule q)
  attempts A workflow_id activity_id q ((retry_policy q).maximum_attempts - 1) 1

/-- What the workflow waits for, done. -/
def carry_out (A : AegisActivities Tok) (workflow_id : Option String) :
    (q : WorkflowCall Tok) → Durable Tok ι q.Answer
  | .wait_condition timeout_seconds => Co.call (DurableCall.wait_condition timeout_seconds)
  | q => execute_activity A workflow_id q

/-- Code of the workflow `i`, on the worker. -/
def on_flow [DecidableEq ι] (A : AegisActivities Tok) (workflow_id : Option String) (i : ι)
    {α : Type} (p : AgentTaskWorkflow.Flow Tok α) : Durable Tok ι α :=
  Co.handle (fun s => s.flows i) (fun f s => { s with flows := Function.update s.flows i f })
    (carry_out A workflow_id) p

/-- The workflow `i`, with its activities. -/
def run [DecidableEq ι] (A : AegisActivities Tok) (workflow_id : Option String) (i : ι)
    (inp : WorkflowInput) : Durable Tok ι WorkflowOutput :=
  on_flow A workflow_id i (AgentTaskWorkflow.run inp)

/-! ## The rule for an activity -/

abbrev Log (Tok : Type) : Type := Co.Hist Exc (DurableCall Tok) DurableCall.Answer

section
variable {env : (q : DurableCall Tok) → Worker Tok ι → Except Exc q.Answer → Worker Tok ι → Prop}
  {C : Log Tok → Worker Tok ι → DurableCall Tok → Worker Tok ι → Prop}
  {X : Log Tok → Worker Tok ι → Exc → Worker Tok ι → Prop} {A : AegisActivities Tok}
  {workflow_id : Option String} {q : WorkflowCall Tok}
  {D : Log Tok → Worker Tok ι → q.Answer → Worker Tok ι → Prop}
  {J F : ℕ → Log Tok → Worker Tok ι → Prop}
  {K : q.Answer → Log Tok → Worker Tok ι → Worker Tok ι → Prop}

/-- Whether a failed attempt is followed by another one. -/
def will_retry (q : WorkflowCall Tok) (attempt : ℕ) (e : Exc) : Bool :=
  (retry_policy q).retryable (failure e) && decide (attempt < (retry_policy q).maximum_attempts)

/-- What the attempts of an activity live on: `J n` before attempt `n`, `O n r` when it has ended in
`r`, and `W n` when it is to be followed by another, across what the environment does at the reports
and waits in between. -/
structure Retries (env : (q : DurableCall Tok) → Worker Tok ι → Except Exc q.Answer → Worker Tok ι → Prop)
    (C : Log Tok → Worker Tok ι → DurableCall Tok → Worker Tok ι → Prop)
    (D : Log Tok → Worker Tok ι → q.Answer → Worker Tok ι → Prop)
    (X : Log Tok → Worker Tok ι → Exc → Worker Tok ι → Prop)
    (J W : ℕ → Log Tok → Worker Tok ι → Prop)
    (O : ℕ → Except Exc q.Answer → Log Tok → Worker Tok ι → Worker Tok ι → Prop) : Prop where
  report : ∀ {h s₀ s n r}, O n r h s₀ s → C h s₀ (.report q n r) s
  lost : ∀ {h s₀ s n r e s'}, O n r h s₀ s → env (.report q n r) s (.error e) s' →
    X (h ++ [⟨.report q n r, .error e⟩]) s' e s'
  returned : ∀ {h s₀ s n a s'}, O n (.ok a) h s₀ s → env (.report q n (.ok a)) s (.ok ()) s' →
    D (h ++ [⟨.report q n (.ok a), .ok ()⟩]) s' a s'
  given_up : ∀ {h s₀ s n e s'} retry_state, O n (.error e) h s₀ s →
    env (.report q n (.error e)) s (.ok ()) s' → will_retry q n e = false →
    X (h ++ [⟨.report q n (.error e), .ok ()⟩]) s' (activity_error (failure e) retry_state) s'
  again : ∀ {h s₀ s n e s'}, O n (.error e) h s₀ s → env (.report q n (.error e)) s (.ok ()) s' →
    will_retry q n e = true → W n (h ++ [⟨.report q n (.error e), .ok ()⟩]) s'
  backoff : ∀ {h s n}, W n h s → C h s (.backoff q n) s
  backoff_next : ∀ {h s n s'}, W n h s → env (.backoff q n) s (.ok ()) s' →
    J (n + 1) (h ++ [⟨.backoff q n, .ok ()⟩]) s'
  backoff_lost : ∀ {h s n e s'}, W n h s → env (.backoff q n) s (.error e) s' →
    X (h ++ [⟨.backoff q n, .error e⟩]) s' e s'

theorem settle_error_safe {again : AppFailure → Durable Tok ι q.Answer} {e : Exc} {h : Log Tok}
    {s₀ s : Worker Tok ι}
    (hagain : (retry_policy q).retryable (failure e) = true →
      Co.Safe env C D X h s₀ (again (failure e)) s)
    (hraise : (retry_policy q).retryable (failure e) = false →
      X h s₀ (activity_error (failure e) non_retryable_failure) s) :
    Co.Safe env C D X h s₀ (settle q again (.error e)) s := by
  show Co.Safe env C D X h s₀ (if (retry_policy q).retryable (failure e) then again (failure e)
    else throw (activity_error (failure e) non_retryable_failure)) s
  cases hr : (retry_policy q).retryable (failure e) with
  | true => exact hagain hr
  | false => exact Co.Safe.throw (hraise hr)

section
variable {W : ℕ → Log Tok → Worker Tok ι → Prop}
  {O : ℕ → Except Exc q.Answer → Log Tok → Worker Tok ι → Worker Tok ι → Prop}

theorem execution_safe (R : Retries env C D X J W O) {n : ℕ} {activity_id : String}
    {again : AppFailure → Durable Tok ι q.Answer}
    (hagain : ∀ {h s₀ s s'} e, O n (.error e) h s₀ s → env (.report q n (.error e)) s (.ok ()) s' →
      (retry_policy q).retryable (failure e) = true →
      Co.Safe env C D X (h ++ [⟨.report q n (.error e), .ok ()⟩]) s' (again (failure e)) s')
    {h : Log Tok} {s₀ s : Worker Tok ι}
    (hbody : Co.Safe env C (fun h s₀ a s => O n (.ok a) h s₀ s) (fun h s₀ e s => O n (.error e) h s₀ s)
      h s₀ (on_world (perform A ⟨workflow_id, activity_id, n⟩ q)) s) :
    Co.Safe env C D X h s₀
      (execution A ⟨workflow_id, activity_id, n⟩ q >>= fun outcome => settle q again outcome) s := by
  refine Co.Safe.bind (Co.Safe.bind (Co.Safe.attempt (hbody.mono (fun _ _ _ _ hc => hc) ?_ ?_)))
  · intro h s₀ a s ho
    refine Co.Safe.bind (Co.Safe.call (q := DurableCall.report q n (.ok a)) (R.report ho) ?_ ?_)
    · exact fun _ s' hs' => R.returned ho hs'
    · exact fun e s' hs' => R.lost ho hs'
  · intro h s₀ e s ho
    refine Co.Safe.bind (Co.Safe.call (q := DurableCall.report q n (.error e)) (R.report ho) ?_ ?_)
    · intro _ s' hs'
      refine settle_error_safe (hagain e ho hs') ?_
      intro hr
      exact R.given_up _ ho hs' (by simp [will_retry, hr])
    · exact fun e' s' hs' => R.lost ho hs'

/-- The attempts, by induction on how many are left. -/
theorem attempts_safe (R : Retries env C D X J W O) {activity_id : String}
    (hbody : ∀ n h s, J n h s → Co.Safe env C (fun h s₀ a s => O n (.ok a) h s₀ s)
      (fun h s₀ e s => O n (.error e) h s₀ s) h s
      (on_world (perform A ⟨workflow_id, activity_id, n⟩ q)) s)
    (more : ℕ) : ∀ n h s, n + more = (retry_policy q).maximum_attempts → J n h s →
      Co.Safe env C D X h s (attempts A workflow_id activity_id q more n) s := by
  induction more with
  | zero =>
      intro n h s hn hj
      refine execution_safe R ?_ (hbody n h s hj)
      intro h s₀ s s' e ho hs' _
      have hlast : ¬n < (retry_policy q).maximum_attempts := by omega
      exact Co.Safe.throw (R.given_up _ ho hs' (by simp [will_retry, hlast]))
  | succ more ih =>
      intro n h s hn hj
      refine execution_safe R ?_ (hbody n h s hj)
      intro h s₀ s s' e ho hs' hr
      have hlt : n < (retry_policy q).maximum_attempts := by omega
      have hw := R.again ho hs' (by simp [will_retry, hr, hlt])
      refine Co.Safe.bind (Co.Safe.call (q := DurableCall.backoff q n) (R.backoff hw) ?_ ?_)
      · exact fun _ s'' hs'' => ih _ _ _ (by omega) (R.backoff_next hw hs'')
      · exact fun e s'' hs'' => R.backoff_lost hw hs''

theorem execute_activity_retries (R : Retries env C D X J W O)
    (hbody : ∀ activity_id n h s, J n h s → Co.Safe env C (fun h s₀ a s => O n (.ok a) h s₀ s)
      (fun h s₀ e s => O n (.error e) h s₀ s) h s
      (on_world (perform A ⟨workflow_id, activity_id, n⟩ q)) s)
    {h : Log Tok} {s₀ s : Worker Tok ι} (hc : C h s₀ (.schedule q) s)
    (hok : ∀ activity_id s', env (.schedule q) s (.ok activity_id) s' →
      J 1 (h ++ [⟨.schedule q, .ok activity_id⟩]) s')
    (herr : ∀ e s', env (.schedule q) s (.error e) s' →
      X (h ++ [⟨.schedule q, .error e⟩]) s' e s') :
    Co.Safe env C D X h s₀ (execute_activity A workflow_id q) s := by
  have hmax : 1 + ((retry_policy q).maximum_attempts - 1) = (retry_policy q).maximum_attempts := by
    cases q <;> rfl
  refine Co.Safe.bind (Co.Safe.call (q := DurableCall.schedule q) hc ?_ herr)
  intro activity_id s' hs'
  exact attempts_safe R (hbody activity_id) _ 1 _ s' hmax (hok activity_id s' hs')

end

/-- Attempts whose failures are all alike: `F n` once attempt `n` has failed, whatever it raised and
whether another follows, and `K a` when one has returned `a`. -/
structure Loop (env : (q : DurableCall Tok) → Worker Tok ι → Except Exc q.Answer → Worker Tok ι → Prop)
    (C : Log Tok → Worker Tok ι → DurableCall Tok → Worker Tok ι → Prop)
    (D : Log Tok → Worker Tok ι → q.Answer → Worker Tok ι → Prop)
    (X : Log Tok → Worker Tok ι → Exc → Worker Tok ι → Prop)
    (J F : ℕ → Log Tok → Worker Tok ι → Prop)
    (K : q.Answer → Log Tok → Worker Tok ι → Worker Tok ι → Prop) : Prop where
  failed : ∀ {h s₀ s n} e, F n h s → C h s₀ (.report q n (.error e)) s
  failed_next : ∀ {h s n e r s'}, F n h s → env (.report q n (.error e)) s r s' →
    F n (h ++ [⟨.report q n (.error e), r⟩]) s'
  returned : ∀ {h s₀ s n a}, K a h s₀ s → C h s₀ (.report q n (.ok a)) s
  returned_next : ∀ {h s₀ s n a s'}, K a h s₀ s → env (.report q n (.ok a)) s (.ok ()) s' →
    D (h ++ [⟨.report q n (.ok a), .ok ()⟩]) s' a s'
  lost : ∀ {h s₀ s n a e s'}, K a h s₀ s → env (.report q n (.ok a)) s (.error e) s' →
    X (h ++ [⟨.report q n (.ok a), .error e⟩]) s' e s'
  backoff : ∀ {h s₀ s n}, F n h s → C h s₀ (.backoff q n) s
  backoff_next : ∀ {h s n s'}, F n h s → env (.backoff q n) s (.ok ()) s' →
    J (n + 1) (h ++ [⟨.backoff q n, .ok ()⟩]) s'
  backoff_lost : ∀ {h s n e s'}, F n h s → env (.backoff q n) s (.error e) s' →
    X (h ++ [⟨.backoff q n, .error e⟩]) s' e s'
  raised : ∀ {h s₀ s n} e, F n h s → X h s₀ e s

/-- How an attempt of a `Loop` has ended. -/
def Loop.ended (F : ℕ → Log Tok → Worker Tok ι → Prop)
    (K : q.Answer → Log Tok → Worker Tok ι → Worker Tok ι → Prop) (n : ℕ) :
    Except Exc q.Answer → Log Tok → Worker Tok ι → Worker Tok ι → Prop
  | .ok a, h, s₀, s => K a h s₀ s
  | .error _, h, _, s => F n h s

theorem Loop.retries (L : Loop env C D X J F K) : Retries env C D X J F (Loop.ended F K) where
  report := by
    intro h s₀ s n r ho
    cases r with
    | ok a => exact L.returned ho
    | error e => exact L.failed e ho
  lost := by
    intro h s₀ s n r e s' ho hs'
    cases r with
    | ok a => exact L.lost ho hs'
    | error e' => exact L.raised e (L.failed_next ho hs')
  returned := fun ho hs' => L.returned_next ho hs'
  given_up := fun _ ho hs' _ => L.raised _ (L.failed_next ho hs')
  again := fun ho hs' _ => L.failed_next ho hs'
  backoff := fun hw => L.backoff hw
  backoff_next := fun hw hs' => L.backoff_next hw hs'
  backoff_lost := fun hw hs' => L.backoff_lost hw hs'

theorem execute_activity_safe (L : Loop env C D X J F K)
    (hbody : ∀ activity_id n h s, J n h s → Co.Safe env C (fun h s₀ a s => K a h s₀ s)
      (fun h _ _ s => F n h s) h s (on_world (perform A ⟨workflow_id, activity_id, n⟩ q)) s)
    {h : Log Tok} {s₀ s : Worker Tok ι} (hc : C h s₀ (.schedule q) s)
    (hok : ∀ activity_id s', env (.schedule q) s (.ok activity_id) s' →
      J 1 (h ++ [⟨.schedule q, .ok activity_id⟩]) s')
    (herr : ∀ e s', env (.schedule q) s (.error e) s' →
      X (h ++ [⟨.schedule q, .error e⟩]) s' e s') :
    Co.Safe env C D X h s₀ (execute_activity A workflow_id q) s :=
  execute_activity_retries L.retries hbody hc hok herr

/-- What the workflow awaits is carried out. -/
theorem execute_safe [DecidableEq ι] {i : ι} {h : Log Tok} {s₀ s : Worker Tok ι}
    (hq : Co.Safe env C D X h s₀ (carry_out A workflow_id q) s) :
    Co.Safe env C D X h s₀ (on_flow A workflow_id i (AgentTaskWorkflow.execute q)) s :=
  Co.Safe.handle_call hq

end

end Durable

end AegisOs
