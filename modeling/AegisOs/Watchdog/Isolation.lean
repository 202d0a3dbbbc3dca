/-
# `AegisOs.Watchdog.Isolation` — sessions do not see one another

One `BudgetEnforcer` and one `LoopDetector` serve all sessions of a process, and any
caller may interleave its calls with those of the others.  The cell of a session is

    its entry in the table  +  the events that name it, in the order of the log

(and the thresholds, for the detector).  Every method works on the cell of one session, so
by the rules of `Lib.Shards` the shared watchdog is one watchdog for each session: the
answers and exceptions a session's callers get, the entry it ends with and its part of the
log are those of a run without anybody else (`budget_sessions_isolated`,
`loop_sessions_isolated`).
-/
import AegisOs.Lib.Shards
import AegisOs.Watchdog.BudgetRuns
import AegisOs.Watchdog.LoopRuns

namespace AegisOs

open Lib Lib.EState

/-! ## The events of a session -/

/-- The `session_id` an event carries. -/
def AuditEvent.named_session : AuditEvent → Option Field
  | .info _ extra | .warning _ extra | .error _ extra =>
      (extra.find? fun kv => kv.1 = "session_id").map Prod.snd
  | _ => none

/-- The events of the session, in order. -/
def eventsOf (session_id : Uuid) (audit : List AuditEvent) : List AuditEvent :=
  audit.filter fun ev => ev.named_session = some (.str session_id.text)

section
variable {id id' : Uuid} {ev : AuditEvent}

theorem eventsOf_self (h : ev.named_session = some (.str id.text)) (audit : List AuditEvent) :
    eventsOf id (audit ++ [ev]) = eventsOf id audit ++ [ev] := by
  simp [eventsOf, h]

theorem eventsOf_other (h : ev.named_session = some (.str id.text)) (hne : id' ≠ id)
    (audit : List AuditEvent) : eventsOf id' (audit ++ [ev]) = eventsOf id' audit := by
  have htext : id.text ≠ id'.text := by
    intro heq
    cases id
    cases id'
    exact hne (congrArg Uuid.mk heq.symm)
  simp [eventsOf, h, htext]

end

/-! ## The budget enforcer -/

namespace BudgetEnforcer

/-- What an enforcer has for a session. -/
structure Cell where
  session : Option BudgetSession
  audit : List AuditEvent

def cell (e : BudgetEnforcer) (id : Uuid) : Cell := ⟨e.sessions id, eventsOf id e.audit⟩

section
variable {id id' : Uuid} {ev : AuditEvent} (e : BudgetEnforcer)

theorem cell_put (s : BudgetSession) :
    (e.put id s).cell id = { e.cell id with session := some s } := by
  simp [cell, put]

theorem cell_put_other (h : id' ≠ id) (s : BudgetSession) : (e.put id s).cell id' = e.cell id' := by
  simp [cell, put, h]

theorem cell_log (h : ev.named_session = some (.str id.text)) :
    (e.log ev).cell id = { e.cell id with audit := (e.cell id).audit ++ [ev] } := by
  simp [cell, log, eventsOf_self h]

theorem cell_log_other (h : ev.named_session = some (.str id.text)) (hne : id' ≠ id) :
    (e.log ev).cell id' = e.cell id' := by
  simp [cell, log, eventsOf_other h hne]

end

variable {id : Uuid}

theorem put_about (id : Uuid) (s : BudgetSession) :
    About cell id (modify (·.put id s) : BE PUnit) := by
  refine .write ?_ fun e _ hne => cell_put_other e hne s
  intro e e' h
  rw [cell_put, cell_put, h]

theorem log_about {ev : AuditEvent} (hev : ev.named_session = some (.str id.text)) :
    About cell id (modify (·.log ev) : BE PUnit) := by
  refine .write ?_ fun e _ hne => cell_log_other e hev hne
  intro e e' h
  rw [cell_log e hev, cell_log e' hev, h]

theorem put_log_about (s : BudgetSession) {ev : AuditEvent}
    (hev : ev.named_session = some (.str id.text)) :
    About cell id (modify fun e => (e.put id s).log ev : BE PUnit) := by
  refine .write ?_ ?_
  · intro e e' h
    rw [cell_log _ hev, cell_log _ hev, cell_put, cell_put, h]
  · intro e id' hne
    rw [cell_log_other _ hev hne, cell_put_other _ hne]

theorem require_session_about (id : Uuid) : About cell id (require_session id) := by
  refine .read ?_ ?_
  · intro e e' h
    rw [show e.sessions id = e'.sessions id from congrArg Cell.session h]
  · intro e
    cases e.sessions id with
    | none => exact .throw _
    | some s => exact .pure s

theorem create_session_about (settings_limit : ℚ) (agent_type : String) (limit : Option ℚ) :
    About cell id (create_session settings_limit id agent_type limit) :=
  (put_log_about _ rfl).bind fun _ => .pure _

theorem record_spend_about (amount_usd : ℚ) (operation_id : Option String) :
    About cell id (record_spend id amount_usd operation_id) := by
  refine (require_session_about id).bind fun s => .ite (.pure s) ?_
  refine (put_about id _).bind fun _ => .ite ?_ (.pure _)
  exact (put_log_about _ rfl).bind fun _ => .throw _

theorem check_budget_about : About cell id (check_budget id) := by
  refine (require_session_about id).bind fun s => .ite ?_ (.pure _)
  exact (log_about rfl).bind fun _ => .throw _

theorem record_tokens_about (tokens : ℤ) (cost_per_token : ℚ) (operation_id : Option String) :
    About cell id (record_tokens id tokens cost_per_token operation_id) := by
  refine (require_session_about id).bind fun s => .ite (.pure s) ?_
  exact (put_about id _).bind fun _ => .ite (.throw _) (record_spend_about _ _)

theorem replay_about (history : List BudgetHistoryEntry) : About cell id (replay id history) := by
  induction history with
  | nil => exact .pure _
  | cons entry history ih => exact (record_tokens_about _ _ _).bind fun _ => ih

theorem restore_from_history_about (agent_type : String) (limit : ℚ)
    (history : List BudgetHistoryEntry) :
    About cell id (restore_from_history id agent_type limit history) :=
  (put_about id _).bind fun _ => (replay_about history).bind fun _ => require_session_about id

/-- A call of any of the methods. -/
inductive Method where
  | create_session (session_id : Uuid) (agent_type : String) (budget_limit_usd : Option ℚ)
  | call (session_id : Uuid) (c : Call)
  | restore_session (snapshot : BudgetSessionSnapshot)
  | restore_from_history (session_id : Uuid) (agent_type : String) (budget_limit_usd : ℚ)
      (history : List BudgetHistoryEntry)
  | get_session (session_id : Uuid)

def Method.session_id : Method → Uuid
  | .create_session session_id _ _ | .call session_id _ | .restore_from_history session_id _ _ _
  | .get_session session_id => session_id
  | .restore_session snapshot => snapshot.session_id

def invoke (settings_limit : ℚ) : Method → BE (Option BudgetSession)
  | .create_session session_id agent_type budget_limit_usd =>
      some <$> BudgetEnforcer.create_session settings_limit session_id agent_type budget_limit_usd
  | .call session_id c => perform session_id c
  | .restore_session snapshot => some <$> BudgetEnforcer.restore_session snapshot
  | .restore_from_history session_id agent_type budget_limit_usd history =>
      some <$> BudgetEnforcer.restore_from_history session_id agent_type budget_limit_usd history
  | .get_session session_id => BudgetEnforcer.get_session session_id

theorem invoke_about (settings_limit : ℚ) (x : Method) :
    About cell x.session_id (invoke settings_limit x) := by
  cases x with
  | create_session id agent_type limit => exact (create_session_about _ _ _).map some
  | call id c =>
      cases c with
      | record_spend amount op => exact (record_spend_about amount op).map some
      | record_tokens tokens cost op => exact (record_tokens_about tokens cost op).map some
      | check_budget => exact check_budget_about.bind fun _ => .pure none
  | restore_session snapshot =>
      exact About.map some ((put_about _ _).bind fun _ => .pure _)
  | restore_from_history id agent_type limit history =>
      exact (restore_from_history_about _ _ _).map some
  | get_session id =>
      refine .read ?_ fun e => .pure _
      intro e e' h
      rw [show e.sessions id = e'.sessions id from congrArg Cell.session h]

/-- **Budget sessions are isolated.**  In any run of calls of any methods on any sessions, the calls
on one session answer as in the run of those calls alone, and leave the same session and the same
events of the session; the enforcer is one enforcer for each session. -/
theorem budget_sessions_isolated (settings_limit : ℚ) (e : BudgetEnforcer) (xs : List Method)
    (id : Uuid) :
    ofKey Method.session_id id xs (outcomes (invoke settings_limit) xs e) =
      outcomes (invoke settings_limit) (xs.filter fun x => x.session_id = id) e ∧
    (final (invoke settings_limit) xs e).sessions id =
      (final (invoke settings_limit) (xs.filter fun x => x.session_id = id) e).sessions id ∧
    eventsOf id (final (invoke settings_limit) xs e).audit =
      eventsOf id (final (invoke settings_limit) (xs.filter fun x => x.session_id = id) e).audit ∧
    outcomes (invoke settings_limit) xs e =
      outcomes (shard Method.session_id (invoke settings_limit)) xs fun _ => e := by
  obtain ⟨houts, hcell⟩ := ofKey_outcomes (invoke_about settings_limit) xs e id
  exact ⟨houts, congrArg Cell.session hcell, congrArg Cell.audit hcell,
    (outcomes_shard (invoke_about settings_limit) xs fun _ => rfl).1⟩

end BudgetEnforcer

/-! ## The loop detector -/

namespace LoopDetector

/-- What a detector has for a session; the thresholds are everybody's, and nobody's to change. -/
structure Cell where
  max_agent_steps : ℤ
  max_token_velocity : ℤ
  context : Option ExecutionContext
  audit : List AuditEvent

def cell (d : LoopDetector) (id : Uuid) : Cell :=
  ⟨d.max_agent_steps, d.max_token_velocity, d.contexts id, eventsOf id d.audit⟩

variable {id : Uuid}

theorem put_about (id : Uuid) (ctx : ExecutionContext) :
    About cell id (modify (·.put id ctx) : LD PUnit) := by
  refine .write ?_ ?_
  · intro d d' h
    simp only [cell, Cell.mk.injEq] at h
    simp [cell, put, h]
  · intro d id' hne
    simp [cell, put, hne]

/-- A write to the context and an event of the session, which may show the thresholds. -/
theorem put_log_about (ctx : ExecutionContext) {ev : LoopDetector → AuditEvent}
    (hev : ∀ d, (ev d).named_session = some (.str id.text))
    (hsame : ∀ d d', d.cell id = d'.cell id → ev d = ev d') :
    About cell id (modify fun d => (d.put id ctx).log (ev d) : LD PUnit) := by
  refine .write ?_ ?_
  · intro d d' h
    have hsame := hsame d d' h
    simp only [cell, Cell.mk.injEq] at h
    simp [cell, put, log, eventsOf_self (hev _), hsame, h]
  · intro d id' hne
    simp [cell, put, log, hne, eventsOf_other (hev _) hne]

theorem require_context_about (id : Uuid) : About cell id (require_context id) := by
  refine .read ?_ ?_
  · intro d d' h
    rw [show d.contexts id = d'.contexts id from congrArg Cell.context h]
  · intro d
    cases d.contexts id with
    | none => exact .throw _
    | some ctx => exact .pure ctx

theorem record_step_about (token_delta : ℤ) (signal : LoopSignal) (description : String) :
    About cell id (record_step id token_delta signal description) := by
  refine (require_context_about id).bind fun ctx => .read ?_ fun d => ?_
  · intro d d' h
    have hsteps : d.max_agent_steps = d'.max_agent_steps := congrArg Cell.max_agent_steps h
    have hvelocity : d.max_token_velocity = d'.max_token_velocity :=
      congrArg Cell.max_token_velocity h
    rw [hsteps, hvelocity]
  · -- each check writes the context and an event, and raises
    refine (put_about id _).bind fun _ => .ite ?_ (.ite ?_ (.ite ?_ (.pure _)))
    all_goals refine .bind (put_log_about _ (fun _ => rfl) ?_) fun _ => .raise _ _
    all_goals
      intro d d' h
      simp only [cell, Cell.mk.injEq] at h
      simp [h]

/-- A call of any of the methods. -/
inductive Method where
  | create_context (session_id : Uuid) (agent_type : String)
  | record_step (session_id : Uuid) (x : StepCall)
  | get_context (session_id : Uuid)
  | checkpoint (session_id : Uuid)
  | restore (snapshot : ExecutionCheckpoint)

/-- What a method returns. -/
inductive Returned where
  | context (ctx : Option ExecutionContext)
  | snapshot (snapshot : ExecutionCheckpoint)

/-- The session a call is on; a snapshot whose session does not parse is on none, and its text will
do. -/
def Method.session_id : Method → Uuid
  | .create_context session_id _ | .record_step session_id _ | .get_context session_id
  | .checkpoint session_id => session_id
  | .restore snapshot => snapshot.session_id.val.getD ⟨snapshot.session_id.raw⟩

def invoke : Method → LD Returned
  | .create_context session_id agent_type =>
      (fun ctx => .context (some ctx)) <$> LoopDetector.create_context session_id agent_type
  | .record_step session_id x => (fun ctx => .context (some ctx)) <$> record session_id x
  | .get_context session_id => .context <$> LoopDetector.get_context session_id
  | .checkpoint session_id => .snapshot <$> LoopDetector.checkpoint session_id
  | .restore snapshot => (fun ctx => .context (some ctx)) <$> LoopDetector.restore snapshot

theorem restore_about (snapshot : ExecutionCheckpoint) :
    About cell (Method.restore snapshot).session_id (LoopDetector.restore snapshot) := by
  unfold LoopDetector.restore Lit.read
  cases hid : snapshot.session_id.val with
  | none => exact .raise _ _
  | some id =>
      rw [show (Method.restore snapshot).session_id = id by simp [Method.session_id, hid]]
      dsimp only
      rw [pure_bind]
      exact .bind (.ofExcept _) fun steps => (put_about id _).bind fun _ => .pure _

theorem invoke_about (x : Method) : About cell x.session_id (invoke x) := by
  cases x with
  | create_context id agent_type =>
      exact About.map _ ((put_log_about _ (fun _ => rfl) fun _ _ _ => rfl).bind fun _ => .pure _)
  | record_step id x => exact (record_step_about _ _ _).map _
  | get_context id =>
      refine About.map _ (.read ?_ fun d => .pure _)
      intro d d' h
      rw [show d.contexts id = d'.contexts id from congrArg Cell.context h]
  | checkpoint id => exact About.map _ ((require_context_about id).bind fun _ => .pure _)
  | restore snapshot => exact (restore_about snapshot).map _

/-- **The contexts of the loop detector are isolated**, as the budget sessions are: what one
session's steps are told, a velocity, a streak or a request for a human, is their own. -/
theorem loop_sessions_isolated (d : LoopDetector) (xs : List Method) (id : Uuid) :
    ofKey Method.session_id id xs (outcomes invoke xs d) =
      outcomes invoke (xs.filter fun x => x.session_id = id) d ∧
    (final invoke xs d).contexts id =
      (final invoke (xs.filter fun x => x.session_id = id) d).contexts id ∧
    eventsOf id (final invoke xs d).audit =
      eventsOf id (final invoke (xs.filter fun x => x.session_id = id) d).audit ∧
    outcomes invoke xs d = outcomes (shard Method.session_id invoke) xs fun _ => d := by
  obtain ⟨houts, hcell⟩ := ofKey_outcomes invoke_about xs d id
  exact ⟨houts, congrArg Cell.context hcell, congrArg Cell.audit hcell,
    (outcomes_shard invoke_about xs fun _ => rfl).1⟩

end LoopDetector

end AegisOs
