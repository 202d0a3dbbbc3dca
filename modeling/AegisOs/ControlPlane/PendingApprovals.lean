/-
# `AegisOs.ControlPlane.PendingApprovals` — which approvals the operator sees

`list_pending_snapshots` of `approval_service.py` walks the executions of the
namespace, and `refresh_pending_approval_metrics` of `main.py` turns what it
returns into the series of a gauge.

**The namespace.**  A `TemporalNamespace` is what the service finds while it
lists: the executions in the server's order, open and closed alike, and the
answer to the query under each workflow id.  A query may fail; one that succeeds
shows a workflow of this repository somewhere along one of its runs.

The limit goes to the server, which counts every execution.  So what is listed
are the pending ones of a prefix (`listed_eq`), and the condition for seeing them
all is about where the others stand (`pending_visible_iff`).
-/
import AegisOs.ControlPlane.Approval

namespace AegisOs

open Lib

/-! ## The listing -/

/-- A `WorkflowExecution`, as far as the service reads it. -/
structure WorkflowExecution where
  id : String
  close_time : Option ℚ := none
  deriving DecidableEq

namespace TaskApprovalService

/-- What an answer to the query adds; `except Exception: continue`. -/
def collect (snapshots : List ApprovalStatusSnapshot) :
    Except Exc ApprovalStatusSnapshot → List ApprovalStatusSnapshot
  | .error _ => snapshots
  | .ok snapshot =>
      if snapshot.approval_state = PendingApprovalState.AWAITING_APPROVAL.value then
        snapshots ++ [snapshot]
      else snapshots

/-- The body of the loop. -/
def visit (snapshots : List ApprovalStatusSnapshot) (execution : WorkflowExecution) :
    Service (List ApprovalStatusSnapshot) :=
  if execution.close_time.isSome then pure snapshots
  else do return collect snapshots (← (query execution.id).attempt)

/-- `list_pending_snapshots`; the first argument is the client's `list_workflows`. -/
def list_pending_snapshots (list_workflows : ℕ → Except Exc (List WorkflowExecution))
    (limit : ℕ := 200) : Service (List ApprovalStatusSnapshot) :=
  match list_workflows limit with
  | .ok executions => executions.foldlM visit []
  | .error e => throw e

end TaskApprovalService

/-! ## The gauge -/

/-- The series of `workflow_pending_approval_seconds` by workflow id, the ids that `main.py`
tracks, and the texts of the warnings it logs. -/
structure PendingMetrics where
  series : String → Option ℚ := fun _ => none
  tracked : List String := []
  refresh_failures : List Text := []

/-- The age of a snapshot that says since when it is pending. -/
def pending_age (now : ℚ) (snapshot : ApprovalStatusSnapshot) : Option (String × ℚ) :=
  snapshot.pending_since_epoch_seconds.map fun since => (snapshot.task_id, max (now - since) 0)

/-- `labels(workflow_id=...).set(age_seconds)`. -/
def set_series (series : String → Option ℚ) (sample : String × ℚ) : String → Option ℚ :=
  Function.update series sample.1 (some sample.2)

/-- Set the series of the samples, remove the stale ones, and track the rest. -/
def PendingMetrics.sampled (m : PendingMetrics) (samples : List (String × ℚ)) : PendingMetrics :=
  let current_workflow_ids := samples.map Prod.fst
  let stale_workflow_ids := m.tracked.filter (· ∉ current_workflow_ids)
  { m with
    series := fun id => if id ∈ stale_workflow_ids then none else samples.foldl set_series m.series id
    tracked := current_workflow_ids }

/-- `refresh_pending_approval_metrics`, for no service, or for one whose listing comes to the
given end. -/
def refresh_pending_approval_metrics
    (approval_service : Option (Except Exc (List ApprovalStatusSnapshot))) (now_seconds : ℚ)
    (m : PendingMetrics) : PendingMetrics :=
  match approval_service with
  | none => m.sampled []
  | some (.error exc) => { m.sampled [] with refresh_failures := m.refresh_failures ++ [exc.str] }
  | some (.ok snapshots) => m.sampled (snapshots.filterMap (pending_age now_seconds))

/-- The metrics after any refreshes since the start of the process. -/
def Refreshed (m : PendingMetrics) : Prop :=
  ∃ past : List (Option (Except Exc (List ApprovalStatusSnapshot)) × ℚ),
    m = past.foldl (fun m call => refresh_pending_approval_metrics call.1 call.2 m) {}

theorem foldl_set_series (samples : List (String × ℚ)) (series : String → Option ℚ) (id : String) :
    (samples.foldl set_series series id).isSome = true ↔
      id ∈ samples.map Prod.fst ∨ (series id).isSome = true := by
  induction samples generalizing series with
  | nil => simp
  | cons sample samples ih =>
      rw [List.foldl_cons, ih]
      by_cases hid : id = sample.1
      · simp [set_series, hid]
      · simp [set_series, hid]

/-- The series are those of the tracked ids. -/
def Tracks (m : PendingMetrics) : Prop :=
  ∀ id, (m.series id).isSome = true ↔ id ∈ m.tracked

theorem Tracks.sampled {m : PendingMetrics} (h : Tracks m) (samples : List (String × ℚ)) :
    Tracks (m.sampled samples) := by
  intro id
  show (ite _ _ _ : Option ℚ).isSome = true ↔ id ∈ samples.map Prod.fst
  by_cases hcurrent : id ∈ samples.map Prod.fst
  · have hset := (foldl_set_series samples m.series id).mpr (.inl hcurrent)
    rw [if_neg (by simp [hcurrent])]
    exact iff_of_true hset hcurrent
  · have hset : (samples.foldl set_series m.series id).isSome = true ↔ id ∈ m.tracked := by
      rw [foldl_set_series, or_iff_right hcurrent, h id]
    by_cases htracked : id ∈ m.tracked
    · rw [if_pos (List.mem_filter.mpr ⟨htracked, decide_eq_true hcurrent⟩)]
      exact iff_of_false (by simp) hcurrent
    · rw [if_neg (fun hstale => htracked (List.mem_filter.mp hstale).1), hset]
      exact iff_of_false htracked hcurrent

theorem Tracks.refresh {m : PendingMetrics} (h : Tracks m) (now_seconds : ℚ) :
    ∀ approval_service, Tracks (refresh_pending_approval_metrics approval_service now_seconds m)
  | none | some (.error _) => h.sampled []
  | some (.ok _) => h.sampled _

theorem Refreshed.tracks {m : PendingMetrics} (h : Refreshed m) : Tracks m := by
  obtain ⟨past, rfl⟩ := h
  induction past using List.reverseRecOn with
  | nil => simp [Tracks]
  | append_singleton past call ih =>
      rw [List.foldl_append]
      exact ih.refresh call.2 call.1

/-! ## What is listed -/

/-- A Temporal namespace while it is listed. -/
structure TemporalNamespace (Tok : Type) where
  executions : List WorkflowExecution
  approval_status : String → Except Exc ApprovalStatusSnapshot
  /-- Who answers is a workflow of this repository. -/
  answered : ∀ id snapshot, approval_status id = .ok snapshot →
    ∃ inp, ∃ c : AgentTaskWorkflow.Config Tok, AgentTaskWorkflow.Reaches inp c ∧
      snapshot = c.state.approval_status

namespace TemporalNamespace

variable {Tok : Type} (N : TemporalNamespace Tok)

/-- The client's `list_workflows`: the first executions of the server's listing. -/
def list_workflows (limit : ℕ) : Except Exc (List WorkflowExecution) :=
  .ok (N.executions.take limit)

/-- How the server answers the calls on a handle. -/
def oracle : Co.Oracle Unit Exc TemporalCall TemporalCall.Answer where
  reply
    | .query workflow_id, _ => N.approval_status workflow_id
    | .signal _ _ _, _ => .ok ()

/-- What `list_pending_snapshots` comes to. -/
def listed (limit : ℕ) : Except Exc (List ApprovalStatusSnapshot) :=
  ((TaskApprovalService.list_pending_snapshots N.list_workflows limit).exec N.oracle ()).2.1

/-- The snapshot of an execution that is open and awaiting approval. -/
def pending (execution : WorkflowExecution) : Option ApprovalStatusSnapshot :=
  match execution.close_time, N.approval_status execution.id with
  | none, .ok snapshot =>
      if snapshot.approval_state = PendingApprovalState.AWAITING_APPROVAL.value then some snapshot
      else none
  | _, _ => none

/-- The snapshots of all that are. -/
def pending_snapshots : List ApprovalStatusSnapshot := N.executions.filterMap N.pending

theorem exec_visit (snapshots : List ApprovalStatusSnapshot) (execution : WorkflowExecution) :
    ∃ h, (TaskApprovalService.visit snapshots execution).exec N.oracle () =
      (h, .ok (snapshots ++ (N.pending execution).toList), ()) := by
  obtain ⟨id, close_time⟩ := execution
  cases close_time with
  | some t => exact ⟨[], by simp [TaskApprovalService.visit, pending]; rfl⟩
  | none =>
      refine ⟨[⟨.query id, N.approval_status id⟩], ?_⟩
      have hcollect : TaskApprovalService.collect snapshots (N.approval_status id) =
          snapshots ++ (N.pending ⟨id, none⟩).toList := by
        unfold TaskApprovalService.collect pending
        cases N.approval_status id with
        | error e => simp
        | ok snapshot => simp only; split <;> simp
      rw [← hcollect]
      exact Co.exec_attempt_call (O := N.oracle) (TemporalCall.query id)
        (fun r => pure (TaskApprovalService.collect snapshots r)) ()

/-- The loop collects the pending ones, in the order of the listing. -/
theorem exec_visits (executions : List WorkflowExecution) (snapshots : List ApprovalStatusSnapshot) :
    ∃ h, (executions.foldlM TaskApprovalService.visit snapshots).exec N.oracle () =
      (h, .ok (snapshots ++ executions.filterMap N.pending), ()) := by
  induction executions generalizing snapshots with
  | nil => exact ⟨[], by simp [Co.exec, pure]⟩
  | cons execution executions ih =>
      obtain ⟨h, hvisit⟩ := N.exec_visit snapshots execution
      obtain ⟨h', hrest⟩ := ih (snapshots ++ (N.pending execution).toList)
      refine ⟨h ++ h', ?_⟩
      rw [List.foldlM_cons, Co.exec_bind_ok hvisit, hrest, List.append_assoc]
      cases hp : N.pending execution <;> simp [hp]

/-- What is listed are the pending ones of the first `limit` executions. -/
theorem listed_eq (limit : ℕ) :
    N.listed limit = .ok ((N.executions.take limit).filterMap N.pending) := by
  obtain ⟨h, hrun⟩ := N.exec_visits (N.executions.take limit) []
  rw [List.nil_append] at hrun
  exact congrArg (fun r => r.2.1) hrun

/-! ## Seeing them all -/

/-- Every pending execution is listed once, nothing else is, and after a refresh with the listing
the gauge has a series for each pending task and no other. -/
structure Visible (limit : ℕ) : Prop where
  listed : ∃ snapshots, N.listed limit = .ok snapshots ∧ snapshots.Perm N.pending_snapshots
  series : ∀ m, Refreshed m → ∀ now_seconds id,
    ((refresh_pending_approval_metrics (some (N.listed limit)) now_seconds m).series id).isSome = true ↔
      ∃ snapshot ∈ N.pending_snapshots, snapshot.task_id = id

theorem pending_eq_some {execution : WorkflowExecution} {snapshot : ApprovalStatusSnapshot}
    (h : N.pending execution = some snapshot) : N.approval_status execution.id = .ok snapshot ∧
      snapshot.approval_state = PendingApprovalState.AWAITING_APPROVAL.value := by
  unfold pending at h
  split at h
  · rename_i snapshot' _ hq
    split at h
    · rename_i hstate
      cases h
      exact ⟨hq, hstate⟩
    · cases h
  · cases h

/-- A workflow that awaits approval says since when. -/
theorem pending_since {snapshot : ApprovalStatusSnapshot} (h : snapshot ∈ N.pending_snapshots) :
    snapshot.pending_since_epoch_seconds.isSome = true := by
  obtain ⟨execution, -, hp⟩ := List.mem_filterMap.mp h
  obtain ⟨hq, hstate⟩ := N.pending_eq_some hp
  obtain ⟨inp, c, hc, rfl⟩ := N.answered _ _ hq
  exact (AgentTaskWorkflow.approval_gate inp hc).1.mpr hstate

/-- So each of them is a sample. -/
theorem sampled_ids {snapshots : List ApprovalStatusSnapshot} (h : snapshots.Perm N.pending_snapshots)
    (now_seconds : ℚ) (id : String) :
    id ∈ (snapshots.filterMap (pending_age now_seconds)).map Prod.fst ↔
      ∃ snapshot ∈ N.pending_snapshots, snapshot.task_id = id := by
  constructor
  · intro hid
    obtain ⟨sample, hsample, rfl⟩ := List.mem_map.mp hid
    obtain ⟨snapshot, hmem, hage⟩ := List.mem_filterMap.mp hsample
    obtain ⟨since, -, rfl⟩ := Option.map_eq_some_iff.mp hage
    exact ⟨snapshot, h.mem_iff.mp hmem, rfl⟩
  · rintro ⟨snapshot, hmem, rfl⟩
    obtain ⟨since, hsince⟩ := Option.isSome_iff_exists.mp (N.pending_since hmem)
    refine List.mem_map.mpr ⟨(snapshot.task_id, max (now_seconds - since) 0),
      List.mem_filterMap.mpr ⟨snapshot, h.mem_iff.mpr hmem, ?_⟩, rfl⟩
    rw [pending_age, hsince]
    rfl

/-- **Which approvals are seen.**  Whatever the limit: if no more are pending than that, all of them
are seen exactly when none stands behind the first `limit` executions. -/
theorem pending_visible_iff (limit : ℕ) :
    (N.pending_snapshots.length ≤ limit → N.Visible limit) ↔
      (limit < N.pending_snapshots.length ∨
        ∀ execution ∈ N.executions.drop limit, N.pending execution = none) := by
  have hsplit : N.pending_snapshots = (N.executions.take limit).filterMap N.pending ++
      (N.executions.drop limit).filterMap N.pending := by
    rw [pending_snapshots, ← List.filterMap_append, List.take_append_drop]
  rw [← imp_iff_not_or.trans (or_congr_left not_le)]
  refine imp_congr_right fun _ => ⟨?_, ?_⟩
  · rintro ⟨⟨snapshots, hlisted, hperm⟩, -⟩ execution hmem
    rw [N.listed_eq] at hlisted
    cases hlisted
    have hlength := hperm.length_eq
    rw [hsplit, List.length_append] at hlength
    have hnil : (N.executions.drop limit).filterMap N.pending = [] :=
      List.length_eq_zero_iff.mp (by omega)
    exact List.filterMap_eq_nil_iff.mp hnil execution hmem
  · intro hbehind
    rw [List.filterMap_eq_nil_iff.mpr hbehind, List.append_nil] at hsplit
    have hperm : ((N.executions.take limit).filterMap N.pending).Perm N.pending_snapshots := by
      rw [hsplit]
    refine ⟨⟨_, N.listed_eq limit, hperm⟩, fun m hm now_seconds id => ?_⟩
    rw [N.listed_eq]
    exact (hm.tracks.sampled _ id).trans (N.sampled_ids hperm now_seconds id)

end TemporalNamespace

/-- A closed execution, and behind it a task that awaits approval. -/
def busy_namespace : TemporalNamespace Unit where
  executions := [⟨"task-9", some 5⟩, ⟨"task-0", none⟩]
  approval_status _ := .ok AgentTaskWorkflow.waitingConf.state.approval_status
  answered _ _ h := by
    cases h
    exact ⟨_, _, AgentTaskWorkflow.waitingConf_reaches, rfl⟩

/-- With a limit of one the closed execution is all that is looked at. -/
theorem busy_namespace_hides :
    ¬(busy_namespace.pending_snapshots.length ≤ 1 → busy_namespace.Visible 1) := by
  intro hvisible
  have hlength : busy_namespace.pending_snapshots.length = 1 := by decide +kernel
  obtain ⟨⟨snapshots, hlisted, hperm⟩, -⟩ := hvisible hlength.le
  rw [busy_namespace.listed_eq] at hlisted
  cases hlisted
  have hnone : ((busy_namespace.executions.take 1).filterMap busy_namespace.pending).length = 0 := by
    decide +kernel
  rw [hperm.length_eq, hlength] at hnone
  cases hnone

end AegisOs
