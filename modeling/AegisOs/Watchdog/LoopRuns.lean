/-
# `AegisOs.Watchdog.LoopRuns` — whole runs of the circuit breaker

A run is a list of `record_step` calls on one context, the caller going on
after every exception.  `record_run` says what one call does: it appends
its step whatever happens (`stepped`), the three checks look at the context
that results (`tripped`), and an exception leaves a flag (`flagged`).  From it,
by induction on the calls:

    the outcome of a call is a function of the calls up to it (`verdict`), and
    the context is one of all of them (`Matches`)

and the scan of the step list from its end agrees with a counter that is
stepped along (`streak_eq_counter`).

**Restarts.**  `restarted` takes a checkpoint and restores it in a new
detector.  A restart is invisible to every later call
(`checkpoint_transparent`): what a call depends on is the context, and a
snapshot determines that.
-/
import AegisOs.Lib.Runs
import AegisOs.Watchdog.LoopDetector
import Mathlib.Algebra.BigOperators.Group.List.Basic
import Mathlib.Data.List.DropRight

namespace AegisOs.LoopDetector

open Lib Lib.EState

/-! ## One call -/

/-- The arguments of a `record_step`. -/
structure StepCall where
  token_delta : ℤ
  signal : LoopSignal
  description : String := ""
  deriving DecidableEq

def record (id : Uuid) (x : StepCall) : LD ExecutionContext :=
  record_step id x.token_delta x.signal x.description

/-- The context with the step appended. -/
def stepped (ctx : ExecutionContext) (x : StepCall) : ExecutionContext :=
  { ctx with
    steps := ctx.steps ++
      [⟨(ctx.steps.length + 1 : ℕ), x.token_delta, x.signal, x.description⟩]
    total_tokens := ctx.total_tokens + x.token_delta }

/-- What the checks find in a context whose last step is `x`. -/
def tripped (max_agent_steps max_token_velocity : ℤ) (ctx : ExecutionContext) (x : StepCall) :
    Option Exc :=
  if max_token_velocity < x.token_delta then
    some ⟨.TokenVelocityError,
      [.lit "Token velocity exceeded on step ", .int ctx.steps.length, .lit ": ",
        .int x.token_delta, .lit " > ", .int max_token_velocity]⟩
  else if x.signal = .HUMAN_REQUIRED then
    some ⟨.PendingApprovalError,
      [.lit "Agent requested human intervention on step ", .int ctx.steps.length]⟩
  else if max_agent_steps ≤ no_progress_streak ctx.steps then
    some ⟨.LoopDetectedError,
      [.lit "No progress after ", .int (no_progress_streak ctx.steps),
        .lit " consecutive steps (max=", .int max_agent_steps, .lit ")"]⟩
  else none

/-- The flag an exception leaves. -/
def flagged (trip : Option Exc) (ctx : ExecutionContext) : ExecutionContext :=
  match trip with
  | none => ctx
  | some e =>
      if e.kind = .PendingApprovalError then { ctx with intervention_required := true }
      else { ctx with loop_detected := true }

@[simp] theorem put_self (d : LoopDetector) (id : Uuid) (ctx : ExecutionContext) :
    (d.put id ctx).contexts id = some ctx := by
  simp [put]

theorem put_put (d : LoopDetector) (id : Uuid) (ctx ctx' : ExecutionContext) :
    (d.put id ctx).put id ctx' = d.put id ctx' := by
  simp [put]

theorem require_context_run {d : LoopDetector} {id : Uuid} {ctx : ExecutionContext}
    (h : d.contexts id = some ctx) : require_context id d = .ok ctx d := by
  unfold require_context
  rw [bind_ok (get_run d), h]
  rfl

theorem require_context_none {d : LoopDetector} {id : Uuid} (h : d.contexts id = none) :
    ∃ e, require_context id d = .error e d ∧ e.kind = .KeyError := by
  unfold require_context
  rw [bind_ok (get_run d), h]
  exact ⟨_, rfl, rfl⟩

/-- A detector that has written `ctx` for `id`, and otherwise has at most logged. -/
def Wrote (id : Uuid) (ctx : ExecutionContext) (d d' : LoopDetector) : Prop :=
  d'.contexts = (d.put id ctx).contexts ∧ d'.max_agent_steps = d.max_agent_steps ∧
    d'.max_token_velocity = d.max_token_velocity

theorem Wrote.context {id : Uuid} {ctx : ExecutionContext} {d d' : LoopDetector}
    (h : Wrote id ctx d d') : d'.contexts id = some ctx := by
  rw [h.1, put_self]

/-- **One call.** -/
theorem record_run {d : LoopDetector} {id : Uuid} {ctx : ExecutionContext}
    (h : d.contexts id = some ctx) (x : StepCall) {trip : Option Exc}
    (htrip : tripped d.max_agent_steps d.max_token_velocity (stepped ctx x) x = trip) :
    result (record id x d) = trip.elim (.ok (stepped ctx x)) .error ∧
      Wrote id (flagged trip (stepped ctx x)) d (after (record id x d)) := by
  -- the number of the step is the length of the list it ends
  have hlen : (stepped ctx x).steps.length = ctx.steps.length + 1 := by
    simp [stepped]
  have hput : ∀ (ctx' : ExecutionContext) (ev : AuditEvent),
      Wrote id ctx' d (((d.put id (stepped ctx x)).put id ctx').log ev) := fun ctx' ev =>
    ⟨show ((d.put id (stepped ctx x)).put id ctx').contexts = _ by rw [put_put], rfl, rfl⟩
  unfold tripped at htrip
  rw [hlen] at htrip
  unfold record record_step
  rw [bind_ok (require_context_run h), bind_ok (get_run d), bind_ok (modify_run _ d)]
  by_cases hvel : d.max_token_velocity < x.token_delta
  · rw [if_pos hvel] at htrip
    subst htrip
    rw [if_pos hvel]
    exact ⟨rfl, hput _ _⟩
  rw [if_neg hvel] at htrip
  rw [if_neg hvel]
  by_cases hsig : x.signal = .HUMAN_REQUIRED
  · rw [if_pos hsig] at htrip
    subst htrip
    beta_reduce
    rw [if_pos hsig]
    exact ⟨rfl, hput _ _⟩
  rw [if_neg hsig] at htrip
  beta_reduce
  rw [if_neg hsig]
  by_cases hstr : d.max_agent_steps ≤ no_progress_streak (stepped ctx x).steps
  · rw [if_pos hstr] at htrip
    subst htrip
    dsimp only
    rw [if_pos (show d.max_agent_steps ≤ no_progress_streak (ctx.steps ++ [_]) from hstr)]
    exact ⟨rfl, hput _ _⟩
  · rw [if_neg hstr] at htrip
    subst htrip
    dsimp only
    rw [if_neg (show ¬ d.max_agent_steps ≤ no_progress_streak (ctx.steps ++ [_]) from hstr)]
    exact ⟨rfl, rfl, rfl, rfl⟩

/-! ## Whole runs -/

/-- The class of the exception a call raised, if it raised one. -/
def raised {α : Type} : Except Exc α → Option ExcKind
  | .ok _ => none
  | .error e => some e.kind

/-- How many calls in a row, up to the last one, made no progress. -/
def streak (calls : List StepCall) : ℕ :=
  (calls.rtakeWhile fun x => decide (x.signal = .NO_PROGRESS)).length

/-- One step of the counter. -/
def tick (n : ℕ) (x : StepCall) : ℕ := if x.signal = .NO_PROGRESS then n + 1 else 0

/-- The streak, counted as the calls come in. -/
def counter (calls : List StepCall) : ℕ := calls.foldl tick 0

/-- The exception the call `x` has to raise after the calls `earlier`. -/
def verdict (max_agent_steps max_token_velocity : ℤ) (earlier : List StepCall) (x : StepCall) :
    Option ExcKind :=
  if max_token_velocity < x.token_delta then some .TokenVelocityError
  else if x.signal = .HUMAN_REQUIRED then some .PendingApprovalError
  else if max_agent_steps ≤ streak (earlier ++ [x]) then some .LoopDetectedError
  else none

/-- The steps the calls leave. -/
def numbered (calls : List StepCall) : List StepRecord :=
  calls.mapIdx fun k x => ⟨(k + 1 : ℕ), x.token_delta, x.signal, x.description⟩

theorem numbered_snoc (calls : List StepCall) (x : StepCall) :
    numbered (calls ++ [x]) =
      numbered calls ++ [⟨(calls.length + 1 : ℕ), x.token_delta, x.signal, x.description⟩] := by
  simp [numbered, List.mapIdx_append]

@[simp] theorem length_numbered (calls : List StepCall) :
    (numbered calls).length = calls.length := by
  simp [numbered]

theorem step_number_numbered (calls : List StepCall) :
    (numbered calls).map (·.step_number) = (List.range calls.length).map fun k => (k : ℤ) + 1 := by
  induction calls using List.reverseRecOn with
  | nil => rfl
  | append_singleton calls x ih => simp [numbered_snoc, ih, List.range_succ]

theorem no_progress_streak_snoc (steps : List StepRecord) (step : StepRecord) :
    no_progress_streak (steps ++ [step]) =
      if step.signal = .NO_PROGRESS then no_progress_streak steps + 1 else 0 := by
  unfold no_progress_streak
  rw [List.reverse_append, List.reverse_singleton, List.singleton_append, List.takeWhile_cons]
  split <;> simp_all

theorem streak_snoc (calls : List StepCall) (x : StepCall) :
    streak (calls ++ [x]) = if x.signal = .NO_PROGRESS then streak calls + 1 else 0 := by
  unfold streak
  rw [List.rtakeWhile_concat]
  split <;> simp_all

theorem counter_snoc (calls : List StepCall) (x : StepCall) :
    counter (calls ++ [x]) = if x.signal = .NO_PROGRESS then counter calls + 1 else 0 := by
  unfold counter
  rw [List.foldl_append]
  rfl

/-- The scan of the steps from their end counts the streak of the calls. -/
theorem no_progress_streak_numbered (calls : List StepCall) :
    no_progress_streak (numbered calls) = streak calls := by
  induction calls using List.reverseRecOn with
  | nil => rfl
  | append_singleton calls x ih => rw [numbered_snoc, no_progress_streak_snoc, streak_snoc, ih]

/-- Counting along and scanning back agree. -/
theorem streak_eq_counter (calls : List StepCall) : streak calls = counter calls := by
  induction calls using List.reverseRecOn with
  | nil => rfl
  | append_singleton calls x ih => rw [streak_snoc, counter_snoc, ih]

/-- What a context says about the calls made on it and their outcomes. -/
structure Matches (calls : List StepCall) (outs : List (Except Exc ExecutionContext))
    (ctx : ExecutionContext) : Prop where
  steps : ctx.steps = numbered calls
  total_tokens : ctx.total_tokens = (calls.map (·.token_delta)).sum
  loop_detected : ctx.loop_detected = true ↔ ∃ out ∈ outs,
    raised out = some .TokenVelocityError ∨ raised out = some .LoopDetectedError
  intervention_required : ctx.intervention_required = true ↔ ∃ out ∈ outs,
    raised out = some .PendingApprovalError

section
variable {a v : ℤ} {ctx : ExecutionContext} {x : StepCall}

theorem raised_tripped (trip : Option Exc) (ctx : ExecutionContext) :
    raised (trip.elim (.ok ctx) .error) = trip.map Exc.kind := by
  cases trip <;> rfl

/-- The checks look at the numbers of the run alone. -/
theorem tripped_kind {earlier : List StepCall} (h : ctx.steps = numbered earlier) :
    (tripped a v (stepped ctx x) x).map Exc.kind = verdict a v earlier x := by
  have hstr : no_progress_streak (stepped ctx x).steps = streak (earlier ++ [x]) := by
    rw [← no_progress_streak_numbered, numbered_snoc, ← length_numbered earlier, ← h]
    rfl
  unfold tripped verdict
  rw [hstr]
  split_ifs <;> rfl

theorem flagged_steps (trip : Option Exc) (ctx : ExecutionContext) :
    (flagged trip ctx).steps = ctx.steps ∧ (flagged trip ctx).total_tokens = ctx.total_tokens := by
  cases trip with
  | none => exact ⟨rfl, rfl⟩
  | some e =>
      unfold flagged
      dsimp only
      split <;> exact ⟨rfl, rfl⟩

theorem flagged_loop_detected (ctx' : ExecutionContext) :
    (flagged (tripped a v ctx x) ctx').loop_detected = true ↔
      ctx'.loop_detected = true ∨ (tripped a v ctx x).map Exc.kind = some .TokenVelocityError ∨
        (tripped a v ctx x).map Exc.kind = some .LoopDetectedError := by
  unfold tripped
  split_ifs <;> simp [flagged]

theorem flagged_intervention_required (ctx' : ExecutionContext) :
    (flagged (tripped a v ctx x) ctx').intervention_required = true ↔
      ctx'.intervention_required = true ∨
        (tripped a v ctx x).map Exc.kind = some .PendingApprovalError := by
  unfold tripped
  split_ifs <;> simp [flagged]

/-- One more call. -/
theorem Matches.snoc {earlier : List StepCall} {outs : List (Except Exc ExecutionContext)}
    (h : Matches earlier outs ctx) (x : StepCall) :
    Matches (earlier ++ [x])
      (outs ++ [(tripped a v (stepped ctx x) x).elim (.ok (stepped ctx x)) .error])
      (flagged (tripped a v (stepped ctx x) x) (stepped ctx x)) where
  steps := by
    rw [(flagged_steps _ _).1, numbered_snoc, ← length_numbered earlier, ← h.steps]
    rfl
  total_tokens := by
    rw [(flagged_steps _ _).2, List.map_append, List.sum_append, ← h.total_tokens]
    simp [stepped]
  loop_detected := by
    rw [flagged_loop_detected, show (stepped ctx x).loop_detected = ctx.loop_detected from rfl,
      h.loop_detected, ← raised_tripped _ (stepped ctx x)]
    simp only [List.mem_append, List.mem_singleton, or_and_right, exists_or, exists_eq_left]
  intervention_required := by
    rw [flagged_intervention_required,
      show (stepped ctx x).intervention_required = ctx.intervention_required from rfl,
      h.intervention_required, ← raised_tripped _ (stepped ctx x)]
    simp only [List.mem_append, List.mem_singleton, or_and_right, exists_or, exists_eq_left]

end

/-- The context after any calls, whose thresholds are the ones it started with. -/
theorem run_matches (d : LoopDetector) (id : Uuid) (agent_type : String) (xs : List StepCall) :
    ∃ ctx, (final (record id) xs (after (create_context id agent_type d))).contexts id = some ctx ∧
      (final (record id) xs (after (create_context id agent_type d))).max_agent_steps =
        d.max_agent_steps ∧
      (final (record id) xs (after (create_context id agent_type d))).max_token_velocity =
        d.max_token_velocity ∧
      Matches xs (outcomes (record id) xs (after (create_context id agent_type d))) ctx := by
  -- the history grows at its end, so the induction is on the last call
  induction xs using List.reverseRecOn with
  | nil =>
      refine ⟨{ session_id := id, agent_type := agent_type }, put_self d id _, rfl, rfl, ?_⟩
      exact ⟨rfl, rfl, by simp [outcomes], by simp [outcomes]⟩
  | append_singleton xs x ih =>
      obtain ⟨ctx, hctx, hsteps, hvel, hm⟩ := ih
      obtain ⟨hres, hw⟩ := record_run hctx x rfl
      rw [final_snoc, outcomes_snoc, hres]
      exact ⟨_, hw.context, hw.2.1.trans hsteps, hw.2.2.trans hvel, hm.snoc x⟩

/-- **Whole runs of the circuit breaker.**  Whatever the thresholds and the calls, the caller going
on after every exception: each call raises what `verdict` says of the calls up to it, and the
context the calls leave has counted their tokens, numbered their steps from one, and flagged
exactly what was raised; the scan that `record_step` makes is the counter. -/
theorem loop_detector_runs (d : LoopDetector) (id : Uuid) (agent_type : String)
    (xs : List StepCall) :
    (∀ earlier x later, xs = earlier ++ x :: later →
      ((outcomes (record id) xs (after (create_context id agent_type d)))[earlier.length]?).map
        raised = some (verdict d.max_agent_steps d.max_token_velocity earlier x)) ∧
    ∃ ctx, (final (record id) xs (after (create_context id agent_type d))).contexts id = some ctx ∧
      ctx.total_tokens = (xs.map (·.token_delta)).sum ∧
      ctx.steps.map (·.step_number) = (List.range xs.length).map (fun k => (k : ℤ) + 1) ∧
      (ctx.loop_detected = true ↔
        ∃ out ∈ outcomes (record id) xs (after (create_context id agent_type d)),
          raised out = some .TokenVelocityError ∨ raised out = some .LoopDetectedError) ∧
      (ctx.intervention_required = true ↔
        ∃ out ∈ outcomes (record id) xs (after (create_context id agent_type d)),
          raised out = some .PendingApprovalError) ∧
      no_progress_streak ctx.steps = streak xs ∧ streak xs = counter xs := by
  constructor
  · rintro earlier x later rfl
    obtain ⟨ctx, hctx, hsteps, hvel, hm⟩ := run_matches d id agent_type earlier
    obtain ⟨hres, -⟩ := record_run hctx x rfl
    rw [outcomes_at, Option.map_some, hres, raised_tripped, tripped_kind hm.steps, hsteps, hvel]
  · obtain ⟨ctx, hctx, -, -, hm⟩ := run_matches d id agent_type xs
    refine ⟨ctx, hctx, hm.total_tokens, ?_, hm.loop_detected, hm.intervention_required, ?_,
      streak_eq_counter xs⟩
    · rw [hm.steps, step_number_numbered]
    · rw [hm.steps, no_progress_streak_numbered]

/-! ## Restarts -/

/-- A detector some history of calls leads to. -/
inductive Reachable : LoopDetector → Prop
  | init (settings : Settings) (max_agent_steps max_token_velocity : Option ℤ)
      (audit : List AuditEvent) :
      Reachable (LoopDetector.init settings max_agent_steps max_token_velocity audit)
  | create_context {d : LoopDetector} (id : Uuid) (agent_type : String) : Reachable d →
      Reachable (after (create_context id agent_type d))
  | record_step {d : LoopDetector} (id : Uuid) (x : StepCall) : Reachable d →
      Reachable (after (record id x d))
  | restore {d : LoopDetector} (snapshot : ExecutionCheckpoint) : Reachable d →
      Reachable (after (restore snapshot d))

/-- Every context is registered under its own session. -/
def Keyed (d : LoopDetector) : Prop :=
  ∀ id ctx, d.contexts id = some ctx → ctx.session_id = id

theorem Keyed.put {d : LoopDetector} (h : Keyed d) {id : Uuid} {ctx : ExecutionContext}
    (hctx : ctx.session_id = id) : Keyed (d.put id ctx) := by
  intro id' ctx' h'
  by_cases hid : id' = id
  · subst hid
    rw [put_self] at h'
    cases h'
    exact hctx
  · exact h id' ctx' (by simpa [LoopDetector.put, hid] using h')

theorem Keyed.wrote {d d' : LoopDetector} (h : Keyed d) {id : Uuid} {ctx : ExecutionContext}
    (hctx : ctx.session_id = id) (hw : Wrote id ctx d d') : Keyed d' := by
  intro id' ctx' h'
  rw [hw.1] at h'
  exact h.put hctx id' ctx' h'

theorem flagged_session_id (trip : Option Exc) (ctx : ExecutionContext) :
    (flagged trip ctx).session_id = ctx.session_id := by
  cases trip with
  | none => rfl
  | some e =>
      unfold flagged
      dsimp only
      split <;> rfl

/-- A call on an unknown session changes nothing. -/
theorem record_none {d : LoopDetector} {id : Uuid} (h : d.contexts id = none) (x : StepCall) :
    after (record id x d) = d := by
  obtain ⟨e, he, -⟩ := require_context_none h
  unfold record record_step
  rw [bind_error he]
  rfl

/-- What `restore` leaves: a context under the session the snapshot names, or nothing new. -/
theorem restore_after (snapshot : ExecutionCheckpoint) (d : LoopDetector) :
    after (restore snapshot d) = d ∨
      ∃ ctx, after (restore snapshot d) = d.put ctx.session_id ctx := by
  unfold restore Lit.read
  cases snapshot.session_id.val with
  | none => exact .inl rfl
  | some id =>
      cases snapshot.steps.mapM StepSnapshot.record with
      | error e => exact .inl rfl
      | ok steps => exact .inr ⟨⟨id, snapshot.agent_type, steps, snapshot.total_tokens,
          snapshot.loop_detected, snapshot.intervention_required⟩, rfl⟩

theorem Reachable.keyed {d : LoopDetector} (h : Reachable d) : Keyed d := by
  induction h with
  | init settings a v audit =>
      intro id ctx h
      cases h
  | create_context id agent_type _ ih => exact ih.put rfl
  | @record_step d id x _ ih =>
      cases hctx : d.contexts id with
      | none =>
          rw [record_none hctx]
          exact ih
      | some ctx =>
          refine ih.wrote ?_ (record_run hctx x rfl).2
          rw [flagged_session_id]
          exact ih id ctx hctx
  | @restore d snapshot _ ih =>
      obtain he | ⟨ctx, he⟩ := restore_after snapshot d
      · rw [he]
        exact ih
      · rw [he]
        exact ih.put rfl

/-- A step survives its snapshot. -/
theorem record_snapshot (step : StepRecord) : step.snapshot.record = .ok step := by
  unfold StepSnapshot.record StepRecord.snapshot
  rw [LoopSignal.ofValue_value]

theorem mapM_record_snapshot (steps : List StepRecord) :
    (steps.map StepRecord.snapshot).mapM StepSnapshot.record = .ok steps := by
  induction steps with
  | nil => rfl
  | cons step steps ih =>
      rw [List.map_cons, List.mapM_cons, record_snapshot, ih]
      rfl

/-- Restoring the snapshot of a context registers that context. -/
theorem restore_serialize (ctx : ExecutionContext) (d : LoopDetector) :
    restore (serialize ctx) d = .ok ctx (d.put ctx.session_id ctx) := by
  unfold restore serialize
  rw [mapM_record_snapshot]
  rfl

theorem checkpoint_run {d : LoopDetector} {id : Uuid} {ctx : ExecutionContext}
    (h : d.contexts id = some ctx) : checkpoint id d = .ok (serialize ctx) d := by
  unfold checkpoint
  rw [bind_ok (require_context_run h)]
  rfl

/-- A new detector with the thresholds of `d`, restored from `d`'s checkpoint of the session. -/
def restarted (id : Uuid) (d : LoopDetector) : Except Exc LoopDetector :=
  (result (checkpoint id d)).bind fun snapshot =>
    let fresh := init {} (some d.max_agent_steps) (some d.max_token_velocity) d.audit
    (result (restore snapshot fresh)).map fun _ => after (restore snapshot fresh)

/-- Detectors that know the same about one session. -/
structure Alike (id : Uuid) (d d' : LoopDetector) : Prop where
  context : ∃ ctx, d.contexts id = some ctx ∧ d'.contexts id = some ctx ∧ ctx.session_id = id
  max_agent_steps : d'.max_agent_steps = d.max_agent_steps
  max_token_velocity : d'.max_token_velocity = d.max_token_velocity

theorem Alike.sim (id : Uuid) : Sim (record id) (restarted id) (Alike id) where
  call := by
    intro d d' h x
    obtain ⟨ctx, hctx, hctx', hid⟩ := h.context
    obtain ⟨hres, hw⟩ := record_run hctx x rfl
    obtain ⟨hres', hw'⟩ := record_run hctx' x rfl
    rw [h.max_agent_steps, h.max_token_velocity] at hres' hw'
    refine ⟨hres'.trans hres.symm, ⟨_, hw.context, hw'.context, ?_⟩, ?_, ?_⟩
    · rw [flagged_session_id]
      exact hid
    · rw [hw'.2.1, hw.2.1, h.max_agent_steps]
    · rw [hw'.2.2, hw.2.2, h.max_token_velocity]
  restart := by
    intro d d' h
    obtain ⟨ctx, hctx, hctx', hid⟩ := h.context
    unfold restarted
    rw [checkpoint_run hctx']
    show ∃ t', Except.map _ (result (restore (serialize ctx) _)) = _ ∧ _
    rw [restore_serialize]
    refine ⟨_, rfl, ⟨ctx, hctx, ?_, hid⟩, h.max_agent_steps, h.max_token_velocity⟩
    rw [← hid]
    exact put_self _ _ _

/-- **Checkpoints are transparent.**  From a context of any detector a history leads to, any calls
with restarts in any places answer what the calls alone answer and leave the context they leave;
and a snapshot that `checkpoint` takes is the one it takes again wherever it is restored. -/
theorem checkpoint_transparent {d : LoopDetector} (hd : Reachable d) {id : Uuid}
    {ctx : ExecutionContext} (hctx : d.contexts id = some ctx) :
    (∀ items : List (Item StepCall), ∃ d',
      replay (record id) (restarted id) items d =
        .ok (outcomes (record id) (calls items) d, d') ∧
      d'.contexts id = (final (record id) (calls items) d).contexts id) ∧
    ∃ snapshot, checkpoint id d = .ok snapshot d ∧ ∀ e : LoopDetector, ∃ e',
      restore snapshot e = .ok ctx e' ∧ checkpoint id e' = .ok snapshot e' := by
  have hid : ctx.session_id = id := hd.keyed id ctx hctx
  constructor
  · intro items
    obtain ⟨d', hrun, hsame⟩ := replay_eq (Alike.sim id) items ⟨⟨ctx, hctx, hctx, hid⟩, rfl, rfl⟩
    obtain ⟨ctx', hctx₁, hctx₂, -⟩ := hsame.context
    exact ⟨d', hrun, hctx₂.trans hctx₁.symm⟩
  · refine ⟨serialize ctx, checkpoint_run hctx, fun e => ⟨_, restore_serialize ctx e, ?_⟩⟩
    rw [hid]
    exact checkpoint_run (put_self e id ctx)

/-- Two steps allowed, and a context that has none yet. -/
def twoSteps : LoopDetector :=
  after (create_context ⟨"s"⟩ "general" (init {} (some 2) none []))

/-- A restart between a call and the one that trips. -/
theorem twoSteps_transparent : ∃ d',
    replay (record ⟨"s"⟩) (restarted ⟨"s"⟩)
        [.call ⟨3, .NO_PROGRESS, ""⟩, .restart, .call ⟨4, .NO_PROGRESS, ""⟩] twoSteps =
      .ok (outcomes (record ⟨"s"⟩) [⟨3, .NO_PROGRESS, ""⟩, ⟨4, .NO_PROGRESS, ""⟩] twoSteps, d') ∧
    d'.contexts ⟨"s"⟩ =
      (final (record ⟨"s"⟩) [⟨3, .NO_PROGRESS, ""⟩, ⟨4, .NO_PROGRESS, ""⟩] twoSteps).contexts
        ⟨"s"⟩ :=
  (checkpoint_transparent (.create_context ⟨"s"⟩ "general" (.init {} (some 2) none []))
    (put_self _ _ _)).1 _

end AegisOs.LoopDetector
