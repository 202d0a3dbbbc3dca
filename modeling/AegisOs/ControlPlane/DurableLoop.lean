/-
# `AegisOs.ControlPlane.DurableLoop` — the circuit breaker as an activity

`LoopRecordStep` keeps nothing between executions: the caller hands it the last
checkpoint it was given, and gets a new one back.  An execution that raises
hands none back, so the caller still holds the one before it, and the step that
tripped is in neither.  The in-memory detector records that step
(`record_run`), so the two part at the step after a trip:

    they agree, step by step, iff no step before the last one trips
                                                  (`durable_loop_agrees_iff`)

The condition is on the steps: their tokens, signals and streaks.
-/
import AegisOs.ControlPlane.Activities
import AegisOs.Watchdog.LoopRuns

namespace AegisOs.AegisActivities

open Lib Lib.EState
open LoopDetector (StepCall record stepped tripped flagged streak verdict raised)

variable {Tok : Type}

/-! ## What a caller sees of a step -/

/-- The outcome of a step (nothing where it returned, else the name of the exception), and the
numbers reported with it. -/
structure Observed where
  outcome : Option String
  step_count : ℤ
  total_tokens : ℤ
  deriving DecidableEq

/-- The in-memory steps: the numbers are those of the context a step leaves. -/
def memorySteps (id : Uuid) : List StepCall → LoopDetector → List (Option Observed)
  | [], _ => []
  | x :: xs, d =>
      ((after (record id x d)).contexts id).map (fun ctx =>
        ⟨(raised (result (record id x d))).map ExcKind.name, ctx.steps.length, ctx.total_tokens⟩) ::
      memorySteps id xs (after (record id x d))

/-- The numbers at the end of the message of a step that tripped. -/
def reported (e : Exc) : Option Observed :=
  match e.msg.reverse with
  | .lit "]" :: .int total_tokens :: .lit " total_tokens=" :: .int step_count ::
      .lit " [step_count=" :: _ => some ⟨some e.kind.name, step_count, total_tokens⟩
  | _ => none

/-- What stays the same from step to step. -/
structure LoopTask where
  task_id : String
  agent_type : String
  session_id : Uuid
  max_agent_steps : Option ℤ
  max_token_velocity : Option ℤ

/-- The input of one `LoopRecordStep`. -/
def LoopTask.input (T : LoopTask) (x : StepCall) (checkpoint : Option ExecutionCheckpoint) :
    LoopRecordInput where
  task_id := T.task_id
  agent_type := T.agent_type
  loop_session_id := ⟨T.session_id.text, some T.session_id⟩
  token_delta := x.token_delta
  signal := x.signal
  description := x.description
  checkpoint := checkpoint
  max_agent_steps := T.max_agent_steps
  max_token_velocity := T.max_token_velocity

/-- The durable steps, each on whatever worker it is placed: the caller goes on with the checkpoint
it was last given. -/
def durableSteps (A : AegisActivities Tok) (T : LoopTask) :
    List (World Tok × StepCall) → Option ExecutionCheckpoint → List (Option Observed)
  | [], _ => []
  | (w, x) :: xs, checkpoint =>
      match A.loop_record_step (T.input x checkpoint) w with
      | .ok res _ => some ⟨none, res.step_count, res.total_tokens⟩ ::
          durableSteps A T xs (some res.checkpoint)
      | .error e _ => reported e :: durableSteps A T xs checkpoint

/-- The in-memory detector the durable steps are compared with. -/
def LoopTask.detector (T : LoopTask) (A : AegisActivities Tok) (audit : List AuditEvent) :
    LoopDetector :=
  after (LoopDetector.create_context T.session_id T.agent_type
    (LoopDetector.init A.env.settings T.max_agent_steps T.max_token_velocity audit))

/-! ## One step -/

/-- The checkpoint holds the context: there is none before the first step. -/
inductive Holds (T : LoopTask) : Option ExecutionCheckpoint → ExecutionContext → Prop
  | first : Holds T none { session_id := T.session_id, agent_type := T.agent_type }
  | later {ctx : ExecutionContext} : ctx.session_id = T.session_id →
      Holds T (some (LoopDetector.serialize ctx)) ctx

theorem Holds.session_id {T : LoopTask} {checkpoint : Option ExecutionCheckpoint}
    {ctx : ExecutionContext} (h : Holds T checkpoint ctx) : ctx.session_id = T.session_id := by
  cases h with
  | first => rfl
  | later hid => exact hid

/-- An exception of the checks is one of the three the activity translates. -/
theorem loop_trip_tripped {a v : ℤ} {ctx : ExecutionContext} {x : StepCall} {e : Exc}
    (h : tripped a v ctx x = some e) : ∃ event, loop_trip e.kind = some (event, e.kind.name) := by
  unfold tripped at h
  split_ifs at h <;> cases h <;> exact ⟨_, rfl⟩

/-- An execution gives its detector the context. -/
theorem opened {T : LoopTask} {checkpoint : Option ExecutionCheckpoint} {ctx : ExecutionContext}
    (h : Holds T checkpoint ctx) (d : LoopDetector) :
    ∃ d₁ : LoopDetector,
      (checkpoint = none ∧ LoopDetector.create_context T.session_id T.agent_type d = .ok ctx d₁ ∨
        ∃ s, checkpoint = some s ∧ LoopDetector.restore s d = .ok ctx d₁) ∧
      d₁.contexts T.session_id = some ctx ∧
      d₁.max_agent_steps = d.max_agent_steps ∧ d₁.max_token_velocity = d.max_token_velocity := by
  cases h with
  | first => exact ⟨_, .inl ⟨rfl, rfl⟩, LoopDetector.put_self d _ _, rfl, rfl⟩
  | later hid =>
      refine ⟨_, .inr ⟨_, rfl, LoopDetector.restore_serialize ctx d⟩, ?_, rfl, rfl⟩
      rw [hid]
      exact LoopDetector.put_self d _ _

/-- **One durable step.** -/
theorem loop_record_step_run (A : AegisActivities Tok) {T : LoopTask} (htask : T.task_id ≠ "")
    {checkpoint : Option ExecutionCheckpoint} {ctx : ExecutionContext} (h : Holds T checkpoint ctx)
    (x : StepCall) (w : World Tok) {trip : Option Exc}
    (htrip : tripped (T.max_agent_steps.getD A.env.settings.max_agent_steps)
      (T.max_token_velocity.getD A.env.settings.max_token_velocity) (stepped ctx x) x = trip) :
    result (A.loop_record_step (T.input x checkpoint) w) =
      trip.elim
        (.ok ⟨LoopDetector.serialize (stepped ctx x), (stepped ctx x).steps.length,
          (stepped ctx x).total_tokens, (stepped ctx x).loop_detected,
          (stepped ctx x).intervention_required⟩)
        (fun e => .error ⟨.ApplicationError e.kind.name true,
          e.str ++ [.lit " [step_count=", .int (stepped ctx x).steps.length,
            .lit " total_tokens=", .int (stepped ctx x).total_tokens, .lit "]"]⟩) := by
  have htask' : require_task_id T.task_id "watchdog.loop-detect" T.agent_type w =
      .ok T.task_id w := by
    unfold require_task_id
    rw [if_neg htask]
    rfl
  obtain ⟨d₁, hopen, hctx, hmax, hvel⟩ := opened h (LoopDetector.init A.env.settings
    T.max_agent_steps T.max_token_velocity w.audit)
  have htrip₁ : tripped d₁.max_agent_steps d₁.max_token_velocity (stepped ctx x) x = trip := by
    rw [hmax, hvel]
    exact htrip
  obtain ⟨hres, hw⟩ := LoopDetector.record_run hctx x htrip₁
  have hctx' := hw.context
  unfold loop_record_step LoopTask.input
  rw [bind_ok htask', bind_ok (show Lit.read _ _ w = .ok T.session_id w from rfl),
    bind_ok (get_run w)]
  dsimp only
  -- the call is the same wherever the context came from
  cases trip with
  | none =>
      have hrec : LoopDetector.record_step T.session_id x.token_delta x.signal x.description d₁ =
          .ok (stepped ctx x) (after (record T.session_id x d₁)) := eq_ok hres
      have hcheck := LoopDetector.checkpoint_run hctx'
      obtain ⟨rfl, hc⟩ | ⟨s, rfl, hc⟩ := hopen
      all_goals
        dsimp only
        rw [bind_ok hc, hrec]
        dsimp only
        rw [bind_ok (modify_run _ _)]
        unfold log
        rw [bind_ok (modify_run _ _), hcheck]
        rfl
  | some e =>
      have hrec : LoopDetector.record_step T.session_id x.token_delta x.signal x.description d₁ =
          .error e (after (record T.session_id x d₁)) := eq_error hres
      obtain ⟨event, he⟩ := loop_trip_tripped htrip
      obtain ⟨hlen, htok⟩ := LoopDetector.flagged_steps (some e) (stepped ctx x)
      obtain ⟨rfl, hc⟩ | ⟨s, rfl, hc⟩ := hopen
      all_goals
        dsimp only
        rw [bind_ok hc, hrec]
        dsimp only
        rw [bind_ok (modify_run _ _), he, hctx']
        dsimp only [Option.elim]
        rw [hlen, htok]
        rfl

/-! ## Whole runs -/

/-- No step but the last one trips: after the steps `pre`, every step that another one follows is
within the velocity, asks for no human, and leaves the streak below the limit. -/
def QuietBeforeLast (max_agent_steps max_token_velocity : ℤ) (pre xs : List StepCall) : Prop :=
  ∀ earlier x later, xs = earlier ++ x :: later → later ≠ [] →
    x.token_delta ≤ max_token_velocity ∧ x.signal ≠ .HUMAN_REQUIRED ∧
      streak (pre ++ earlier ++ [x]) < max_agent_steps

theorem verdict_none_iff {a v : ℤ} {earlier : List StepCall} {x : StepCall} :
    verdict a v earlier x = none ↔
      x.token_delta ≤ v ∧ x.signal ≠ .HUMAN_REQUIRED ∧ streak (earlier ++ [x]) < a := by
  unfold verdict
  split_ifs <;> simp_all

theorem quietBeforeLast_one (a v : ℤ) (pre : List StepCall) (x : StepCall) :
    QuietBeforeLast a v pre [x] := by
  rintro earlier y later h hlater
  cases earlier with
  | nil =>
      cases h
      exact absurd rfl hlater
  | cons z earlier =>
      rw [List.cons_append, List.cons.injEq] at h
      exact absurd h.2.symm (by simp)

theorem quietBeforeLast_cons {a v : ℤ} {pre : List StepCall} {x y : StepCall}
    {xs : List StepCall} :
    QuietBeforeLast a v pre (x :: y :: xs) ↔
      verdict a v pre x = none ∧ QuietBeforeLast a v (pre ++ [x]) (y :: xs) := by
  constructor
  · intro h
    refine ⟨verdict_none_iff.mpr (by simpa using h [] x (y :: xs) rfl (by simp)), ?_⟩
    intro earlier z later he hlater
    have := h (x :: earlier) z later (by rw [he]; rfl) hlater
    simpa using this
  · rintro ⟨hx, h⟩ earlier z later he hlater
    cases earlier with
    | nil =>
        cases he
        simpa using verdict_none_iff.mp hx
    | cons x' earlier =>
        rw [List.cons_append, List.cons.injEq] at he
        obtain ⟨rfl, he⟩ := he
        simpa using h earlier z later he hlater

/-- What is seen of a step made on `ctx`. -/
def seen (trip : Option Exc) (ctx : ExecutionContext) (x : StepCall) : Observed :=
  ⟨trip.map fun e => e.kind.name, (stepped ctx x).steps.length, (stepped ctx x).total_tokens⟩

section
variable {A : AegisActivities Tok} {T : LoopTask} {ctx : ExecutionContext}

theorem memorySteps_cons {d : LoopDetector} (hctx : d.contexts T.session_id = some ctx)
    (x : StepCall) (xs : List StepCall) {trip : Option Exc}
    (htrip : tripped d.max_agent_steps d.max_token_velocity (stepped ctx x) x = trip) :
    ∃ d', LoopDetector.Wrote T.session_id (flagged trip (stepped ctx x)) d d' ∧
      memorySteps T.session_id (x :: xs) d =
        some (seen trip ctx x) :: memorySteps T.session_id xs d' := by
  obtain ⟨hres, hw⟩ := LoopDetector.record_run hctx x htrip
  obtain ⟨hlen, htok⟩ := LoopDetector.flagged_steps trip (stepped ctx x)
  refine ⟨_, hw, ?_⟩
  rw [memorySteps, hw.context, hres, LoopDetector.raised_tripped, Option.map_some, hlen, htok,
    Option.map_map]
  rfl

theorem durableSteps_cons (htask : T.task_id ≠ "") {checkpoint : Option ExecutionCheckpoint}
    (h : Holds T checkpoint ctx) (w : World Tok) (x : StepCall) (xs : List (World Tok × StepCall))
    {trip : Option Exc}
    (htrip : tripped (T.max_agent_steps.getD A.env.settings.max_agent_steps)
      (T.max_token_velocity.getD A.env.settings.max_token_velocity) (stepped ctx x) x = trip) :
    durableSteps A T ((w, x) :: xs) checkpoint =
      some (seen trip ctx x) :: durableSteps A T xs
        (if trip = none then some (LoopDetector.serialize (stepped ctx x)) else checkpoint) := by
  have hrun := loop_record_step_run A htask h x w htrip
  cases trip with
  | none =>
      rw [durableSteps, eq_ok hrun]
      rfl
  | some e =>
      rw [durableSteps, eq_error hrun]
      simp [reported, seen, ExcKind.name]

/-- From a common context, the two agree iff no step but the last one trips. -/
theorem steps_agree_iff (htask : T.task_id ≠ "") {d : LoopDetector}
    {checkpoint : Option ExecutionCheckpoint} {pre : List StepCall}
    (h : Holds T checkpoint ctx) (hctx : d.contexts T.session_id = some ctx)
    (hmax : d.max_agent_steps = T.max_agent_steps.getD A.env.settings.max_agent_steps)
    (hvel : d.max_token_velocity = T.max_token_velocity.getD A.env.settings.max_token_velocity)
    (hpre : ctx.steps = LoopDetector.numbered pre) (xs : List (World Tok × StepCall)) :
    durableSteps A T xs checkpoint = memorySteps T.session_id (xs.map Prod.snd) d ↔
      QuietBeforeLast d.max_agent_steps d.max_token_velocity pre (xs.map Prod.snd) := by
  induction xs generalizing d checkpoint pre ctx with
  | nil =>
      refine ⟨fun _ earlier x later he => ?_, fun _ => rfl⟩
      exact absurd he (by simp)
  | cons wx xs ih =>
      obtain ⟨w, x⟩ := wx
      generalize htrip : tripped d.max_agent_steps d.max_token_velocity (stepped ctx x) x = trip
      obtain ⟨d', hw, hmem⟩ := memorySteps_cons hctx x (xs.map Prod.snd) htrip
      have hdur := durableSteps_cons htask h w x xs (hmax ▸ hvel ▸ htrip)
      rw [List.map_cons, hmem, hdur, List.cons.injEq, eq_self, true_and]
      have hverdict := LoopDetector.tripped_kind (a := d.max_agent_steps)
        (v := d.max_token_velocity) (x := x) hpre
      rw [htrip] at hverdict
      cases xs with
      | nil => exact ⟨fun _ => quietBeforeLast_one _ _ _ _, fun _ => rfl⟩
      | cons wy xs =>
          rw [List.map_cons, quietBeforeLast_cons, ← hverdict]
          cases trip with
          | none =>
              have hid : (stepped ctx x).session_id = T.session_id := h.session_id
              have hsteps : (stepped ctx x).steps = LoopDetector.numbered (pre ++ [x]) := by
                rw [LoopDetector.numbered_snoc, ← LoopDetector.length_numbered pre, ← hpre]
                rfl
              have := ih (Holds.later hid) hw.context (hw.2.1.trans hmax) (hw.2.2.trans hvel) hsteps
              rw [hw.2.1, hw.2.2] at this
              simpa using this
          | some e =>
              -- the step is in the detector and not in the checkpoint: the next one counts apart
              obtain ⟨w', y⟩ := wy
              obtain ⟨d'', -, hmem'⟩ := memorySteps_cons hw.context y (xs.map Prod.snd) rfl
              rw [if_neg (by simp), hmem', durableSteps_cons htask h w' y xs rfl]
              have hlen : (flagged (some e) (stepped ctx x)).steps.length = ctx.steps.length + 1 := by
                rw [(LoopDetector.flagged_steps _ _).1]
                simp [stepped]
              refine ⟨fun he => ?_, fun hq => by simp at hq⟩
              rw [List.cons.injEq, Option.some_inj] at he
              have := congrArg Observed.step_count he.1
              simp [seen, stepped, LoopDetector.flagged_steps] at this

end

/-- **When the durable detector is the in-memory one.**  Whatever the thresholds, the workers the
steps run on and the steps, each the same outcome, step count and token total: exactly when no step
but the last one trips. -/
theorem durable_loop_agrees_iff (A : AegisActivities Tok) (T : LoopTask) (htask : T.task_id ≠ "")
    (audit : List AuditEvent) (xs : List (World Tok × StepCall)) :
    durableSteps A T xs none =
        memorySteps T.session_id (xs.map Prod.snd) (T.detector A audit) ↔
      QuietBeforeLast (T.max_agent_steps.getD A.env.settings.max_agent_steps)
        (T.max_token_velocity.getD A.env.settings.max_token_velocity) [] (xs.map Prod.snd) := by
  have hctx : (T.detector A audit).contexts T.session_id =
      some { session_id := T.session_id, agent_type := T.agent_type } :=
    LoopDetector.put_self _ _ _
  exact steps_agree_iff htask .first hctx rfl rfl rfl xs

/-- Collaborators that do nothing. -/
def idleActivities : AegisActivities SymToken where
  env := symbolicEnv {}
  guardrails := ⟨fun text => .ok ⟨text, []⟩, fun _ => .ok ()⟩
  adapter := { provider_name := "local" }

/-- A task that may make one step without progress. -/
def oneStall : LoopTask := ⟨"t", "general", ⟨"s"⟩, some 2, none⟩

def idleWorld : World SymToken := World.fresh {} (.still 0) fun _ => ""

theorem oneStall_agrees_iff :
    oneStall.task_id ≠ "" ∧
    (durableSteps idleActivities oneStall
          [(idleWorld, ⟨5, .NO_PROGRESS, ""⟩), (idleWorld, ⟨5, .NO_PROGRESS, ""⟩)] none =
        memorySteps ⟨"s"⟩ [⟨5, .NO_PROGRESS, ""⟩, ⟨5, .NO_PROGRESS, ""⟩]
          (oneStall.detector idleActivities []) ↔
      QuietBeforeLast 2 10000 [] [⟨5, .NO_PROGRESS, ""⟩, ⟨5, .NO_PROGRESS, ""⟩]) :=
  ⟨by decide, durable_loop_agrees_iff idleActivities oneStall (by decide) []
    [(idleWorld, ⟨5, .NO_PROGRESS, ""⟩), (idleWorld, ⟨5, .NO_PROGRESS, ""⟩)]⟩

/-- A request for a human between two steps without progress. -/
def requestBetween : List StepCall :=
  [⟨5, .NO_PROGRESS, ""⟩, ⟨5, .HUMAN_REQUIRED, ""⟩, ⟨5, .NO_PROGRESS, ""⟩]

/-- In memory the request breaks the streak, and the third step returns; the checkpoint has lost it,
and the third step is the second of a streak. -/
theorem request_for_human_lost :
    durableSteps idleActivities oneStall (requestBetween.map (idleWorld, ·)) none =
      [some ⟨none, 1, 5⟩, some ⟨some "PendingApprovalError", 2, 10⟩,
        some ⟨some "LoopDetectedError", 2, 10⟩] ∧
    memorySteps ⟨"s"⟩ requestBetween (oneStall.detector idleActivities []) =
      [some ⟨none, 1, 5⟩, some ⟨some "PendingApprovalError", 2, 10⟩, some ⟨none, 3, 15⟩] ∧
    durableSteps idleActivities oneStall (requestBetween.map (idleWorld, ·)) none ≠
      memorySteps ⟨"s"⟩ requestBetween (oneStall.detector idleActivities []) := by
  decide +kernel

end AegisOs.AegisActivities
