/-
# `AegisOs.Watchdog.LoopDetector` — the circuit breaker

`loop_detector.py`: one execution context per session, a list of steps, and
three checks on every step, in the source's order (velocity, then a request
for a human, then the streak of steps without progress).
-/
import AegisOs.Basic

namespace AegisOs

open Lib

/-- `LoopSignal`. -/
inductive LoopSignal where
  | PROGRESS | NO_PROGRESS | HUMAN_REQUIRED
  deriving DecidableEq

def LoopSignal.value : LoopSignal → String
  | .PROGRESS => "progress"
  | .NO_PROGRESS => "no_progress"
  | .HUMAN_REQUIRED => "human_intervention_required"

/-- `LoopSignal(text)`. -/
def LoopSignal.ofValue (text : String) : Option LoopSignal :=
  if text = "progress" then some .PROGRESS
  else if text = "no_progress" then some .NO_PROGRESS
  else if text = "human_intervention_required" then some .HUMAN_REQUIRED
  else none

theorem LoopSignal.ofValue_value (s : LoopSignal) : LoopSignal.ofValue s.value = some s := by
  cases s <;> rfl

structure StepRecord where
  step_number : ℤ
  token_delta : ℤ
  signal : LoopSignal
  description : String := ""
  deriving DecidableEq

structure ExecutionContext where
  session_id : Uuid
  agent_type : String
  steps : List StepRecord := []
  total_tokens : ℤ := 0
  loop_detected : Bool := false
  intervention_required : Bool := false
  deriving DecidableEq

/-- `_StepSnapshot`. -/
structure StepSnapshot where
  step_number : ℤ
  token_delta : ℤ
  signal : String
  description : String
  deriving DecidableEq

/-- `ExecutionCheckpoint`. -/
structure ExecutionCheckpoint where
  session_id : Lit Uuid
  agent_type : String
  total_tokens : ℤ
  loop_detected : Bool
  intervention_required : Bool
  steps : List StepSnapshot

def StepRecord.snapshot (step : StepRecord) : StepSnapshot where
  step_number := step.step_number
  token_delta := step.token_delta
  signal := step.signal.value
  description := step.description

/-- A step read back; a text that is no signal raises. -/
def StepSnapshot.record (step : StepSnapshot) : Except Exc StepRecord :=
  match LoopSignal.ofValue step.signal with
  | some signal => .ok ⟨step.step_number, step.token_delta, signal, step.description⟩
  | none => .error ⟨.ValueError, [.repr step.signal, .lit " is not a valid LoopSignal"]⟩

structure LoopDetector where
  max_agent_steps : ℤ
  max_token_velocity : ℤ
  contexts : Uuid → Option ExecutionContext
  audit : List AuditEvent

abbrev LD : Type → Type := EStateM Exc LoopDetector

namespace LoopDetector

/-- `LoopDetector.__init__`. -/
def init (settings : Settings) (max_agent_steps max_token_velocity : Option ℤ)
    (audit : List AuditEvent) : LoopDetector where
  max_agent_steps := max_agent_steps.getD settings.max_agent_steps
  max_token_velocity := max_token_velocity.getD settings.max_token_velocity
  contexts := fun _ => none
  audit := audit

def put (d : LoopDetector) (session_id : Uuid) (ctx : ExecutionContext) : LoopDetector :=
  { d with contexts := Function.update d.contexts session_id (some ctx) }

def log (d : LoopDetector) (event : AuditEvent) : LoopDetector :=
  { d with audit := d.audit ++ [event] }

/-- `_get_context`. -/
def require_context (session_id : Uuid) : LD ExecutionContext := do
  match (← get).contexts session_id with
  | some ctx => return ctx
  | none => throw ⟨.KeyError,
      [.lit "Execution context ", .lit session_id.text, .lit " not found"]⟩

/-- `create_context`. -/
def create_context (session_id : Uuid) (agent_type : String) : LD ExecutionContext := do
  let ctx : ExecutionContext := { session_id := session_id, agent_type := agent_type }
  modify fun d => (d.put session_id ctx).log (.info "loop_detector.context_created"
    [("session_id", .str session_id.text), ("agent_type", .str agent_type)])
  return ctx

/-- `_no_progress_streak`. -/
def no_progress_streak (steps : List StepRecord) : ℕ :=
  (steps.reverse.takeWhile (fun step => decide (step.signal = .NO_PROGRESS))).length

/-- `record_step`: the step stays recorded where a check raises. -/
def record_step (session_id : Uuid) (token_delta : ℤ) (signal : LoopSignal)
    (description : String) : LD ExecutionContext := do
  let ctx ← require_context session_id
  let d ← get
  let step_number := ctx.steps.length + 1
  let ctx := { ctx with
    steps := ctx.steps ++ [⟨step_number, token_delta, signal, description⟩]
    total_tokens := ctx.total_tokens + token_delta }
  modify (·.put session_id ctx)
  let who : List (String × Field) :=
    [("session_id", .str session_id.text), ("agent_type", .str ctx.agent_type),
      ("step", .int step_number)]
  if d.max_token_velocity < token_delta then
    modify fun d => (d.put session_id { ctx with loop_detected := true }).log
      (.warning "loop.detected" ([("reason", .str "token_velocity_exceeded")] ++ who ++
        [("token_delta", .int token_delta), ("max_token_velocity", .int d.max_token_velocity)]))
    throw ⟨.TokenVelocityError,
      [.lit "Token velocity exceeded on step ", .int step_number, .lit ": ", .int token_delta,
        .lit " > ", .int d.max_token_velocity]⟩
  if signal = .HUMAN_REQUIRED then
    modify fun d => (d.put session_id { ctx with intervention_required := true }).log
      (.warning "loop.pending_approval" who)
    throw ⟨.PendingApprovalError,
      [.lit "Agent requested human intervention on step ", .int step_number]⟩
  let streak := no_progress_streak ctx.steps
  if d.max_agent_steps ≤ streak then
    modify fun d => (d.put session_id { ctx with loop_detected := true }).log
      (.warning "loop.detected" ([("reason", .str "no_progress_streak")] ++ who ++
        [("streak", .int streak), ("max_agent_steps", .int d.max_agent_steps)]))
    throw ⟨.LoopDetectedError,
      [.lit "No progress after ", .int streak, .lit " consecutive steps (max=",
        .int d.max_agent_steps, .lit ")"]⟩
  return ctx

/-- `get_context`. -/
def get_context (session_id : Uuid) : LD (Option ExecutionContext) := do
  return (← get).contexts session_id

/-- The snapshot of a context; `UUID(str(u))` is `u`. -/
def serialize (ctx : ExecutionContext) : ExecutionCheckpoint where
  session_id := ⟨ctx.session_id.text, some ctx.session_id⟩
  agent_type := ctx.agent_type
  total_tokens := ctx.total_tokens
  loop_detected := ctx.loop_detected
  intervention_required := ctx.intervention_required
  steps := ctx.steps.map StepRecord.snapshot

/-- `checkpoint`. -/
def checkpoint (session_id : Uuid) : LD ExecutionCheckpoint := do
  return serialize (← require_context session_id)

/-- `restore`: nothing is registered when a text does not parse. -/
def restore (snapshot : ExecutionCheckpoint) : LD ExecutionContext := do
  let session_id ← snapshot.session_id.read .ValueError
  let steps ← MonadExcept.ofExcept (snapshot.steps.mapM StepSnapshot.record)
  let ctx : ExecutionContext :=
    { session_id := session_id
      agent_type := snapshot.agent_type
      steps := steps
      total_tokens := snapshot.total_tokens
      loop_detected := snapshot.loop_detected
      intervention_required := snapshot.intervention_required }
  modify (·.put session_id ctx)
  return ctx

end LoopDetector

end AegisOs
