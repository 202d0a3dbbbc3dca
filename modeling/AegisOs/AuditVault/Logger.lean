/-
# `AegisOs.AuditVault.Logger` — numbered, stamped audit entries

`logger.py`.  A task-scoped call gets a sequence number and a timestamp from
the logger, both per task, and hands an entry on to the log.  A clock that has
gone back is clamped to the task's last timestamp and costs a second entry, the
warning, which takes a number of its own; an explicit timestamp that goes back
raises.

Three things happen in a call, and only the second is under the lock: the clock
is read, the number and the timestamp are reserved, the entries are written.
`Conf` is a logger with callers at each of these points, and `Conf.step` lets
any of them go on, so that a run is any interleaving.

A `datetime` is a number of microseconds, which is what the written timestamp
shows in full.  An entry is the dictionary the code builds: the extra fields
come last and win over a field of the same name.
-/
import AegisOs.Basic

namespace AegisOs

open Lib

/-! ## Timestamps and entries -/

/-- `datetime`: the microseconds it shows, and its zone's offset if it has one. -/
structure Datetime where
  wall : ℤ
  offset : Option ℤ := none
  deriving DecidableEq

/-- `_normalize_timestamp`: a naive value is taken as UTC. -/
def normalize_timestamp (t : Datetime) : ℤ := t.wall - t.offset.getD 0

/-- The value of a field of an entry. -/
inductive Value where
  | field (f : Field)
  | number (n : ℕ)
  | time (t : ℤ)
  deriving DecidableEq

inductive Level where
  | info | warning | error
  deriving DecidableEq

/-- What is written to the log. -/
structure Entry where
  level : Level
  event : String
  fields : List (String × Value)
  deriving DecidableEq

/-- A field of the dictionary: the last one of the name. -/
def Entry.get (e : Entry) (name : String) : Option Value := e.fields.reverse.lookup name

def Entry.task_id (e : Entry) : Option String :=
  match e.get "task_id" with
  | some (.field (.str s)) => some s
  | _ => none

def Entry.sequence_number (e : Entry) : Option ℕ :=
  match e.get "sequence_number" with
  | some (.number n) => some n
  | _ => none

def Entry.timestamp (e : Entry) : Option ℤ :=
  match e.get "timestamp" with
  | some (.time t) => some t
  | _ => none

/-! ## Calls -/

/-- A call of `stage_event` or `lifecycle_event`, with the `traceparent` of the active span. -/
inductive TaskCall where
  | stage_event (event outcome stage task_id agent_type : String)
      (timestamp_override : Option Datetime) (extra : List (String × Field)) (traceparent : String)
  | lifecycle_event (event event_type task_id agent_type : String) (session_id : Option String)
      (workflow_status stage : String) (timestamp_override : Option Datetime)
      (extra : List (String × Field)) (traceparent : String)
  deriving DecidableEq

namespace TaskCall

def task_id : TaskCall → String
  | stage_event _ _ _ task_id _ _ _ _ => task_id
  | lifecycle_event _ _ task_id _ _ _ _ _ _ _ => task_id

def agent_type : TaskCall → String
  | stage_event _ _ _ _ agent_type _ _ _ => agent_type
  | lifecycle_event _ _ _ agent_type _ _ _ _ _ _ => agent_type

def stage : TaskCall → String
  | stage_event _ _ stage _ _ _ _ _ => stage
  | lifecycle_event _ _ _ _ _ _ stage _ _ _ => stage

def timestamp_override : TaskCall → Option Datetime
  | stage_event _ _ _ _ _ timestamp_override _ _ => timestamp_override
  | lifecycle_event _ _ _ _ _ _ _ timestamp_override _ _ => timestamp_override

def extra : TaskCall → List (String × Field)
  | stage_event _ _ _ _ _ _ extra _ => extra
  | lifecycle_event _ _ _ _ _ _ _ _ extra _ => extra

def traceparent : TaskCall → String
  | stage_event _ _ _ _ _ _ _ traceparent => traceparent
  | lifecycle_event _ _ _ _ _ _ _ _ _ traceparent => traceparent

/-- The names the logger fills in itself. -/
def reserved : List String :=
  ["outcome", "event_type", "stage", "task_id", "agent_type", "session_id", "workflow_status",
    "sequence_number", "traceparent", "timestamp"]

/-- The extra fields leave those names alone. -/
def Plain (call : TaskCall) : Prop := ∀ kv ∈ call.extra, kv.1 ∉ reserved

def str (s : String) : Value := .field (.str s)

/-- `**kwargs`. -/
def kwargs (extra : List (String × Field)) : List (String × Value) :=
  extra.map fun kv => (kv.1, .field kv.2)

/-- The entry of a call, once it has its number and its timestamp. -/
def entry (call : TaskCall) (sequence_number : ℕ) (timestamp : ℤ) : Entry :=
  match call with
  | stage_event event outcome stage task_id agent_type _ extra traceparent =>
      { level := if outcome = "error" then .error else if outcome = "deny" then .warning else .info
        event := event
        fields := [("outcome", str outcome), ("stage", str stage), ("task_id", str task_id),
          ("agent_type", str agent_type), ("sequence_number", .number sequence_number),
          ("traceparent", str traceparent), ("timestamp", .time timestamp)] ++
          kwargs extra }
  | lifecycle_event event event_type task_id agent_type session_id workflow_status stage _ extra
      traceparent =>
      { level := if event_type = "task.failed" then .error
          else if event_type = "task.denied" then .warning else .info
        event := event
        fields := [("event_type", str event_type), ("stage", str stage), ("task_id", str task_id),
          ("agent_type", str agent_type), ("session_id", str (session_id.getD "")),
          ("workflow_status", str workflow_status),
          ("sequence_number", .number sequence_number), ("traceparent", str traceparent),
          ("timestamp", .time timestamp)] ++
          kwargs extra }

end TaskCall

/-! ## The logger -/

/-- `AuditLogger`: both tables are keyed on the task. -/
structure AuditLogger where
  seq_counters : String → ℕ
  last_timestamps : String → Option ℤ

/-- `warning_payload`; `skew` is the difference that `skew_ms` shows in whole milliseconds. -/
structure WarningPayload where
  sequence_number : ℕ
  timestamp : ℤ
  previous_timestamp : ℤ
  attempted_timestamp : ℤ
  adjusted_timestamp : ℤ
  skew : ℤ
  deriving DecidableEq

namespace AuditLogger

/-- `AuditLogger.__init__`. -/
def init : AuditLogger := ⟨fun _ => 0, fun _ => none⟩

/-- `self._seq_counters[task_id] += 1`, and the number before. -/
def next_number (task_id : String) : EStateM Exc AuditLogger ℕ := do
  let sequence_number := (← get).seq_counters task_id
  modify fun l => { l with
    seq_counters := Function.update l.seq_counters task_id (sequence_number + 1) }
  return sequence_number

/-- The candidate of `_reserve_task_event_metadata`, taken before the lock. -/
def candidate (timestamp_override : Option Datetime) (now : Datetime) : ℤ :=
  normalize_timestamp (timestamp_override.getD now)

def ordering_error (task_id : String) : Exc where
  kind := .AuditOrderingError
  msg := [.lit "Cannot emit audit event with timestamp earlier than the previous event for task_id=",
    .repr task_id]

/-- The part of `_reserve_task_event_metadata` under the lock. -/
def reserve (task_id : String) (timestamp_override : Option Datetime) (candidate : ℤ) :
    EStateM Exc AuditLogger (ℕ × ℤ × Option WarningPayload) := do
  let previous := (← get).last_timestamps task_id
  if timestamp_override.isSome && previous.any (candidate < ·) then
    throw (ordering_error task_id)
  let (effective, warning_payload) ←
    match previous with
    | some previous =>
        if timestamp_override.isNone ∧ candidate < previous then do
          let warning_sequence_number ← next_number task_id
          pure (previous, some (WarningPayload.mk warning_sequence_number previous previous
            candidate previous (previous - candidate)))
        else pure (candidate, none)
    | none => pure (candidate, none)
  let sequence_number ← next_number task_id
  modify fun l => { l with
    last_timestamps := Function.update l.last_timestamps task_id (some effective) }
  return (sequence_number, effective, warning_payload)

/-- `_emit_clock_skew_warning`. -/
def skew_warning (call : TaskCall) (w : WarningPayload) : Entry where
  level := .warning
  event := "audit.clock_skew_warning"
  fields := [("task_id", .field (.str call.task_id)), ("agent_type", .field (.str call.agent_type)),
    ("stage", .field (.str call.stage)), ("traceparent", .field (.str call.traceparent)),
    ("sequence_number", .number w.sequence_number), ("timestamp", .time w.timestamp),
    ("previous_timestamp", .time w.previous_timestamp),
    ("attempted_timestamp", .time w.attempted_timestamp),
    ("adjusted_timestamp", .time w.adjusted_timestamp), ("skew_ms", .time w.skew)]

/-- The entries a call writes, in order. -/
def entries (call : TaskCall) (sequence_number : ℕ) (timestamp : ℤ)
    (warning_payload : Option WarningPayload) : List Entry :=
  (warning_payload.map (skew_warning call)).toList ++ [call.entry sequence_number timestamp]

/-! ## Callers side by side -/

/-- A logger with callers that have read the clock and wait for the lock, callers that still have
entries to write, and the log. -/
structure Conf where
  logger : AuditLogger := init
  waiting : List (TaskCall × ℤ) := []
  writing : List (List Entry) := []
  log : List Entry := []

/-- What some caller does next. -/
inductive Act where
  /-- A call starts: the clock shows `now`. -/
  | read (call : TaskCall) (now : Datetime)
  /-- A waiting caller gets the lock. -/
  | reserve (i : ℕ)
  /-- A caller writes its next entry. -/
  | write (i : ℕ)

namespace Conf

/-- The entries handed out, written or not. -/
def handed (c : Conf) : List Entry := c.log ++ c.writing.flatten

def step (c : Conf) : Act → Conf
  | .read call now =>
      { c with waiting := c.waiting ++ [(call, candidate call.timestamp_override now)] }
  | .reserve i =>
      match c.waiting[i]? with
      | none => c
      | some (call, candidate) =>
          match AuditLogger.reserve call.task_id call.timestamp_override candidate c.logger with
          | .ok (sequence_number, timestamp, warning_payload) logger =>
              { c with
                logger := logger
                waiting := c.waiting.eraseIdx i
                writing := c.writing ++ [entries call sequence_number timestamp warning_payload] }
          | .error _ logger => { c with logger := logger, waiting := c.waiting.eraseIdx i }
  | .write i =>
      match c.writing[i]? with
      | some (entry :: rest) =>
          { c with writing := c.writing.set i rest, log := c.log ++ [entry] }
      | _ => c

/-- Any run, from a new logger. -/
def run (acts : List Act) : Conf := acts.foldl step {}

end Conf

end AuditLogger

end AegisOs
