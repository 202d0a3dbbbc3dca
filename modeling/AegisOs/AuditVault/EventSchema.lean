/-
# `AegisOs.AuditVault.EventSchema` — what the log writes, against its published schema

`docs/audit-event-schema.json` is the contract of the log: every entry is one JSON object,
and a member that the schema does not name makes it invalid.

| | |
| :-- | :-- |
| `audit_event_schema` | the document |
| `Entry.json` | what structlog renders for an entry |
| `current_traceparent` | the text of the active span |

**What is valid.**  In any run of a logger with callers side by side, a warning about the
clock is valid.  An entry of `stage_event` is valid iff its event has a name and every
extra field is one the schema knows, with a value of the type it asks for.  An entry of
`lifecycle_event` is never valid: the schema has a `lifecycle_status` and no `event_type`,
`session_id` or `workflow_status` (`log_valid_iff`).
-/
import AegisOs.Lib.JsonSchema
import AegisOs.AuditVault.Timestamps

namespace AegisOs

open Lib Lib.EState

/-! ## The document -/

namespace EventSchema

open Schema (object)

def string : Schema := .type .string

def strings : Schema := .allOf [.type .array, .items string]

def natural : Schema := .allOf [.type .integer, .minimum 0]

/-- `[0-9a-f]`. -/
def hex (c : Char) : Bool := ('0' ≤ c && c ≤ '9') || ('a' ≤ c && c ≤ 'f')

def literal (s : String) : List (Char → Bool) := s.toList.map fun c d => decide (d = c)

/-- `^00-[0-9a-f]\x7b32\x7d-[0-9a-f]\x7b16\x7d-[0-9a-f]\x7b2\x7d$`. -/
def traceparent_pattern : List (Char → Bool) :=
  literal "00-" ++ (List.replicate 32 hex ++ (literal "-" ++ (List.replicate 16 hex ++
    (literal "-" ++ List.replicate 2 hex))))

def properties : List (String × Schema) :=
  [("event", .allOf [string, .minLength 1]),
    ("level", .allOf [string, .enum ["debug", "info", "warning", "error"]]),
    ("timestamp", string), ("task_id", string), ("agent_type", string), ("requester_id", string),
    ("agent_id", string), ("action", string), ("resource", string), ("outcome", string),
    ("error_message", string), ("pii_types", strings), ("model", string), ("tokens_used", natural),
    ("error", string), ("reasons", strings), ("fields", strings), ("jti", string),
    ("budget_session_id", string), ("token_agent_type", string), ("request_agent_type", string),
    ("message", string), ("workflow_id", string),
    ("metadata", .allOf [.type .object, object [] [] string]), ("sequence_number", natural),
    ("previous_timestamp", string), ("attempted_timestamp", string), ("adjusted_timestamp", string),
    ("skew_ms", natural), ("stage", string),
    ("traceparent", .allOf [string, .pattern traceparent_pattern]),
    ("lifecycle_status", .allOf [string, .enum ["started", "retried", "pending-approval",
      "approved", "denied", "completed", "failed"]])]

def audit_event_schema : Schema :=
  .allOf [.type .object, object ["event", "level", "timestamp"] properties .never]

/-- A member the schema allows. -/
def Allows (name : String) (v : Json) : Prop :=
  (Schema.member properties .never name).valid v = true

instance (name : String) (v : Json) : Decidable (Allows name v) :=
  inferInstanceAs (Decidable (_ = true))

theorem valid_iff {members : List (String × Json)} :
    audit_event_schema.valid (.obj members) = true ↔
      (∀ k ∈ ["event", "level", "timestamp"], k ∈ members.map Prod.fst) ∧
        ∀ kv ∈ members, Allows kv.1 kv.2 := by
  unfold audit_event_schema
  rw [Schema.valid_allOf_cons, Schema.valid_allOf_cons, Schema.valid_allOf_nil, Bool.and_true,
    Bool.and_eq_true, Schema.valid_object_iff]
  exact and_iff_right rfl

end EventSchema

/-! ## The text of a span -/

/-- A span context of OpenTelemetry. -/
structure SpanContext where
  trace_id : ℕ
  span_id : ℕ
  trace_flags : ℕ

/-- `SpanContext.is_valid`: ids of 128 and of 64 bits that are not zero. -/
def SpanContext.is_valid (ctx : SpanContext) : Bool :=
  decide (0 < ctx.trace_id ∧ ctx.trace_id < 2 ^ 128 ∧ 0 < ctx.span_id ∧ ctx.span_id < 2 ^ 64)

/-- `f"\x7bn:0wx\x7d"`. -/
def hex_padded (w n : ℕ) : List Char := List.leftpad w '0' (Nat.toDigits 16 n)

/-- `_current_traceparent`. -/
def current_traceparent (ctx : SpanContext) : String :=
  if ctx.is_valid = true then
    String.ofList ("00-".toList ++ (hex_padded 32 ctx.trace_id ++ ("-".toList ++
      (hex_padded 16 ctx.span_id ++ ("-".toList ++
        (if ctx.trace_flags % 2 = 1 then "01".toList else "00".toList))))))
  else "00-00000000000000000000000000000000-0000000000000000-00"

theorem hex_of_mem_toDigits {n : ℕ} :
    ∀ {c : Char}, c ∈ Nat.toDigits 16 n → EventSchema.hex c = true := by
  have hdigit : ∀ d < 16, EventSchema.hex (Nat.digitChar d) = true := by decide
  induction n using Nat.strong_induction_on with
  | _ n ih =>
      intro c hc
      by_cases hlt : n < 16
      · rw [Nat.toDigits_of_lt_base hlt, List.mem_singleton] at hc
        exact hc ▸ hdigit n hlt
      · rw [Nat.toDigits_of_base_le (by decide) (not_lt.mp hlt), List.mem_append,
          List.mem_singleton] at hc
        obtain hc | rfl := hc
        · exact ih _ (by omega) hc
        · exact hdigit _ (Nat.mod_lt n (by decide))

theorem hex_padded_matches {w n : ℕ} (hw : 0 < w) (hn : n < 16 ^ w) :
    Schema.fullmatch (List.replicate w EventSchema.hex) (hex_padded w n) = true := by
  have hlen : (hex_padded w n).length = w := by
    rw [hex_padded, List.length_leftpad]
    exact max_eq_left ((Nat.length_toDigits_le_iff (by decide) hw).mpr hn)
  have hall : ∀ c ∈ hex_padded w n, EventSchema.hex c = true := by
    intro c hc
    unfold hex_padded List.leftpad at hc
    obtain hc | hc := List.mem_append.mp hc
    · rw [List.eq_of_mem_replicate hc]
      decide
    · exact hex_of_mem_toDigits hc
  have hmatch := Schema.fullmatch_replicate hall
  rwa [hlen] at hmatch

/-- **The text of every span has the published form.** -/
theorem traceparent_matches (ctx : SpanContext) :
    Schema.fullmatch EventSchema.traceparent_pattern (current_traceparent ctx).toList = true := by
  unfold current_traceparent
  split
  · rename_i hv
    unfold SpanContext.is_valid at hv
    obtain ⟨-, htrace, -, hspan⟩ := decide_eq_true_eq.mp hv
    rw [String.toList_ofList]
    refine Schema.fullmatch_append (Schema.fullmatch_self _) ?_
    refine Schema.fullmatch_append
      (hex_padded_matches (by decide) (by norm_num at htrace ⊢; exact htrace)) ?_
    refine Schema.fullmatch_append (Schema.fullmatch_self _) ?_
    refine Schema.fullmatch_append
      (hex_padded_matches (by decide) (by norm_num at hspan ⊢; exact hspan)) ?_
    refine Schema.fullmatch_append (Schema.fullmatch_self _) ?_
    split <;> decide
  · decide +kernel

/-! ## The text of an entry -/

/-- How Python shows what the model keeps as data: `str` of a message, and
`int(skew.total_seconds() * 1000)`, which goes through a float. -/
structure Rendering where
  text : Text → String
  skew_ms : ℤ → ℤ
  skew_nonneg : ∀ skew, 0 ≤ skew → 0 ≤ skew_ms skew

def Level.text : Level → String
  | .info => "info"
  | .warning => "warning"
  | .error => "error"

namespace Rendering

variable (r : Rendering)

def field : Field → Json
  | .str s => .str s
  | .strs l => .arr (l.map .str)
  | .int n => .num n
  | .text t => .str (r.text t)

/-- The value of a field; the one duration there is stands under `skew_ms`. -/
def value (name : String) : Value → Json
  | .field f => r.field f
  | .number n => .num (n : ℚ)
  | .time t =>
      if name = "skew_ms" then .num (r.skew_ms t : ℚ)
      else .str ((written_timestamp t).toOption.getD "")

/-- What a method of structlog is called with, and the level that `add_log_level` puts over a field
of that name. -/
def pairs (e : Entry) : List (String × Json) :=
  e.fields.map (fun kv => (kv.1, r.value kv.1 kv.2)) ++
    [("event", .str e.event), ("level", .str e.level.text)]

/-- The rendered entry; `_add_timestamp_if_missing` reads the clock, which shows `now`. -/
def json (now : ℤ) (e : Entry) : Json :=
  let members := Json.dict (r.pairs e)
  .obj (if "timestamp" ∈ members.map Prod.fst then members
    else members ++ [("timestamp", r.value "timestamp" (.time now))])

end Rendering

/-- The entry conforms to the schema. -/
def Entry.Valid (r : Rendering) (now : ℤ) (e : Entry) : Prop :=
  EventSchema.audit_event_schema.valid (r.json now e) = true

/-- The names of the fields, the event and the level; no two are alike. -/
def Entry.Distinct (e : Entry) : Prop :=
  (e.fields.map Prod.fst ++ ["event", "level"]).Nodup

instance (e : Entry) : Decidable e.Distinct := inferInstanceAs (Decidable (List.Nodup _))

section
variable {r : Rendering} {now : ℤ}

theorem allows_level (l : Level) : EventSchema.Allows "level" (.str l.text) := by
  cases l <;> decide +kernel

theorem allows_event_iff (event : String) :
    EventSchema.Allows "event" (.str event) ↔ event ≠ "" := by
  have hmember : Schema.member EventSchema.properties .never "event" =
      .allOf [EventSchema.string, .minLength 1] := rfl
  unfold EventSchema.Allows
  rw [hmember]
  simp [EventSchema.string, Schema.valid, Schema.validAll, Json.HasType, Nat.one_le_iff_ne_zero]

/-- **When a stamped entry is valid**: its event has a name, and the schema allows every field. -/
theorem Entry.valid_iff {e : Entry} (hd : e.Distinct) (ht : "timestamp" ∈ e.fields.map Prod.fst) :
    e.Valid r now ↔
      e.event ≠ "" ∧ ∀ kv ∈ e.fields, EventSchema.Allows kv.1 (r.value kv.1 kv.2) := by
  have hnames : (r.pairs e).map Prod.fst = e.fields.map Prod.fst ++ ["event", "level"] := by
    simp [Rendering.pairs, Function.comp_def]
  have hdict : Json.dict (r.pairs e) = r.pairs e := Json.dict_of_nodup (hnames ▸ hd)
  have hjson : r.json now e = .obj (r.pairs e) := by
    unfold Rendering.json
    dsimp only
    rw [hdict, if_pos (by rw [hnames]; exact List.mem_append_left _ ht)]
  unfold Entry.Valid
  rw [hjson, EventSchema.valid_iff, hnames]
  constructor
  · rintro ⟨-, hall⟩
    refine ⟨(allows_event_iff _).mp (hall ("event", _) (by simp [Rendering.pairs])), ?_⟩
    intro kv hkv
    exact hall (kv.1, r.value kv.1 kv.2) (List.mem_append_left _ (List.mem_map_of_mem hkv))
  · rintro ⟨hevent, hall⟩
    refine ⟨?_, fun kv hkv => ?_⟩
    · intro k hk
      simp only [List.mem_cons, List.not_mem_nil, or_false] at hk
      obtain rfl | rfl | rfl := hk
      · simp
      · simp
      · exact List.mem_append_left _ ht
    · obtain hkv | hkv := List.mem_append.mp hkv
      · obtain ⟨kv', hmem, rfl⟩ := List.mem_map.mp hkv
        exact hall kv' hmem
      · simp only [List.mem_cons, List.not_mem_nil, or_false] at hkv
        obtain rfl | rfl := hkv
        · exact (allows_event_iff _).mpr hevent
        · exact allows_level _

/-! ## Calls -/

theorem allows_string {name : String}
    (h : Schema.member EventSchema.properties .never name = EventSchema.string) (s : String) :
    EventSchema.Allows name (.str s) := by
  unfold EventSchema.Allows
  rw [h]
  rfl

theorem allows_strings {name : String}
    (h : Schema.member EventSchema.properties .never name = EventSchema.strings) (l : List String) :
    EventSchema.Allows name (.arr (l.map .str)) := by
  unfold EventSchema.Allows
  rw [h, EventSchema.strings, Schema.valid_allOf_cons, Schema.valid_allOf_cons]
  exact Bool.and_eq_true_iff.mpr ⟨rfl, Bool.and_eq_true_iff.mpr ⟨Schema.valid_items_strs l, rfl⟩⟩

theorem allows_natural_iff {name : String}
    (h : Schema.member EventSchema.properties .never name = EventSchema.natural) (n : ℤ) :
    EventSchema.Allows name (.num n) ↔ 0 ≤ n := by
  unfold EventSchema.Allows
  rw [h]
  simp [EventSchema.natural, Schema.valid, Schema.validAll, Json.HasType]

theorem allows_traceparent (ctx : SpanContext) :
    EventSchema.Allows "traceparent" (.str (current_traceparent ctx)) := by
  have hmember : Schema.member EventSchema.properties .never "traceparent" =
      .allOf [EventSchema.string, .pattern EventSchema.traceparent_pattern] := rfl
  unfold EventSchema.Allows
  rw [hmember, Schema.valid_allOf_cons, Schema.valid_allOf_cons, Schema.valid_allOf_nil,
    Bool.and_true]
  simp [EventSchema.string, Schema.valid, Json.HasType, traceparent_matches]

theorem not_allows {name : String} (h : Schema.member EventSchema.properties .never name = .never)
    (v : Json) : ¬EventSchema.Allows name v := by
  unfold EventSchema.Allows
  rw [h]
  exact Bool.false_ne_true

namespace TaskCall

/-- The call is described by the schema. -/
def Described (r : Rendering) : TaskCall → Prop
  | stage_event event _ _ _ _ _ extra _ =>
      event ≠ "" ∧ ∀ kv ∈ extra, EventSchema.Allows kv.1 (r.field kv.2)
  | lifecycle_event _ _ _ _ _ _ _ _ _ _ => False

/-- The `traceparent` is that of a span, and no two fields have one name. -/
structure Regular (call : TaskCall) : Prop where
  traced : ∃ ctx, call.traceparent = current_traceparent ctx
  distinct : ∀ n t, (call.entry n t).Distinct

/-- **When the entry of a call is valid.** -/
theorem entry_valid_iff {call : TaskCall} (h : call.Regular) (n : ℕ) (t : ℤ) :
    (call.entry n t).Valid r now ↔ call.Described r := by
  obtain ⟨⟨ctx, hctx⟩, hdistinct⟩ := h
  cases call with
  | stage_event event outcome stage task_id agent_type override extra traceparent =>
      cases hctx
      rw [Entry.valid_iff (hdistinct n t) (by simp [entry])]
      refine and_congr_right fun _ => ⟨fun hall kv hkv => ?_, fun hall kv hkv => ?_⟩
      · refine hall (kv.1, .field kv.2) (List.mem_append_right _ ?_)
        exact List.mem_map_of_mem (f := fun kv : String × Field => (kv.1, Value.field kv.2)) hkv
      · obtain hkv | hkv := List.mem_append.mp hkv
        · simp only [List.mem_cons, List.not_mem_nil, or_false] at hkv
          obtain rfl | rfl | rfl | rfl | rfl | rfl | rfl := hkv
          · exact allows_string rfl outcome
          · exact allows_string rfl stage
          · exact allows_string rfl task_id
          · exact allows_string rfl agent_type
          · exact (allows_natural_iff rfl n).mpr (Int.natCast_nonneg n)
          · exact allows_traceparent ctx
          · exact allows_string rfl _
        · obtain ⟨kv', hmem, rfl⟩ := List.mem_map.mp hkv
          exact hall kv' hmem
  | lifecycle_event event event_type task_id agent_type session_id workflow_status stage override
      extra traceparent =>
      rw [Entry.valid_iff (hdistinct n t) (by simp [entry])]
      refine iff_of_false (fun hall => ?_) id
      exact not_allows rfl _ (hall.2 ("event_type", str event_type) (by simp [entry]))

end TaskCall

/-- A warning about the clock is valid. -/
theorem skew_warning_valid {call : TaskCall} (h : call.Regular) {w : WarningPayload}
    (hskew : 0 ≤ w.skew) : (AuditLogger.skew_warning call w).Valid r now := by
  obtain ⟨⟨ctx, hctx⟩, -⟩ := h
  have hd : (AuditLogger.skew_warning call w).Distinct := by
    show (["task_id", "agent_type", "stage", "traceparent", "sequence_number", "timestamp",
      "previous_timestamp", "attempted_timestamp", "adjusted_timestamp", "skew_ms", "event",
      "level"] : List String).Nodup
    decide +kernel
  rw [Entry.valid_iff hd (by simp [AuditLogger.skew_warning])]
  refine ⟨by simp [AuditLogger.skew_warning], fun kv hkv => ?_⟩
  simp only [AuditLogger.skew_warning, List.mem_cons, List.not_mem_nil, or_false] at hkv
  obtain rfl | rfl | rfl | rfl | rfl | rfl | rfl | rfl | rfl | rfl := hkv
  · exact allows_string rfl _
  · exact allows_string rfl _
  · exact allows_string rfl _
  · rw [hctx]
    exact allows_traceparent ctx
  · exact (allows_natural_iff rfl w.sequence_number).mpr (Int.natCast_nonneg _)
  · exact allows_string rfl _
  · exact allows_string rfl _
  · exact allows_string rfl _
  · exact allows_string rfl _
  · exact (allows_natural_iff rfl _).mpr (r.skew_nonneg _ hskew)

/-! ## Runs of the logger -/

namespace AuditLogger

/-- An entry that a call with property `P` has written, or the warning it got before it. -/
def By (P : TaskCall → Prop) (e : Entry) : Prop :=
  ∃ call, P call ∧
    ((∃ w, e = skew_warning call w ∧ 0 ≤ w.skew) ∨ ∃ n t, e = call.entry n t)

/-- Who waits and who has been served are calls with property `P`. -/
structure Conf.Calls (P : TaskCall → Prop) (c : Conf) : Prop where
  waiting : ∀ p ∈ c.waiting, P p.1
  handed : ∀ e ∈ c.handed, By P e

theorem reserve_entries {P : TaskCall → Prop} {call : TaskCall} (hcall : P call) {cand : ℤ}
    {l l' : AuditLogger} {n : ℕ} {t : ℤ} {w : Option WarningPayload}
    (hr : reserve call.task_id call.timestamp_override cand l = .ok (n, t, w) l') :
    ∀ e ∈ entries call n t w, By P e := by
  have hentry : By P (call.entry n t) := ⟨call, hcall, .inr ⟨n, t, rfl⟩⟩
  obtain ⟨_, _, _, _, he⟩ | ⟨previous, _, hlt, _, he⟩ | ⟨_, he⟩ :=
    reserve_cases call.task_id call.timestamp_override cand l
  · rw [he] at hr
    cases hr
  · rw [he] at hr
    cases hr
    intro e hmem
    obtain hmem | hmem := List.mem_append.mp hmem
    · refine ⟨call, hcall, .inl ⟨_, by simpa using hmem, ?_⟩⟩
      exact sub_nonneg.mpr hlt.le
    · exact List.mem_singleton.mp hmem ▸ hentry
  · rw [he] at hr
    cases hr
    intro e hmem
    exact List.mem_singleton.mp hmem ▸ hentry

/-- **One act keeps the calls.** -/
theorem Conf.Calls.step {P : TaskCall → Prop} {c : Conf} (h : c.Calls P) {act : Act}
    (hact : ∀ call now, act = .read call now → P call) : (c.step act).Calls P := by
  obtain ⟨call, now, rfl, hstep⟩ | ⟨call, cand, n, t, w, hmem, hr, hsub, hhanded⟩ |
    ⟨-, hsub, hhanded⟩ := c.step_cases act
  · rw [hstep]
    refine ⟨fun p hp => ?_, h.handed⟩
    obtain hp | hp := List.mem_append.mp hp
    · exact h.waiting p hp
    · rw [List.mem_singleton.mp hp]
      exact hact call now rfl
  · refine ⟨fun p hp => h.waiting p (hsub hp), fun e he => ?_⟩
    rw [hhanded] at he
    obtain he | he := List.mem_append.mp he
    · exact h.handed e he
    · exact reserve_entries (h.waiting _ hmem) hr e he
  · exact ⟨fun p hp => h.waiting p (hsub hp), fun e he => h.handed e (hhanded.subset he)⟩

/-- **Any run**: every entry is that of a call that was made. -/
theorem Conf.run_calls {P : TaskCall → Prop} {acts : List Act}
    (h : ∀ call now, Act.read call now ∈ acts → P call) : (Conf.run acts).Calls P := by
  have hinit : Conf.Calls P {} := ⟨by simp, by simp [Conf.handed]⟩
  exact List.foldlRecOn acts Conf.step hinit fun c hc act hact =>
    hc.step fun call now heq => h call now (heq ▸ hact)

end AuditLogger

end

/-- **What the log writes is what the schema describes.**  In any run of a logger, with any number of
callers side by side, every entry is a warning about the clock, and valid, or the entry of a call that
was made, and valid iff the schema describes the call: it is a `stage_event` whose event has a name
and whose extra fields are fields of the schema, with values of their types. -/
theorem log_valid_iff (r : Rendering) (now : ℤ) (acts : List AuditLogger.Act)
    (h : ∀ call clock, .read call clock ∈ acts → call.Regular) :
    ∀ e ∈ (AuditLogger.Conf.run acts).log,
      ∃ call clock, AuditLogger.Act.read call clock ∈ acts ∧
        ((∃ w, e = AuditLogger.skew_warning call w ∧ e.Valid r now) ∨
          ∃ n t, e = call.entry n t ∧ (e.Valid r now ↔ call.Described r)) := by
  intro e he
  have hcalls := AuditLogger.Conf.run_calls
    (P := fun call => call.Regular ∧ ∃ clock, AuditLogger.Act.read call clock ∈ acts)
    fun call clock hmem => ⟨h call clock hmem, clock, hmem⟩
  obtain ⟨call, ⟨hreg, clock, hread⟩, ⟨w, rfl, hskew⟩ | ⟨n, t, rfl⟩⟩ :=
    hcalls.handed e (List.mem_append_left _ he)
  · exact ⟨call, clock, hread, .inl ⟨w, rfl, skew_warning_valid hreg hskew⟩⟩
  · exact ⟨call, clock, hread, .inr ⟨n, t, rfl, TaskCall.entry_valid_iff hreg n t⟩⟩

/-- A rendering that shows no message. -/
def plainRendering : Rendering := ⟨fun _ => "", id, fun _ => id⟩

/-- A stage event and a lifecycle event of one task, by two callers side by side. -/
def published : List AuditLogger.Act :=
  [.read (.stage_event "policy.allowed" "allow" "policy-eval" "t" "general" none []
      (current_traceparent ⟨1, 2, 1⟩)) ⟨5, none⟩,
    .read (.lifecycle_event "task.started" "task.started" "t" "general" none "started"
      "workflow-lifecycle" none [] (current_traceparent ⟨1, 3, 1⟩)) ⟨4, none⟩,
    .reserve 0, .reserve 0, .write 1, .write 1, .write 0]

/-- The entry of the lifecycle event is not valid. -/
theorem lifecycle_not_valid : ∃ e ∈ (AuditLogger.Conf.run published).log,
    e.event = "task.started" ∧ ¬e.Valid plainRendering 0 := by
  have hregular : ∀ call clock, AuditLogger.Act.read call clock ∈ published → call.Regular := by
    intro call clock hmem
    simp only [published, List.mem_cons, AuditLogger.Act.read.injEq, List.not_mem_nil, reduceCtorEq,
      or_false] at hmem
    obtain ⟨rfl, -⟩ | ⟨rfl, -⟩ := hmem
    · refine ⟨⟨_, rfl⟩, fun n t => ?_⟩
      show (["outcome", "stage", "task_id", "agent_type", "sequence_number", "traceparent",
        "timestamp", "event", "level"] : List String).Nodup
      decide +kernel
    · refine ⟨⟨_, rfl⟩, fun n t => ?_⟩
      show (["event_type", "stage", "task_id", "agent_type", "session_id", "workflow_status",
        "sequence_number", "traceparent", "timestamp", "event", "level"] : List String).Nodup
      decide +kernel
  have hstarted : (AuditLogger.Conf.run published).log.any (fun e => e.event = "task.started") =
      true := by decide +kernel
  obtain ⟨e, he, hevent⟩ := List.any_eq_true.mp hstarted
  replace hevent := of_decide_eq_true hevent
  refine ⟨e, he, hevent, fun hvalid => ?_⟩
  obtain ⟨call, clock, hmem, ⟨w, rfl, -⟩ | ⟨n, t, rfl, hiff⟩⟩ :=
    log_valid_iff plainRendering 0 published hregular e he
  · simp [AuditLogger.skew_warning] at hevent
  · have hdescribed := hiff.mp hvalid
    simp only [published, List.mem_cons, AuditLogger.Act.read.injEq, List.not_mem_nil, reduceCtorEq,
      or_false] at hmem
    obtain ⟨rfl, -⟩ | ⟨rfl, -⟩ := hmem
    · simp [TaskCall.entry] at hevent
    · exact hdescribed

end AegisOs
