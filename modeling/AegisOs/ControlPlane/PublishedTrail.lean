/-
# `AegisOs.ControlPlane.PublishedTrail` — the audit log of the orchestrator is valid

What the runs of `Orchestrator.run` hand to the logger are entries of the automaton of
`ControlPlane.Transcript`.  The rows of its table are finitely many, and each of them is
described by `docs/audit-event-schema.json`: every extra field is one of the schema, under
a value of the type it asks for.  One of the fields is a number, `tokens_used`, which is
what the adapter answered, and the schema asks for more than the adapter's model does: it
may not be negative.  So

    an entry of the log is valid iff it shows no negative `tokens_used`
                                                        (`trail_valid_iff`)

for any number of runs in any interleaving, with any answers, in any order in which the
logger takes the calls, on any readings of its clock.
-/
import AegisOs.AuditVault.EventSchema
import AegisOs.ControlPlane.Transcript

namespace AegisOs

open Lib Lib.EState Lib.Trail

variable {Tok : Type}

/-! ## From an event to a call of the logger -/

def Outcome.value : Outcome → String
  | .allow => "allow"
  | .deny => "deny"
  | .redact => "redact"
  | .error => "error"
  | .retried => "retried"

def LifecycleEvent.value : LifecycleEvent → String
  | .STARTED => "task.started"
  | .RETRIED => "task.retried"
  | .PENDING_APPROVAL => "task.pending_approval"
  | .APPROVED => "task.approved"
  | .DENIED => "task.denied"
  | .COMPLETED => "task.completed"
  | .FAILED => "task.failed"

/-- The numbered call behind an event, in a span. -/
def AuditEvent.call (ctx : SpanContext) : AuditEvent → Option TaskCall
  | .stage_event event outcome stage task_id agent_type extra =>
      some (.stage_event event outcome.value stage task_id agent_type none extra
        (current_traceparent ctx))
  | .lifecycle_event event event_type task_id agent_type session_id workflow_status stage extra =>
      some (.lifecycle_event event event_type.value task_id agent_type session_id workflow_status
        stage none extra (current_traceparent ctx))
  | .info _ _ | .warning _ _ | .error _ _ => none

/-! ## The rows -/

namespace Orchestrator

/-- The fields of the schema that may hold a field of this kind. -/
def names_of_kind : FieldKind → List String
  | .str => ["requester_id", "jti", "budget_session_id", "model"]
  | .text => ["error_message"]
  | .strs => ["pii_types", "reasons", "fields"]
  | .int => ["tokens_used"]

/-- A row whose entries are valid but for the sign of a number. -/
def Signature.Published (sig : Signature) : Prop :=
  sig.event ≠ "" ∧ (∀ kv ∈ sig.extra, kv.1 ∈ names_of_kind kv.2) ∧
    (sig.extra.map Prod.fst).Nodup

instance (sig : Signature) : Decidable sig.Published :=
  inferInstanceAs (Decidable (_ ∧ _ ∧ _))

/-- All rows, of all phases. -/
def all_rows : List (Signature × Phase) :=
  scrub_rows ++ (policy_rows ++ (mask_rows ++ (token_rows ++ (bind_rows ++ (check_rows ++
    (answer_rows ++ (spend_rows ++ (step_rows ++ last_rows))))))))

theorem all_rows_published : ∀ row ∈ all_rows, row.1.Published := by
  decide +kernel

theorem rows_subset (sw : Switches) (ph : Phase) : sw.rows ph ⊆ all_rows := by
  have hall : ∀ sw' : Bool × Bool × Bool, ∀ ph' : Phase,
      (⟨sw'.1, sw'.2.1, sw'.2.2⟩ : Switches).rows ph' ⊆ all_rows := by
    rintro ⟨_ | _, _ | _, _ | _⟩ ph' <;> cases ph' <;> decide +kernel
  exact hall (sw.protect, sw.budget, sw.loop) ph

/-- An entry the automaton reads is one of a row. -/
theorem published_of_next {p : Plan} {ph ph' : Phase} {ev : AuditEvent}
    (h : p.next ph ev = some ph') :
    ∃ event outcome stage extra,
      ev = .stage_event event outcome stage p.task_id p.agent_type extra ∧
      Signature.Published ⟨event, outcome, stage, extra.map fun kv => (kv.1, field_kind kv.2)⟩ := by
  unfold Plan.next at h
  cases ev with
  | stage_event event outcome stage task agent extra =>
      dsimp only at h
      split at h
      · rename_i hown
        obtain ⟨rfl, rfl⟩ := hown
        obtain ⟨l₁, l₂, heq, -⟩ := List.lookup_eq_some_iff.mp h
        have hmem := rows_subset p.switches ph (heq ▸ List.mem_append_right _ List.mem_cons_self)
        exact ⟨event, outcome, stage, extra, rfl, all_rows_published _ hmem⟩
      · cases h
  | lifecycle_event _ _ _ _ _ _ _ _ | info _ _ | warning _ _ | error _ _ => cases h

/-! ## Fields -/

section
variable {r : Rendering} {now : ℤ}

/-- The schema allows a field of a row, unless it is a negative number. -/
theorem allows_field_iff {name : String} {f : Field} (h : name ∈ names_of_kind (field_kind f)) :
    EventSchema.Allows name (r.field f) ↔ ∀ k, f = .int k → 0 ≤ k := by
  cases f with
  | str s =>
      refine iff_of_true ?_ nofun
      simp only [field_kind, names_of_kind, List.mem_cons, List.not_mem_nil, or_false] at h
      obtain rfl | rfl | rfl | rfl := h <;> exact allows_string rfl s
  | strs l =>
      refine iff_of_true ?_ nofun
      simp only [field_kind, names_of_kind, List.mem_cons, List.not_mem_nil, or_false] at h
      obtain rfl | rfl | rfl := h <;> exact allows_strings rfl l
  | int k =>
      obtain rfl := List.mem_singleton.mp h
      rw [show r.field (.int k) = .num k from rfl, allows_natural_iff rfl]
      exact ⟨fun hk k' heq => Field.int.inj heq ▸ hk, fun hall => hall k rfl⟩
  | text t =>
      refine iff_of_true ?_ nofun
      obtain rfl := List.mem_singleton.mp h
      exact allows_string rfl _

/-! ## Entries -/

/-- A number that the entry shows as `tokens_used`. -/
def Shows (e : Entry) (k : ℤ) : Prop := ("tokens_used", Value.field (.int k)) ∈ e.fields

/-- The call of a row. -/
def rowCall (p : Plan) (ctx : SpanContext) (event : String) (outcome : Outcome) (stage : String)
    (extra : List (String × Field)) : TaskCall :=
  .stage_event event outcome.value stage p.task_id p.agent_type none extra (current_traceparent ctx)

/-- The names the logger fills in, and the rows do not use. -/
def filled_in : List String :=
  ["outcome", "stage", "task_id", "agent_type", "sequence_number", "traceparent", "timestamp"]

theorem names_not_filled_in (kind : FieldKind) :
    ∀ name ∈ names_of_kind kind, name ∉ filled_in ++ ["event", "level"] := by
  cases kind <;> decide +kernel

section
variable {p : Plan} {ctx : SpanContext} {event : String} {outcome : Outcome} {stage : String}
  {extra : List (String × Field)}
  (h : Signature.Published ⟨event, outcome, stage, extra.map fun kv => (kv.1, field_kind kv.2)⟩)
include h

theorem rowCall_regular : (rowCall p ctx event outcome stage extra).Regular := by
  obtain ⟨-, hkinds, hnodup⟩ := h
  refine ⟨⟨ctx, rfl⟩, fun n t => ?_⟩
  have hnames : ((extra.map fun kv => (kv.1, field_kind kv.2)).map Prod.fst) =
      extra.map Prod.fst := by
    simp [Function.comp_def]
  have hfields : ((rowCall p ctx event outcome stage extra).entry n t).fields.map Prod.fst =
      filled_in ++ extra.map Prod.fst := by
    simp [rowCall, TaskCall.entry, TaskCall.kwargs, filled_in, Function.comp_def]
  unfold Entry.Distinct
  rw [hfields, List.append_assoc]
  have hnew : ∀ name ∈ extra.map Prod.fst, name ∉ filled_in ++ ["event", "level"] := by
    intro name hname
    obtain ⟨kv, hkv, rfl⟩ := List.mem_map.mp hname
    exact names_not_filled_in _ _ (hkinds (kv.1, field_kind kv.2) (List.mem_map_of_mem hkv))
  have hfilled : (filled_in ++ ["event", "level"]).Nodup := by decide +kernel
  rw [List.nodup_append'] at hfilled ⊢
  refine ⟨hfilled.1, ?_, ?_⟩
  · rw [List.nodup_append']
    refine ⟨hnames ▸ hnodup, hfilled.2.1, fun name hname hlast => ?_⟩
    exact hnew name hname (List.mem_append_right _ hlast)
  · intro name hname hrest
    obtain hextra | hlast := List.mem_append.mp hrest
    · exact hnew name hextra (List.mem_append_left _ hname)
    · exact hfilled.2.2 hname hlast

/-- **When the entry of a row is valid.** -/
theorem rowCall_valid_iff (n : ℕ) (t : ℤ) :
    ((rowCall p ctx event outcome stage extra).entry n t).Valid r now ↔
      ∀ k, Shows ((rowCall p ctx event outcome stage extra).entry n t) k → 0 ≤ k := by
  have hregular : (rowCall p ctx event outcome stage extra).Regular := rowCall_regular h
  obtain ⟨hevent, hkinds, -⟩ := h
  have hkind : ∀ kv ∈ extra, kv.1 ∈ names_of_kind (field_kind kv.2) := fun kv hkv =>
    hkinds (kv.1, field_kind kv.2) (List.mem_map_of_mem hkv)
  have hshows : ∀ k, Shows ((rowCall p ctx event outcome stage extra).entry n t) k ↔
      ("tokens_used", Field.int k) ∈ extra := by
    intro k
    simp [Shows, rowCall, TaskCall.entry, TaskCall.kwargs, TaskCall.str]
  rw [TaskCall.entry_valid_iff hregular]
  constructor
  · rintro ⟨-, hall⟩ k hk
    have hmem := (hshows k).mp hk
    exact (allows_field_iff (hkind _ hmem)).mp (hall _ hmem) k rfl
  · intro hall
    refine ⟨hevent, fun kv hkv => (allows_field_iff (hkind kv hkv)).mpr fun k hk => ?_⟩
    obtain ⟨name, f⟩ := kv
    cases hk
    obtain rfl := List.mem_singleton.mp (hkind _ hkv)
    exact hall k ((hshows k).mpr hkv)

end

end

/-! ## Runs -/

section Pool
variable {ι : Type} [DecidableEq ι] {O : Orchestrator Tok} {rq : ι → OrchestratorRequest Tok}
  {task : ι → Uuid}

/-- What a run of the pool adds to the log are entries of rows. -/
theorem trail_published (htask : ∀ i, (rq i).task_id = some (task i))
    (hinj : Function.Injective task) {w : World Tok} {evs : List (RunEvent Tok ι)}
    {P : RunPool Tok ι} (hr : Co.Pool.Run (poolStart O rq w) evs P) :
    ∃ trail, P.shared.audit = w.audit ++ trail ∧ ∀ ev ∈ trail,
      ∃ (p : Plan) (event : String) (outcome : Outcome) (stage : String) (extra : List (String × Field)),
      ev = .stage_event event outcome stage p.task_id p.agent_type extra ∧
      Signature.Published ⟨event, outcome, stage, extra.map fun kv => (kv.1, field_kind kv.2)⟩ := by
  have hown : ∀ i ph ev ph', (transcript O (rq i) (task i)).next ph ev = some ph' →
      of_task (task i) ev = true ∧ ∀ j ≠ i, of_task (task j) ev = false := by
    intro i ph ev ph' h
    obtain ⟨hmine, hothers⟩ := of_task_of_next h
    exact ⟨hmine, fun j hj => hothers _ fun heq => hj (hinj heq)⟩
  obtain ⟨trail, haudit, howned, hstand⟩ := Pool.stands_of_run hown
    (fun i => follows_run (htask i)) hr
  refine ⟨trail, haudit, fun ev hev => ?_⟩
  obtain ⟨i, hi⟩ := howned ev hev
  obtain ⟨ph, hread, -⟩ := hstand i
  obtain ⟨ph₁, ph₂, hnext⟩ := next_of_mem_read hread (List.mem_filter.mpr ⟨hev, hi⟩)
  exact ⟨_, published_of_next hnext⟩

/-- **The audit log of the orchestrator is valid.**  Any number of runs in any interleaving, with any
answers; a logger that takes the calls for what they add to the log in any order, in any spans and on
any clock.  An entry it writes is valid iff it shows no negative `tokens_used`. -/
theorem trail_valid_iff (htask : ∀ i, (rq i).task_id = some (task i))
    (hinj : Function.Injective task) {w : World Tok} {evs : List (RunEvent Tok ι)}
    {P : RunPool Tok ι} (hr : Co.Pool.Run (poolStart O rq w) evs P) (r : Rendering) (now : ℤ) :
    ∃ trail, P.shared.audit = w.audit ++ trail ∧
      ∀ acts, (∀ call clock, AuditLogger.Act.read call clock ∈ acts →
          ∃ ev ∈ trail, ∃ ctx, ev.call ctx = some call) →
        ∀ e ∈ (AuditLogger.Conf.run acts).log, e.Valid r now ↔ ∀ k, Shows e k → 0 ≤ k := by
  obtain ⟨trail, haudit, hrows⟩ := trail_published htask hinj hr
  refine ⟨trail, haudit, fun acts hacts e he => ?_⟩
  have hcalls : (AuditLogger.Conf.run acts).Calls fun call => ∃ p ctx event outcome stage extra,
      call = rowCall p ctx event outcome stage extra ∧ Signature.Published
        ⟨event, outcome, stage, extra.map fun kv => (kv.1, field_kind kv.2)⟩ := by
    refine AuditLogger.Conf.run_calls fun call clock hread => ?_
    obtain ⟨ev, hev, ctx, hcall⟩ := hacts call clock hread
    obtain ⟨p, event, outcome, stage, extra, rfl, hpub⟩ := hrows ev hev
    exact ⟨p, ctx, event, outcome, stage, extra, (Option.some.inj hcall).symm, hpub⟩
  obtain ⟨_, ⟨p, ctx, event, outcome, stage, extra, rfl, hpub⟩, ⟨w, rfl, hskew⟩ | ⟨n, t, rfl⟩⟩ :=
    hcalls.handed e (List.mem_append_left _ he)
  · refine iff_of_true (skew_warning_valid (rowCall_regular hpub) hskew) fun k hk => ?_
    simp [Shows, AuditLogger.skew_warning] at hk
  · exact rowCall_valid_iff hpub n t

end Pool

/-- Every event of a trail reaches the logger, and the entries are written. -/
def written_out (trail : List AuditEvent) : List AuditLogger.Act :=
  trail.flatMap fun ev => match ev.call ⟨1, 2, 1⟩ with
    | some call => [.read call ⟨0, none⟩, .reserve 0, .write 0]
    | none => []

/-- Two tasks that overlap. -/
theorem twoTranscripts_valid : ∃ trail, twoTranscripts.2.shared.audit = plainWorld.audit ++ trail ∧
    ∀ e ∈ (AuditLogger.Conf.run (written_out trail)).log,
      e.Valid plainRendering 0 ↔ ∀ k, Shows e k → 0 ≤ k := by
  have hrun := Co.Pool.Run.turns (f := plainAnswers) [false, true, false, true, false]
    (Co.Pool.Run.refl (poolStart plainOrchestrator twoTasks plainWorld))
  have htask : ∀ i, (twoTasks i).task_id = some (twoIds i) := fun _ => rfl
  obtain ⟨trail, haudit, hall⟩ := trail_valid_iff htask (by decide) hrun plainRendering 0
  refine ⟨trail, haudit, hall _ fun call clock hread => ?_⟩
  obtain ⟨ev, hev, hact⟩ := List.mem_flatMap.mp hread
  refine ⟨ev, hev, ⟨1, 2, 1⟩, ?_⟩
  cases hcall : ev.call ⟨1, 2, 1⟩ with
  | none =>
      rw [hcall] at hact
      cases hact
  | some call' =>
      rw [hcall] at hact
      simp only [List.mem_cons, AuditLogger.Act.read.injEq, List.not_mem_nil, reduceCtorEq,
        or_false] at hact
      rw [hact.1]

end Orchestrator

end AegisOs
