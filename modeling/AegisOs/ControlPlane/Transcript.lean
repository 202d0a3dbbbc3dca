/-
# `AegisOs.ControlPlane.Transcript` — the audit log of a run as a protocol

The audit entries of a request come in one order, which its switches fix:

    scrubbing → deciding → decided (→ masked) → authorised (→ bound, when protected)
      (→ funded, with a budget session) → answered (→ charged, with a budget session)
      (→ stepped, with a loop session) → sanitised

and there is a refusal out of every phase but the last.  `Switches.rows` is the
table of this automaton: for each phase, the entries that may come next, by their
event, outcome, stage and the kinds of their fields.

`follows_run`: every segment of `Orchestrator.run` is read by the automaton.  So
the entries of each of any number of interleaved runs, picked out of the log they
share by their task id, are a word of it, and the phase the word ends in tells
where the run stands: in `deciding` it awaits the policy engine, in the last phase
before `answered` the adapter, and it has returned exactly in `sanitised`.
-/
import AegisOs.Lib.Trail
import AegisOs.ControlPlane.ConcurrentBudget
import AegisOs.ControlPlane.RefusalRecord

namespace AegisOs.Orchestrator

open Lib Lib.EState Lib.Trail

variable {Tok : Type} {α β : Type}

/-! ## The automaton -/

/-- The kind of an extra field. -/
inductive FieldKind where
  | str | strs | int | text
  deriving DecidableEq

def field_kind : Field → FieldKind
  | .str _ => .str
  | .strs _ => .strs
  | .int _ => .int
  | .text _ => .text

/-- What the automaton reads of a stage event, the task and the agent type apart. -/
structure Signature where
  event : String
  outcome : Outcome
  stage : String
  extra : List (String × FieldKind)
  deriving DecidableEq

inductive Phase where
  | scrubbing | deciding | decided | masked | authorised | bound | funded | answered | charged
  | stepped | sanitised | revoked | refused
  deriving DecidableEq

/-- A run in this phase has a stage to come. -/
def Phase.pending : Phase → Bool
  | .sanitised | .revoked | .refused => false
  | _ => true

/-- Which optional stages a request goes through. -/
structure Switches where
  protect : Bool
  budget : Bool
  loop : Bool

/-- The entry `_span_stage` adds. -/
def error_row (span : String) : Signature × Phase :=
  (⟨"stage.error", .error, span, [("error_message", .text)]⟩, .refused)

def scrub_rows : List (Signature × Phase) :=
  [(⟨"guardrails.pre_sanitize", .allow, "pre-pii-scrub", [("pii_types", .strs)]⟩, .deciding),
    (⟨"guardrails.pre_sanitize", .redact, "pre-pii-scrub", [("pii_types", .strs)]⟩, .deciding),
    error_row "pre-pii-scrub"]

def policy_rows : List (Signature × Phase) :=
  [(⟨"policy.allowed", .allow, "policy-eval", []⟩, .decided),
    (⟨"policy.denied", .deny, "policy-eval", [("requester_id", .str), ("reasons", .strs)]⟩,
      .refused),
    (⟨"policy.opa_unavailable", .error, "policy-eval",
      [("requester_id", .str), ("error_message", .text)]⟩, .refused),
    error_row "policy-eval"]

def mask_rows : List (Signature × Phase) :=
  [(⟨"policy.mask_applied", .redact, "policy-eval", [("fields", .strs)]⟩, .masked),
    error_row "policy-mask"]

/-- The refusal of a revoked token is recorded by the stage, and by `_span_stage` again. -/
def token_rows : List (Signature × Phase) :=
  [(⟨"token.validated", .allow, "jit-token-issue", []⟩, .authorised),
    (⟨"token.issued", .allow, "jit-token-issue", [("jti", .str), ("requester_id", .str)]⟩,
      .authorised),
    (⟨"token.expired", .deny, "jit-token-issue", [("requester_id", .str)]⟩, .refused),
    (⟨"token.scope_violation", .deny, "jit-token-issue", [("requester_id", .str)]⟩, .refused),
    (⟨"token.revoked", .deny, "jit-token-issue", [("requester_id", .str)]⟩, .revoked),
    error_row "jit-token-issue"]

def bind_rows : List (Signature × Phase) :=
  [(⟨"token.sender_constrained_issued", .allow, "jit-token-issue",
      [("jti", .str), ("requester_id", .str)]⟩, .bound),
    error_row "jit-token-issue"]

def check_rows : List (Signature × Phase) :=
  [(⟨"budget.pre_check", .allow, "watchdog.pre-llm", [("budget_session_id", .str)]⟩, .funded),
    (⟨"budget.exceeded", .deny, "watchdog.pre-llm",
      [("budget_session_id", .str), ("error_message", .text)]⟩, .refused),
    error_row "watchdog.pre-llm"]

def answer_rows : List (Signature × Phase) :=
  [(⟨"llm.completed", .allow, "llm-invoke", [("model", .str), ("tokens_used", .int)]⟩, .answered),
    error_row "llm-invoke"]

def spend_rows : List (Signature × Phase) :=
  [(⟨"budget.spend_recorded", .allow, "watchdog.record-spend", []⟩, .charged),
    (⟨"budget.exceeded_on_record", .deny, "watchdog.record-spend", [("error_message", .text)]⟩,
      .refused),
    error_row "watchdog.record-spend"]

def step_rows : List (Signature × Phase) :=
  [(⟨"loop.step_recorded", .allow, "watchdog.loop-detect", []⟩, .stepped),
    (⟨"loop.halted", .deny, "watchdog.loop-detect", [("error_message", .text)]⟩, .refused),
    (⟨"loop.velocity_exceeded", .deny, "watchdog.loop-detect", [("error_message", .text)]⟩,
      .refused),
    (⟨"loop.pending_approval", .deny, "watchdog.loop-detect", [("error_message", .text)]⟩,
      .refused),
    error_row "watchdog.loop-detect"]

def last_rows : List (Signature × Phase) :=
  [(⟨"guardrails.post_sanitize", .allow, "post-sanitize", [("pii_types", .strs)]⟩, .sanitised),
    (⟨"guardrails.post_sanitize", .redact, "post-sanitize", [("pii_types", .strs)]⟩, .sanitised),
    error_row "post-sanitize"]

namespace Switches

variable (sw : Switches)

def before_call : List (Signature × Phase) := if sw.budget then check_rows else answer_rows

def after_spend : List (Signature × Phase) := if sw.loop then step_rows else last_rows

/-- The entries that may come next. -/
def rows : Phase → List (Signature × Phase)
  | .scrubbing => scrub_rows
  | .deciding => policy_rows
  | .decided => mask_rows ++ token_rows
  | .masked => token_rows
  | .authorised => if sw.protect then bind_rows else sw.before_call
  | .bound => sw.before_call
  | .funded => answer_rows
  | .answered => if sw.budget then spend_rows else sw.after_spend
  | .charged => sw.after_spend
  | .stepped => last_rows
  | .revoked => [error_row "jit-token-issue"]
  | .sanitised | .refused => []

/-- The phase with the adapter's credentials at hand. -/
def credentials : Phase := if sw.protect then .bound else .authorised

/-- The phase of the adapter call. -/
def ready : Phase := if sw.budget then .funded else sw.credentials

/-- The phase with the spend accounted for, ... -/
def settled : Phase := if sw.budget then .charged else .answered

/-- ... and the step too. -/
def watched : Phase := if sw.loop then .stepped else sw.settled

theorem rows_authorised (h : sw.protect = true) : sw.rows .authorised = bind_rows := by
  unfold rows
  rw [if_pos h]

theorem rows_credentials : sw.rows sw.credentials = sw.before_call := by
  unfold credentials
  split
  · rfl
  · rename_i h
    unfold rows
    rw [if_neg h]

theorem rows_ready : sw.rows sw.ready = answer_rows := by
  unfold ready
  split
  · rfl
  · rename_i h
    rw [rows_credentials, before_call, if_neg h]

theorem rows_settled : sw.rows sw.settled = sw.after_spend := by
  unfold settled
  split
  · rfl
  · rename_i h
    unfold rows
    rw [if_neg h]

theorem rows_watched : sw.rows sw.watched = last_rows := by
  unfold watched
  split
  · rfl
  · rename_i h
    rw [rows_settled, after_spend, if_neg h]

theorem pending_credentials : sw.credentials.pending = true := by
  unfold credentials
  split <;> rfl

theorem pending_ready : sw.ready.pending = true := by
  unfold ready
  split
  · rfl
  · exact sw.pending_credentials

theorem pending_settled : sw.settled.pending = true := by
  unfold settled
  split <;> rfl

theorem pending_watched : sw.watched.pending = true := by
  unfold watched
  split
  · rfl
  · exact sw.pending_settled

end Switches

/-- What the automaton of a request goes by. -/
structure Plan where
  task_id : String
  agent_type : String
  switches : Switches

/-- The automaton reads the entries of its own request, and no others. -/
def Plan.next (p : Plan) (ph : Phase) : AuditEvent → Option Phase
  | .stage_event event outcome stage task_id agent_type extra =>
      if task_id = p.task_id ∧ agent_type = p.agent_type then
        (p.switches.rows ph).lookup
          ⟨event, outcome, stage, extra.map fun kv => (kv.1, field_kind kv.2)⟩
      else none
  | _ => none

theorem Plan.next_own (p : Plan) (ph : Phase) (event : String) (outcome : Outcome) (stage : String)
    (extra : List (String × Field)) :
    p.next ph (.stage_event event outcome stage p.task_id p.agent_type extra) =
      (p.switches.rows ph).lookup
        ⟨event, outcome, stage, extra.map fun kv => (kv.1, field_kind kv.2)⟩ :=
  if_pos ⟨rfl, rfl⟩

/-- The phase a run raises in: refused, unless the exception is of a class that `_span_stage` takes
for recorded, and no clause has recorded it. -/
def Failed (e : Exc) (ph : Phase) : Prop :=
  ph = .refused ∨ (controlled_exc e.kind = true ∧ ph.pending = true)

/-- How a stage body raises: `_span_stage` has nothing to add, or its entry has a place. -/
def Broke (sw : Switches) (span : String) (e : Exc) (ph : Phase) : Prop :=
  if controlled_exc e.kind then Failed e ph
  else (sw.rows ph).lookup (error_row span).1 = some .refused

/-- Where the stage has recorded nothing yet, it may raise anything. -/
theorem broke_of_pending {sw : Switches} {span : String} {ph : Phase} (hp : ph.pending = true)
    (hrow : (sw.rows ph).lookup (error_row span).1 = some .refused) (e : Exc) :
    Broke sw span e ph := by
  unfold Broke
  split
  · exact .inr ⟨‹_›, hp⟩
  · exact hrow

/-! ## The building blocks -/

section
variable {p : Plan} {ph ph' : Phase} {Q : α → Phase → Prop} {X : Exc → Phase → Prop}
  {span : String} {event : String} {outcome : Outcome} {stage : String}
  {extra : List (String × Field)}

theorem walks_silent {m : WM Tok α} (hm : Silent m) (hx : ∀ e, X e ph) :
    Walks World.audit p.next (fun _ ph' => ph' = ph) X ph m :=
  Walks.silent hm (fun _ => rfl) hx

theorem walks_log {Q : Unit → Phase → Prop}
    (hrow : (p.switches.rows ph).lookup
      ⟨event, outcome, stage, extra.map fun kv => (kv.1, field_kind kv.2)⟩ = some ph')
    (hq : Q () ph') :
    Walks World.audit p.next Q X ph
      (log (.stage_event event outcome stage p.task_id p.agent_type extra) : WM Tok Unit) :=
  Walks.write (fun _ => rfl) (by rw [Plan.next_own, hrow]) hq

/-- An entry, and what follows it. -/
theorem walks_log_then (ph' : Phase) {f : Unit → WM Tok α}
    (hrow : (p.switches.rows ph).lookup
      ⟨event, outcome, stage, extra.map fun kv => (kv.1, field_kind kv.2)⟩ = some ph')
    (hf : Walks World.audit p.next Q X ph' (f ())) :
    Walks World.audit p.next Q X ph
      (log (.stage_event event outcome stage p.task_id p.agent_type extra) >>= f) := by
  refine (walks_log (Q := fun _ ph₁ => ph₁ = ph') hrow rfl).bind ?_
  rintro _ _ rfl
  exact hf

/-- A refusal that the stage records. -/
theorem walks_refuse {e : Exc}
    (hrow : (p.switches.rows ph).lookup
      ⟨event, outcome, stage, extra.map fun kv => (kv.1, field_kind kv.2)⟩ = some .refused)
    (hc : controlled_exc e.kind = true) :
    Walks World.audit p.next Q (Broke p.switches span) ph
      (do log (.stage_event event outcome stage p.task_id p.agent_type extra); throw e :
        WM Tok α) := by
  refine walks_log_then _ hrow (Walks.throw ?_)
  unfold Broke
  rw [if_pos hc]
  exact .inl rfl

theorem walks_stage_error {e : Exc} (h : Broke p.switches span e ph) :
    Walks World.audit p.next Q Failed ph
      (stage_error span p.task_id p.agent_type e : WM Tok α) := by
  unfold stage_error
  unfold Broke at h
  cases hc : controlled_exc e.kind with
  | true =>
      rw [hc, if_pos rfl] at h
      rw [if_neg (by simp)]
      exact Walks.throw h
  | false =>
      rw [hc, if_neg Bool.false_ne_true] at h
      rw [if_pos (by simp)]
      exact walks_log_then _ h (Walks.throw (.inl rfl))

theorem walks_span_stage {m : WM Tok α}
    (hm : Walks World.audit p.next Q (Broke p.switches span) ph m) :
    Walks World.audit p.next Q Failed ph (span_stage span p.task_id p.agent_type m) := by
  refine hm.catching (fun _ _ _ hnone => by cases hnone) ?_
  intro e ph' g hx hg
  cases hg
  exact walks_stage_error hx

end

/-! ## The stages -/

section
variable (O : Orchestrator Tok) (rq : OrchestratorRequest Tok) (task_id : Uuid)

/-- The automaton of a request. -/
def plan : Plan where
  task_id := task_id.text
  agent_type := rq.agent_type
  switches :=
    { protect := rq.protect_outbound_request
      budget := (budget_session O rq).isSome
      loop := (if O.loop_wired then rq.loop_session_id else none).isSome }

theorem walks_pre_sanitize :
    Walks World.audit (plan O rq task_id).next (fun _ ph => ph = .deciding) Failed .scrubbing
      (pre_sanitize O rq task_id) := by
  have hraise : ∀ e, Broke (plan O rq task_id).switches "pre-pii-scrub" e .scrubbing :=
    broke_of_pending rfl rfl
  refine walks_span_stage (p := plan O rq task_id) ?_
  refine (walks_silent (silent_guard _) hraise).bind ?_
  rintro _ _ rfl
  refine (walks_silent (silent_guard _) hraise).bind ?_
  rintro pre_mask _ rfl
  refine walks_log_then .deciding ?_ (Walks.pure rfl)
  unfold mask_outcome
  split <;> rfl

theorem walks_mask_fields (g : Guardrails) (fields : List String) {X : Exc → Phase → Prop}
    {ph : Phase} (hx : ∀ e, X e ph) :
    ∀ m, Walks World.audit (plan O rq task_id).next (fun _ ph' => ph' = ph) X ph
      (mask_fields g fields m : WM Tok MaskResult) := by
  induction fields with
  | nil => exact fun _ => Walks.pure rfl
  | cons field fields ih =>
      intro m
      unfold mask_fields
      refine Walks.ite (fun _ => ?_) (fun _ => ih m)
      refine (walks_silent (silent_guard _) hx).bind ?_
      rintro _ _ rfl
      exact ih _

theorem walks_policy_mask (pr : PolicyResult) (m : MaskResult) :
    Walks World.audit (plan O rq task_id).next (fun _ ph => ph = .decided ∨ ph = .masked) Failed
      .decided (policy_mask O rq task_id pr m) := by
  refine Walks.ite (fun _ => walks_span_stage (p := plan O rq task_id) ?_)
    (fun _ => Walks.pure (.inl rfl))
  refine (walks_mask_fields O rq task_id _ _ (broke_of_pending rfl rfl) m).bind ?_
  rintro _ _ rfl
  exact walks_log_then .masked rfl (Walks.pure (.inr rfl))

section
variable {ph : Phase} (hph : ph = .decided ∨ ph = .masked)
include hph

theorem broke_token (e : Exc) : Broke (plan O rq task_id).switches "jit-token-issue" e ph := by
  rcases hph with rfl | rfl <;> exact broke_of_pending rfl rfl e

theorem token_row {r : Signature × Phase} (h : r ∈ token_rows) :
    ((plan O rq task_id).switches.rows ph).lookup r.1 = some r.2 := by
  have hall : ∀ r ∈ token_rows, (mask_rows ++ token_rows).lookup r.1 = some r.2 ∧
      token_rows.lookup r.1 = some r.2 := by
    decide
  rcases hph with rfl | rfl
  · exact (hall r h).1
  · exact (hall r h).2

theorem walks_token_refused {event : String} {e : Exc} {Q : α → Phase → Prop}
    (hrow : (⟨event, .deny, "jit-token-issue", [("requester_id", .str)]⟩, .refused) ∈ token_rows)
    (hc : controlled_exc e.kind = true) :
    Walks World.audit (plan O rq task_id).next Q (Broke (plan O rq task_id).switches
      "jit-token-issue") ph (token_refused rq task_id event e : WM Tok α) :=
  walks_refuse (p := plan O rq task_id) (token_row O rq task_id hph hrow) hc

theorem walks_use_session_token (token : Tok) :
    Walks World.audit (plan O rq task_id).next (fun _ ph' => ph' = .authorised)
      (Broke (plan O rq task_id).switches "jit-token-issue") ph
      (use_session_token O rq task_id token) := by
  have hend : Walks World.audit (plan O rq task_id).next (fun _ ph' => ph' = .authorised)
      (Broke (plan O rq task_id).switches "jit-token-issue") ph (do
        log (.stage_event "token.validated" .allow "jit-token-issue" task_id.text rq.agent_type [])
        return token : WM Tok Tok) :=
    walks_log_then (p := plan O rq task_id) _ (token_row O rq task_id hph
      (r := (⟨"token.validated", .allow, "jit-token-issue", []⟩, .authorised)) (by decide))
      (Walks.pure rfl)
  have hnever : ∀ {f : Unit → WM Tok Tok} {e : Exc} {event : String},
      (⟨event, .deny, "jit-token-issue", [("requester_id", .str)]⟩, .refused) ∈ token_rows →
      controlled_exc e.kind = true →
      Walks World.audit (plan O rq task_id).next (fun _ ph' => ph' = .authorised)
        (Broke (plan O rq task_id).switches "jit-token-issue") ph
        (token_refused rq task_id event e >>= f) := by
    intro f e event hrow hc
    exact (walks_token_refused O rq task_id hph (Q := fun _ _ => False) hrow hc).bind
      fun _ _ hfalse => hfalse.elim
  refine Walks.bind (S := fun _ ph' => ph' = ph) (Walks.catching
    (walks_silent (silent_on_session_mgr _) (X := fun _ ph' => ph' = ph) fun _ => rfl) ?_ ?_) ?_
  · rintro e _ rfl -
    exact broke_token O rq task_id hph e
  · rintro e _ g rfl
    refine clause_ite ?_ (clause_ite ?_ nofun)
    · exact walks_token_refused O rq task_id hph (by decide) rfl
    · -- the class that is raised is not one that `_span_stage` takes for recorded
      refine walks_log_then (p := plan O rq task_id) _ (token_row O rq task_id hph
        (r := (⟨"token.revoked", .deny, "jit-token-issue", [("requester_id", .str)]⟩, .revoked))
        (by decide)) (Walks.throw ?_)
      rfl
  · rintro claims _ rfl
    refine (walks_silent (silent_on_session_mgr _) (broke_token O rq task_id hph)).bind ?_
    rintro b _ rfl
    refine Walks.ite (fun _ => hnever (by decide) rfl) (fun _ => ?_)
    exact Walks.ite (fun _ => hnever (by decide) rfl) (fun _ => hend)

theorem walks_issue_session_token :
    Walks World.audit (plan O rq task_id).next (fun _ ph' => ph' = .authorised)
      (Broke (plan O rq task_id).switches "jit-token-issue") ph
      (issue_session_token O rq task_id) := by
  refine (walks_silent (silent_on_session_mgr _) (broke_token O rq task_id hph)).bind ?_
  rintro _ _ rfl
  refine (walks_silent (silent_on_session_mgr _) (broke_token O rq task_id hph)).bind ?_
  rintro _ _ rfl
  exact walks_log_then (p := plan O rq task_id) _ (token_row O rq task_id hph
    (r := (⟨"token.issued", .allow, "jit-token-issue", [("jti", .str), ("requester_id", .str)]⟩,
      .authorised)) (by decide)) (Walks.pure rfl)

theorem walks_session_token :
    Walks World.audit (plan O rq task_id).next (fun _ ph' => ph' = .authorised)
      (Broke (plan O rq task_id).switches "jit-token-issue") ph (session_token O rq task_id) := by
  unfold session_token
  split
  · exact walks_use_session_token O rq task_id hph _
  · exact walks_issue_session_token O rq task_id hph

end

/-! ### The adapter's credentials -/

theorem walks_protect_outbound (hprot : rq.protect_outbound_request = true) (prompt : String)
    (token : Tok) :
    Walks World.audit (plan O rq task_id).next (fun _ ph => ph = .bound)
      (Broke (plan O rq task_id).switches "jit-token-issue") .authorised
      (protect_outbound O rq task_id prompt token) := by
  have hrows := (plan O rq task_id).switches.rows_authorised hprot
  have hraise : ∀ e, Broke (plan O rq task_id).switches "jit-token-issue" e .authorised :=
    broke_of_pending rfl (by rw [hrows]; rfl)
  unfold protect_outbound
  split
  · exact Walks.throw (hraise _)
  · refine (walks_silent (silent_on_session_mgr _) hraise).bind ?_
    rintro _ _ rfl
    refine (walks_silent (silent_on_session_mgr _) hraise).bind ?_
    rintro _ _ rfl
    refine (walks_silent (silent_on_session_mgr _) hraise).bind ?_
    rintro _ _ rfl
    refine (walks_silent (silent_on_session_mgr _) hraise).bind ?_
    rintro _ _ rfl
    refine walks_log_then (p := plan O rq task_id) .bound ?_ (Walks.pure rfl)
    rw [hrows]
    rfl

theorem walks_adapter_credentials (prompt : String) (token : Tok) :
    Walks World.audit (plan O rq task_id).next
      (fun _ ph => ph = (plan O rq task_id).switches.credentials)
      (Broke (plan O rq task_id).switches "jit-token-issue") .authorised
      (adapter_credentials O rq task_id prompt token) := by
  refine Walks.ite (fun hprot => ?_) (fun hprot => ?_)
  · refine (walks_protect_outbound O rq task_id hprot prompt token).bind ?_
    rintro _ _ rfl
    exact Walks.pure (if_pos hprot).symm
  · exact Walks.pure (if_neg hprot).symm

theorem walks_jit_token_issue {ph : Phase} (hph : ph = .decided ∨ ph = .masked) (prompt : String) :
    Walks World.audit (plan O rq task_id).next
      (fun _ ph' => ph' = (plan O rq task_id).switches.credentials) Failed ph
      (jit_token_issue O rq task_id prompt) := by
  rw [jit_token_issue_steps]
  refine walks_span_stage (p := plan O rq task_id) ?_
  refine (walks_session_token O rq task_id hph).bind ?_
  rintro token _ rfl
  exact walks_adapter_credentials O rq task_id prompt token

/-! ### The watchdogs -/

/-- A watchdog: its component is silent, and a trip is recorded by a clause of its own. -/
theorem walks_watchdog {ph ph' : Phase} {span event : String} {extra : List (String × Field)}
    {m : WM Tok β} {f : Exc → Option (WM Tok β)} (hm : Silent m) (hp : ph.pending = true)
    (herror : ((plan O rq task_id).switches.rows ph).lookup (error_row span).1 = some .refused)
    (hrow : ((plan O rq task_id).switches.rows ph).lookup
      ⟨event, .allow, span, extra.map fun kv => (kv.1, field_kind kv.2)⟩ = some ph')
    (hf : ∀ e g, f e = some g → Walks World.audit (plan O rq task_id).next (fun _ _ => False)
      (Broke (plan O rq task_id).switches span) ph g) :
    Walks World.audit (plan O rq task_id).next (fun _ ph'' => ph'' = ph') Failed ph
      (span_stage span task_id.text rq.agent_type (do
        let _ ← catching m f
        log (.stage_event event .allow span task_id.text rq.agent_type extra))) := by
  have hraise := broke_of_pending hp herror
  refine walks_span_stage (p := plan O rq task_id) ?_
  refine Walks.bind (S := fun _ ph'' => ph'' = ph)
    (Walks.catching (walks_silent hm (X := fun _ ph'' => ph'' = ph) fun _ => rfl) ?_ ?_) ?_
  · rintro e _ rfl -
    exact hraise e
  · rintro e _ g rfl hg
    exact (hf e g hg).mono (fun _ _ hfalse => hfalse.elim) (fun _ _ hx => hx)
  · rintro _ _ rfl
    exact walks_log (p := plan O rq task_id) hrow rfl

/-- The clause of a budget watchdog. -/
theorem walks_budget_clause {ph : Phase} {span event : String} {extra : Exc → List (String × Field)}
    (hrow : ∀ e, ((plan O rq task_id).switches.rows ph).lookup
      ⟨event, .deny, span, (extra e).map fun kv => (kv.1, field_kind kv.2)⟩ = some .refused)
    (e : Exc) (g : WM Tok β)
    (hg : (if e.kind = .BudgetExceededError then some (do
        log (.stage_event event .deny span task_id.text rq.agent_type (extra e))
        throw ⟨.BudgetLimitError, e.str⟩ : WM Tok β) else none) = some g) :
    Walks World.audit (plan O rq task_id).next (fun _ _ => False)
      (Broke (plan O rq task_id).switches span) ph g := by
  split at hg
  · cases hg
    exact walks_refuse (p := plan O rq task_id) (hrow e) rfl
  · cases hg

theorem walks_watchdog_pre_llm :
    Walks World.audit (plan O rq task_id).next
      (fun _ ph => ph = (plan O rq task_id).switches.ready) Failed
      (plan O rq task_id).switches.credentials (watchdog_pre_llm O rq task_id) := by
  have hrows := (plan O rq task_id).switches.rows_credentials
  unfold watchdog_pre_llm
  cases hid : budget_session O rq with
  | none =>
      have hoff : (plan O rq task_id).switches.budget = false := by simp [plan, hid]
      exact Walks.pure (by rw [Switches.ready, hoff]; rfl)
  | some id =>
      have hon : (plan O rq task_id).switches.budget = true := by simp [plan, hid]
      have hready : (plan O rq task_id).switches.ready = .funded := by
        rw [Switches.ready, if_pos hon]
      rw [hready]
      rw [Switches.before_call, if_pos hon] at hrows
      refine walks_watchdog O rq task_id (silent_on_budget _)
        (plan O rq task_id).switches.pending_credentials (by rw [hrows]; rfl) (by rw [hrows]; rfl) ?_
      exact walks_budget_clause O rq task_id fun e => by rw [hrows]; rfl

theorem walks_watchdog_record_spend (resp : LLMResponse) :
    Walks World.audit (plan O rq task_id).next
      (fun _ ph => ph = (plan O rq task_id).switches.settled) Failed .answered
      (watchdog_record_spend O rq task_id resp) := by
  unfold watchdog_record_spend
  cases hid : budget_session O rq with
  | none =>
      have hoff : (plan O rq task_id).switches.budget = false := by simp [plan, hid]
      exact Walks.pure (by rw [Switches.settled, hoff]; rfl)
  | some id =>
      have hon : (plan O rq task_id).switches.budget = true := by simp [plan, hid]
      have hrows : (plan O rq task_id).switches.rows .answered = spend_rows := by
        rw [Switches.rows, if_pos hon]
      have hsettled : (plan O rq task_id).switches.settled = .charged := by
        rw [Switches.settled, if_pos hon]
      rw [hsettled]
      refine walks_watchdog O rq task_id (silent_on_budget _) rfl (by rw [hrows]; rfl)
        (by rw [hrows]; rfl) ?_
      exact walks_budget_clause O rq task_id fun e => by rw [hrows]; rfl

theorem walks_watchdog_loop_detect (resp : LLMResponse) :
    Walks World.audit (plan O rq task_id).next
      (fun _ ph => ph = (plan O rq task_id).switches.watched) Failed
      (plan O rq task_id).switches.settled (watchdog_loop_detect O rq task_id resp) := by
  have hrows := (plan O rq task_id).switches.rows_settled
  unfold watchdog_loop_detect
  cases hid : (if O.loop_wired then rq.loop_session_id else none) with
  | none =>
      have hoff : (plan O rq task_id).switches.loop = false := by simp [plan, hid]
      exact Walks.pure (by rw [Switches.watched, hoff]; rfl)
  | some id =>
      have hon : (plan O rq task_id).switches.loop = true := by simp [plan, hid]
      have hwatched : (plan O rq task_id).switches.watched = .stepped := by
        rw [Switches.watched, if_pos hon]
      rw [hwatched]
      rw [Switches.after_spend, if_pos hon] at hrows
      refine walks_watchdog O rq task_id (silent_on_loop _)
        (plan O rq task_id).switches.pending_settled (by rw [hrows]; rfl) (by rw [hrows]; rfl) ?_
      intro e g hg
      split at hg
      · rename_i event kind htrip
        cases hg
        have hrow : (⟨event, .deny, "watchdog.loop-detect", [("error_message", .text)]⟩,
            .refused) ∈ step_rows ∧ controlled_exc kind = true := by
          unfold loop_trip at htrip
          split at htrip <;> cases htrip <;> decide
        have hlookup : ∀ r ∈ step_rows, step_rows.lookup r.1 = some r.2 := by decide
        refine walks_refuse (p := plan O rq task_id) ?_ hrow.2
        rw [hrows]
        exact hlookup _ hrow.1
      · cases hg

theorem walks_post_sanitize (resp : LLMResponse) :
    Walks World.audit (plan O rq task_id).next (fun _ ph => ph = .sanitised) Failed
      (plan O rq task_id).switches.watched (post_sanitize O rq task_id resp) := by
  have hrows := (plan O rq task_id).switches.rows_watched
  have hraise : ∀ e, Broke (plan O rq task_id).switches "post-sanitize" e
      (plan O rq task_id).switches.watched :=
    broke_of_pending (plan O rq task_id).switches.pending_watched (by rw [hrows]; rfl)
  refine walks_span_stage (p := plan O rq task_id) ?_
  refine (walks_silent (silent_guard _) hraise).bind ?_
  rintro post_mask _ rfl
  refine walks_log_then (p := plan O rq task_id) .sanitised ?_ (Walks.pure rfl)
  rw [hrows]
  unfold mask_outcome
  split <;> rfl

/-! ## The run -/

theorem walks_before_llm (pr : PolicyResult) (m : MaskResult) :
    Walks World.audit (plan O rq task_id).next
      (fun _ ph => ph = (plan O rq task_id).switches.ready) Failed .decided
      (before_llm O rq task_id pr m) := by
  refine (walks_policy_mask O rq task_id pr m).bind ?_
  intro m' ph hph
  refine (walks_jit_token_issue O rq task_id hph m'.text).bind ?_
  rintro _ _ rfl
  refine (walks_watchdog_pre_llm O rq task_id).bind ?_
  rintro _ _ rfl
  exact Walks.pure rfl

theorem walks_after_llm (m : MaskResult) (token : Tok) (resp : LLMResponse) :
    Walks World.audit (plan O rq task_id).next (fun _ ph => ph = .sanitised) Failed .answered
      (after_llm O rq task_id m token resp) := by
  refine (walks_watchdog_record_spend O rq task_id resp).bind ?_
  rintro _ _ rfl
  refine (walks_watchdog_loop_detect O rq task_id resp).bind ?_
  rintro _ _ rfl
  refine (walks_post_sanitize O rq task_id resp).bind ?_
  rintro _ _ rfl
  exact Walks.pure rfl

/-- The script of a request: its automaton, and the phase at each of the two awaits. -/
def transcript : Script Exc (OrchCall Tok) Phase AuditEvent where
  next := (plan O rq task_id).next
  start := .scrubbing
  awaits
    | .evaluate _ _ => .deciding
    | .complete _ => (plan O rq task_id).switches.ready
  returns := .sanitised
  raises := Failed

theorem walks_opa_unavailable (e : Exc) :
    Walks World.audit (plan O rq task_id).next (fun _ _ => False)
      (Broke (plan O rq task_id).switches "policy-eval") .deciding
      (opa_unavailable rq task_id e) := by
  refine Walks.ite (fun _ => ?_) (fun _ => Walks.throw (broke_of_pending rfl rfl e))
  exact walks_refuse (p := plan O rq task_id) rfl rfl

theorem walks_policy_decision (pr : PolicyResult) :
    Walks World.audit (plan O rq task_id).next (fun _ ph => ph = .decided)
      (Broke (plan O rq task_id).switches "policy-eval") .deciding
      (policy_decision rq task_id pr) := by
  unfold policy_decision
  refine Walks.ite (fun _ => ?_) (fun _ => ?_)
  · exact walks_refuse (p := plan O rq task_id) rfl rfl
  · exact walks_log_then (p := plan O rq task_id) .decided rfl (Walks.pure rfl)

theorem walks_llm_completed (resp : LLMResponse) :
    Walks World.audit (plan O rq task_id).next (fun _ ph => ph = .answered) (fun _ _ => False)
      (plan O rq task_id).switches.ready
      (log (.stage_event "llm.completed" .allow "llm-invoke" task_id.text rq.agent_type
        [("model", .str rq.model), ("tokens_used", .int resp.tokens_used)]) : WM Tok Unit) := by
  refine walks_log (p := plan O rq task_id) ?_ rfl
  rw [(plan O rq task_id).switches.rows_ready]
  rfl

section
variable {O rq task_id}
variable {env : (q : OrchCall Tok) → World Tok → Except Exc q.Answer → World Tok → Prop}
  {h : Answered Tok} {w₀ w : World Tok}

/-- The assertion at an await. -/
abbrev ReadAtAwait (O : Orchestrator Tok) (rq : OrchestratorRequest Tok) (task_id : Uuid)
    (h : Answered Tok) (w₀ : World Tok) (q : OrchCall Tok) (w : World Tok) : Prop :=
  Moves World.audit (transcript O rq task_id).next ((transcript O rq task_id).entry h)
    ((transcript O rq task_id).awaits q) w₀ w

theorem safe_stage_error_read {D : Answered Tok → World Tok → α → World Tok → Prop} {span : String}
    {e : Exc} {ph : Phase} (hx : Broke (plan O rq task_id).switches span e ph)
    (hw : Moves World.audit (transcript O rq task_id).next ((transcript O rq task_id).entry h) ph
      w₀ w) :
    Co.Safe env (ReadAtAwait O rq task_id) D ((transcript O rq task_id).Raised World.audit) h w₀
      (Co.lift (stage_error span task_id.text rq.agent_type e)) w :=
  (walks_stage_error (p := plan O rq task_id) (Q := fun _ _ => False) hx).safe hw
    (fun _ _ _ _ hfalse => hfalse.elim) fun _ ph' _ hmove hfail => ⟨ph', hmove, hfail⟩

/-- Stage 2 begins its second segment in `deciding`. -/
theorem safe_policy_eval_read {D : Answered Tok → World Tok → PolicyResult → World Tok → Prop}
    (hw : Moves World.audit (transcript O rq task_id).next .scrubbing .deciding w₀ w)
    (hok : ∀ (pr pr' : PolicyResult) w₁ w₂,
      Moves World.audit (transcript O rq task_id).next .deciding .decided w₁ w₂ →
      D [⟨.evaluate "agent_access" (policy_input rq), .ok pr⟩] w₁ pr' w₂) :
    Co.Safe env (ReadAtAwait O rq task_id) D ((transcript O rq task_id).Raised World.audit) [] w₀
      (policy_eval rq task_id) w := by
  refine Co.Safe.tryCatch (Co.Safe.bind (Co.Safe.tryCatch (Co.Safe.call hw ?_ ?_)))
  · intro pr w₁ _
    refine (walks_policy_decision O rq task_id pr).safe (Moves.of_eq rfl _) ?_ ?_
    · rintro pr' _ w₂ hmove rfl
      exact hok pr pr' w₁ w₂ hmove
    · exact fun e ph w₂ hmove hx => safe_stage_error_read hx hmove
  · intro e w₁ _
    refine (walks_opa_unavailable O rq task_id e).safe (Moves.of_eq rfl _) ?_ ?_
    · exact fun _ _ _ _ hfalse => hfalse.elim
    · exact fun e' ph w₂ hmove hx => safe_stage_error_read hx hmove

/-- Stage 4 begins its second segment in the phase of the adapter call. -/
theorem safe_llm_invoke_read {D : Answered Tok → World Tok → LLMResponse → World Tok → Prop}
    {prompt : String} {token : Tok} {proof : Option Tok}
    (hw : Moves World.audit (transcript O rq task_id).next ((transcript O rq task_id).entry h)
      (plan O rq task_id).switches.ready w₀ w)
    (hok : ∀ (resp : LLMResponse) w₁ w₂,
      Moves World.audit (transcript O rq task_id).next (plan O rq task_id).switches.ready .answered
        w₁ w₂ →
      D (h ++ [⟨.complete (llm_request rq prompt token proof), .ok resp⟩]) w₁ resp w₂) :
    Co.Safe env (ReadAtAwait O rq task_id) D ((transcript O rq task_id).Raised World.audit) h w₀
      (llm_invoke rq task_id prompt token proof) w := by
  have hrows := (plan O rq task_id).switches.rows_ready
  have hraise : ∀ e, Broke (plan O rq task_id).switches "llm-invoke" e
      (plan O rq task_id).switches.ready :=
    broke_of_pending (plan O rq task_id).switches.pending_ready (by rw [hrows]; rfl)
  refine Co.Safe.tryCatch (Co.Safe.bind (Co.Safe.call hw ?_ ?_))
  · intro resp w₁ _
    refine Co.Safe.bind ((walks_llm_completed O rq task_id resp).safe (Moves.of_eq rfl _) ?_ ?_)
    · rintro _ _ w₂ hmove rfl
      exact Co.Safe.pure (hok resp w₁ w₂ hmove)
    · exact fun _ _ _ _ hfalse => hfalse.elim
  · intro e w₁ _
    refine safe_stage_error_read (hraise e) ?_
    rw [Script.entry_append]
    exact Moves.of_eq rfl _

/-- Every segment of a run is read by the automaton of its request. -/
theorem follows_run (htask : rq.task_id = some task_id) :
    (transcript O rq task_id).Follows World.audit (run O rq) := by
  intro env w
  unfold run
  rw [htask]
  refine Co.Safe.bind ((walks_pre_sanitize O rq task_id).safe (Moves.of_eq rfl _) ?_
    fun _ ph _ hmove hfail => ⟨ph, hmove, hfail⟩)
  rintro pre_mask _ w₁ hmove rfl
  refine Co.Safe.bind (safe_policy_eval_read hmove ?_)
  intro pr pr' w₂ w₃ hmove'
  refine Co.Safe.bind ((walks_before_llm O rq task_id pr' pre_mask).safe hmove' ?_
    fun _ ph _ hmove hfail => ⟨ph, hmove, hfail⟩)
  rintro ⟨m, token, adapter_token, proof⟩ _ w₄ hmove₄ rfl
  refine Co.Safe.bind (safe_llm_invoke_read hmove₄ ?_)
  intro resp w₅ w₆ hmove₆
  refine (walks_after_llm O rq task_id m token resp).safe hmove₆ ?_
    fun _ ph _ hmove hfail => ⟨ph, hmove, hfail⟩
  rintro r _ w₇ hmove₇ rfl
  exact hmove₇

end

end

/-! ## Interleaved runs -/

/-- Whether an entry belongs to a task. -/
def of_task (task_id : Uuid) : AuditEvent → Bool
  | .stage_event _ _ _ task _ _ => decide (task = task_id.text)
  | _ => false

theorem of_task_of_next {O : Orchestrator Tok} {rq : OrchestratorRequest Tok} {task_id : Uuid}
    {ph ph' : Phase} {ev : AuditEvent} (h : (plan O rq task_id).next ph ev = some ph') :
    of_task task_id ev = true ∧ ∀ other ≠ task_id, of_task other ev = false := by
  unfold Plan.next at h
  cases ev with
  | stage_event event outcome stage task agent extra =>
      dsimp only at h
      split at h
      · rename_i hown
        obtain ⟨rfl, -⟩ := hown
        refine ⟨decide_eq_true rfl, fun other hne => decide_eq_false fun heq => hne ?_⟩
        exact congrArg Uuid.mk heq.symm
      · cases h
  | lifecycle_event _ _ _ _ _ _ _ _ | info _ _ | warning _ _ | error _ _ => cases h

/-- The phase that belongs to where a run stands. -/
def Standing (O : Orchestrator Tok) (rq : OrchestratorRequest Tok) (task_id : Uuid) :
    Co.Thread (World Tok) Exc (OrchCall Tok) OrchCall.Answer (OrchestratorResult Tok) →
      Phase → Prop
  | .fresh _, ph => ph = .scrubbing
  | .stopped _ (.waiting (.evaluate _ _) _), ph => ph = .deciding
  | .stopped _ (.waiting (.complete _) _), ph => ph = (plan O rq task_id).switches.ready
  | .stopped _ (.done _), ph => ph = .sanitised
  | .stopped _ (.failed e), ph => Failed e ph

theorem standing_of_stands {O : Orchestrator Tok} {rq : OrchestratorRequest Tok} {task_id : Uuid}
    {t : Co.Thread (World Tok) Exc (OrchCall Tok) OrchCall.Answer (OrchestratorResult Tok)}
    {ph : Phase} (h : (transcript O rq task_id).ThreadStands t ph) :
    Standing O rq task_id t ph := by
  cases t with
  | fresh p => exact h
  | stopped hist pt =>
      cases pt with
      | done r => exact h
      | failed e => exact h
      | waiting q k =>
          cases q with
          | evaluate name input => exact h
          | complete req => exact h

/-- The word of a run ends in `sanitised` just when the run has returned. -/
theorem Standing.sanitised_iff {O : Orchestrator Tok} {rq : OrchestratorRequest Tok}
    {task_id : Uuid} {t : Co.Thread (World Tok) Exc (OrchCall Tok) OrchCall.Answer (OrchestratorResult Tok)}
    {ph : Phase} (h : Standing O rq task_id t ph) :
    ph = .sanitised ↔ ∃ hist r, t = .stopped hist (.done r) := by
  have hopen : ∀ {ph' : Phase}, ph'.pending = true → ph' ≠ .sanitised := by
    rintro _ hp rfl
    cases hp
  cases t with
  | fresh p =>
      cases h
      simp
  | stopped hist pt =>
      cases pt with
      | done r =>
          cases h
          simp
      | failed e =>
          refine iff_of_false ?_ (by simp)
          rcases h with rfl | ⟨-, hp⟩
          · decide
          · exact hopen hp
      | waiting q k =>
          refine iff_of_false ?_ (by simp)
          cases q with
          | evaluate name input =>
              cases h
              decide
          | complete req =>
              cases h
              exact hopen (plan O rq task_id).switches.pending_ready

section Pool
variable {ι : Type} [DecidableEq ι] {O : Orchestrator Tok} {rq : ι → OrchestratorRequest Tok}
  {task : ι → Uuid}

/-- **The audit log is a shuffle of protocols.**  Any number of runs with task ids of their own, in
any interleaving and whatever their awaits are answered: what they add to the log is entries of these
tasks, those of each task are a word of the automaton of its request, and the phase the word ends in
is the one that belongs to where the run stands.  In particular a run has returned exactly where its
word has come to the last phase, through every stage the request asks for. -/
theorem transcripts_of_run (htask : ∀ i, (rq i).task_id = some (task i))
    (hinj : Function.Injective task) {w : World Tok} {evs : List (RunEvent Tok ι)}
    {P : RunPool Tok ι} (hr : Co.Pool.Run (poolStart O rq w) evs P) :
    ∃ trail, P.shared.audit = w.audit ++ trail ∧
      (∀ ev ∈ trail, ∃ i, of_task (task i) ev = true) ∧
      ∀ i, ∃ ph, read (plan O (rq i) (task i)).next .scrubbing
          (trail.filter (of_task (task i))) = some ph ∧
        Standing O (rq i) (task i) (P.threads i) ph ∧
        (ph = .sanitised ↔ ∃ hist r, P.threads i = .stopped hist (.done r)) := by
  have hown : ∀ i ph ev ph', (transcript O (rq i) (task i)).next ph ev = some ph' →
      of_task (task i) ev = true ∧ ∀ j ≠ i, of_task (task j) ev = false := by
    intro i ph ev ph' h
    obtain ⟨hmine, hothers⟩ := of_task_of_next h
    exact ⟨hmine, fun j hj => hothers _ fun heq => hj (hinj heq)⟩
  obtain ⟨trail, haudit, howned, hstand⟩ := Pool.stands_of_run hown
    (fun i => follows_run (htask i)) hr
  refine ⟨trail, haudit, howned, fun i => ?_⟩
  obtain ⟨ph, hread, hph⟩ := hstand i
  have hstanding := standing_of_stands hph
  exact ⟨ph, hread, hstanding, hstanding.sanitised_iff⟩

end Pool

/-! ### Two tasks that overlap -/

def twoIds (i : Bool) : Uuid := if i then ⟨"task-1"⟩ else ⟨"task-0"⟩

def twoTasks (i : Bool) : OrchestratorRequest SymToken :=
  { plainRequest with task_id := some (twoIds i) }

/-- The first task has returned, the second awaits the adapter. -/
def twoTranscripts : List (RunEvent SymToken Bool) × RunPool SymToken Bool :=
  (poolStart plainOrchestrator twoTasks plainWorld).turns plainAnswers
    [false, true, false, true, false]

/-- What the automaton of a task reads in a log. -/
def read_task (i : Bool) (log : List AuditEvent) : Option Phase :=
  read (plan plainOrchestrator (twoTasks i) (twoIds i)).next .scrubbing
    (log.filter (of_task (twoIds i)))

theorem twoTranscripts_read :
    (read_task false twoTranscripts.2.shared.audit = some .sanitised ∧
        read_task true twoTranscripts.2.shared.audit = some .funded) ∧
      ∃ trail, twoTranscripts.2.shared.audit = plainWorld.audit ++ trail ∧
        ∀ i, ∃ ph, read_task i trail = some ph ∧
          Standing plainOrchestrator (twoTasks i) (twoIds i) (twoTranscripts.2.threads i) ph := by
  have hrun := Co.Pool.Run.turns (f := plainAnswers) [false, true, false, true, false]
    (Co.Pool.Run.refl (poolStart plainOrchestrator twoTasks plainWorld))
  have htask : ∀ i, (twoTasks i).task_id = some (twoIds i) := fun _ => rfl
  obtain ⟨trail, haudit, -, hall⟩ := transcripts_of_run htask (by decide) hrun
  refine ⟨by decide +kernel, trail, haudit, fun i => ?_⟩
  obtain ⟨ph, hread, hstanding, -⟩ := hall i
  exact ⟨ph, hread, hstanding⟩

end AegisOs.Orchestrator
