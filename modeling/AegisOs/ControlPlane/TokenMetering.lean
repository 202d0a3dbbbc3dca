/-
# `AegisOs.ControlPlane.TokenMetering` — how many tokens were used

Two paths debit a budget session for a completion.  `Orchestrator.run` debits money
only, through `record_spend`; neither `tokens_used` nor the counter moves.  The
activities go through `record_tokens`, which moves both, but not for the completion
alone: each execution starts the session again and counts the ledger it is handed
once more.

So the totals are right as long as none of this comes to bear, and `Clean` says when:
no tokens on the first path; on the second, no ledger with tokens, no session that
has counted some, no completion that is not debited.  A run of such steps is exact
(`metering_exact`).  Where the ledgers are what earlier executions recorded
(`Threaded`), no other run is exact throughout.
-/
import AegisOs.ControlPlane.ConcurrentBudget
import AegisOs.ControlPlane.DurableBudget
import AegisOs.Watchdog.Metering

namespace AegisOs

open Lib Lib.EState

variable {Tok : Type}

abbrev MW (Tok : Type) : Type → Type := EStateM Exc (Probed (World Tok) TokenCounter)

namespace Metered

/-! ## The budget activities, with the counter -/

def on_budget {α : Type} (m : MBE α) : MW Tok α :=
  zoomProbed World.budget_enforcer (fun b w => { w with budget_enforcer := b }) m

/-- `_restore_budget_session`. -/
def restore_budget_session (budget_session_id : Lit Uuid) (agent_type : String)
    (budget_limit_usd : Lit ℚ) (history : List BudgetHistoryEntry) :
    MW Tok (Uuid × BudgetSession) := do
  let session_id ← plain (budget_session_id.read .ValueError)
  let limit ← plain (budget_limit_usd.read .InvalidOperation)
  let restored ← on_budget (restore_from_history session_id agent_type limit history)
  return (session_id, restored)

/-- `BudgetPreCheck`. -/
def budget_pre_check (inp : BudgetPreCheckInput) : MW Tok BudgetPreCheckResult := do
  let task_id ← plain
    (AegisActivities.require_task_id inp.task_id "watchdog.pre-llm" inp.agent_type)
  catching
    (do
      let (session_id, restored) ← restore_budget_session inp.budget_session_id inp.agent_type
        inp.budget_limit_usd inp.history
      plain (AegisOs.on_budget (BudgetEnforcer.check_budget session_id))
      plain (log (.stage_event "budget.pre_check" .allow "watchdog.pre-llm" task_id inp.agent_type
        [("budget_session_id", .str inp.budget_session_id.raw),
          ("spent_usd", .text [.dec restored.cost_usd])]))
      return ⟨restored.serialize⟩)
    fun e => (AegisActivities.budget_refused "budget.exceeded" "watchdog.pre-llm" task_id
      inp.agent_type inp.budget_session_id e).map plain

/-- `BudgetRecordSpend`. -/
def budget_record_spend (info : ActivityInfo) (inp : BudgetRecordInput) :
    MW Tok BudgetRecordResult := do
  let task_id ← plain
    (AegisActivities.require_task_id inp.task_id "watchdog.record-spend" inp.agent_type)
  catching
    (do
      let op := AegisActivities.operation_id info
      let (session_id, restored) ← restore_budget_session inp.budget_session_id inp.agent_type
        inp.budget_limit_usd inp.history
      let existing_operations := restored.applied_operation_ids
      let cost_per_token ← plain (inp.cost_per_token_usd.read .InvalidOperation)
      let session ← on_budget (record_tokens session_id inp.tokens_used cost_per_token (some op))
      let history :=
        if op ∈ existing_operations then inp.history
        else inp.history ++ [⟨op, Decimal.mul cost_per_token inp.tokens_used, inp.tokens_used⟩]
      plain (log (.stage_event "budget.spend_recorded" .allow "watchdog.record-spend" task_id
        inp.agent_type
        [("budget_session_id", .str inp.budget_session_id.raw),
          ("spent_usd", .text [.dec session.cost_usd])]))
      return ⟨session.serialize, history⟩)
    fun e => (AegisActivities.budget_refused "budget.exceeded_on_record" "watchdog.record-spend"
      task_id inp.agent_type inp.budget_session_id e).map plain

theorem erases_restore_budget_session (bid : Lit Uuid) (agent_type : String) (limit : Lit ℚ)
    (history : List BudgetHistoryEntry) :
    Erases (restore_budget_session bid agent_type limit history : MW Tok _)
      (AegisActivities.restore_budget_session bid agent_type limit history) := by
  refine (erases_plain _).bind fun id => ?_
  refine (erases_plain _).bind fun l => ?_
  exact (erases_restore_from_history id agent_type l history).zoomProbed.bind
    fun _ => erases_pure _

/-- Without the counter, the activity is `BudgetPreCheck`. -/
theorem erases_budget_pre_check (inp : BudgetPreCheckInput) :
    Erases (budget_pre_check inp : MW Tok _) (AegisActivities.budget_pre_check inp) := by
  refine (erases_plain _).bind fun task_id => ?_
  refine Erases.catching_plain ?_
  refine (erases_restore_budget_session _ _ _ _).bind fun ⟨id, session⟩ => ?_
  refine (erases_plain _).bind fun _ => ?_
  exact (erases_plain _).bind fun _ => erases_pure _

/-- Without the counter, the activity is `BudgetRecordSpend`. -/
theorem erases_budget_record_spend (info : ActivityInfo) (inp : BudgetRecordInput) :
    Erases (budget_record_spend info inp : MW Tok _)
      (AegisActivities.budget_record_spend info inp) := by
  refine (erases_plain _).bind fun task_id => ?_
  refine Erases.catching_plain ?_
  refine (erases_restore_budget_session _ _ _ _).bind fun ⟨id, session⟩ => ?_
  refine (erases_plain _).bind fun c => ?_
  refine (erases_record_tokens _ _ _ _).zoomProbed.bind fun session' => ?_
  exact (erases_plain _).bind fun _ => erases_pure _

/-! ## What an execution counts -/

/-- The enforcer and the counter. -/
def budget (p : Probed (World Tok) TokenCounter) : Probed BudgetEnforcer TokenCounter :=
  ⟨p.state.budget_enforcer, p.probe⟩

/-- No session of the worker counts anything. -/
def CountsNothing (w w' : World Tok) : Prop := SameTokens w.budget_enforcer w'.budget_enforcer

/-- Neither a session nor the counter. -/
def Uncounted (p p' : Probed (World Tok) TokenCounter) : Prop :=
  CountsNothing p.state p'.state ∧ p'.probe = p.probe

theorem countsNothing_of_sameBudget {w w' : World Tok} (h : Orchestrator.SameBudget w w') :
    CountsNothing w w' := by
  funext id
  rw [meter, meter, h]

theorem countsNothing_log (event : AuditEvent) : Keeps CountsNothing (log event : WM Tok PUnit) :=
  fun _ => rfl

theorem countsNothing_require_task_id (task_id stage agent_type : String) :
    Keeps CountsNothing
      (AegisActivities.require_task_id task_id stage agent_type : WM Tok String) := by
  intro w
  unfold AegisActivities.require_task_id
  split <;> rfl

theorem countsNothing_check_budget (id : Uuid) :
    Keeps CountsNothing (AegisOs.on_budget (BudgetEnforcer.check_budget id) : WM Tok Unit) :=
  (Orchestrator.same_check_budget id).mono fun _ _ => countsNothing_of_sameBudget

theorem countsNothing_refused {α : Type} {event stage task_id agent_type : String} {bid : Lit Uuid}
    {e : Exc} {g : WM Tok α}
    (hg : AegisActivities.budget_refused event stage task_id agent_type bid e = some g) :
    Keeps CountsNothing g := by
  unfold AegisActivities.budget_refused at hg
  split at hg
  · cases hg
    exact fun _ => rfl
  · cases hg

theorem uncounted_refl (p : Probed (World Tok) TokenCounter) : Uncounted p p := ⟨rfl, rfl⟩

theorem uncounted_trans (p₁ p₂ p₃ : Probed (World Tok) TokenCounter) (h₁ : Uncounted p₁ p₂)
    (h₂ : Uncounted p₂ p₃) : Uncounted p₁ p₃ :=
  ⟨h₂.1.trans h₁.1, h₂.2.trans h₁.2⟩

section
variable {α β : Type} {id : Uuid} {a : String} {k n : ℤ} {p₀ : Probed BudgetEnforcer TokenCounter}
  {p p' : Probed (World Tok) TokenCounter}

theorem Stands.uncounted (h : Stands id a k n p₀ (budget p)) (hu : Uncounted p p') :
    Stands id a k n p₀ (budget p') := h.same hu.1 hu.2

theorem Stands.bind_uncounted {m : MW Tok α} {f : α → MW Tok β}
    (h : Stands id a k n p₀ (budget (after (m p)))) (hf : ∀ x, Keeps Uncounted (f x)) :
    Stands id a k n p₀ (budget (after ((m >>= f) p))) := by
  cases hr : m p with
  | error e p₁ =>
      rw [bind_error hr]
      rwa [hr] at h
  | ok x p₁ =>
      rw [hr] at h
      rw [bind_ok hr]
      exact Stands.uncounted h (hf x p₁)

theorem Stands.catching {m : MW Tok α} {f : Exc → Option (WM Tok α)}
    (h : Stands id a k n p₀ (budget (after (m p))))
    (hf : ∀ e g, f e = some g → Keeps CountsNothing g) :
    Stands id a k n p₀ (budget (after (Lib.catching m (fun e => (f e).map plain) p))) := by
  cases hr : m p with
  | ok x p₁ =>
      rw [catching_ok hr]
      rwa [hr] at h
  | error e p₁ =>
      rw [hr] at h
      cases hfe : f e with
      | none =>
          rw [catching_none hr (by rw [hfe]; rfl)]
          exact h
      | some g =>
          rw [catching_some hr (by rw [hfe]; rfl)]
          exact Stands.uncounted h ((hf e g hfe).plain p₁)

theorem on_budget_ok {m : MBE α} {x : α} {q : Probed BudgetEnforcer TokenCounter}
    (h : m (budget p) = .ok x q) : ∃ p', on_budget m p = .ok x p' ∧ budget p' = q := by
  refine ⟨⟨{ p.state with budget_enforcer := q.state }, q.probe⟩, ?_, rfl⟩
  unfold on_budget zoomProbed
  exact zoom_ok h

theorem on_budget_error {m : MBE α} {e : Exc} {q : Probed BudgetEnforcer TokenCounter}
    (h : m (budget p) = .error e q) : ∃ p', on_budget m p = .error e p' ∧ budget p' = q := by
  refine ⟨⟨{ p.state with budget_enforcer := q.state }, q.probe⟩, ?_, rfl⟩
  unfold on_budget zoomProbed
  exact zoom_error h

theorem budget_on_budget (m : MBE α) :
    budget (after (on_budget m p)) = after (m (budget p)) := by
  unfold on_budget zoomProbed
  rw [after_zoom]
  rfl

end

/-- The execution gets to restoring the session: its id and its limit. -/
structure Restores (task_id : String) (bid : Lit Uuid) (limit : Lit ℚ) (id : Uuid) (l : ℚ) :
    Prop where
  task : task_id ≠ ""
  session : bid.val = some id
  limit_usd : limit.val = some l

theorem read_some {α σ : Type} {kind : ExcKind} {l : Lit α} {x : α} (h : l.val = some x) (s : σ) :
    l.read kind s = .ok x s := by
  unfold Lit.read
  rw [h]
  rfl

theorem read_none {α σ : Type} {kind : ExcKind} {l : Lit α} (h : l.val = none) (s : σ) :
    l.read kind s = .error ⟨kind, l.raw⟩ s := by
  unfold Lit.read
  rw [h]
  rfl

section
variable {task_id agent_type : String} {bid : Lit Uuid} {limit : Lit ℚ} {id : Uuid} {l : ℚ}
  {history : List BudgetHistoryEntry}

theorem restore_budget_session_run (p : Probed (World Tok) TokenCounter) (hr : Restores task_id bid limit id l) :
    restore_budget_session bid agent_type limit history p =
      (on_budget (restore_from_history id agent_type l history) >>=
        fun restored => pure (id, restored)) p := by
  unfold restore_budget_session
  rw [bind_ok (plain_ok (read_some hr.session p.state)),
    bind_ok (plain_ok (read_some hr.limit_usd p.state))]

/-- Without a session or a limit, nothing is restored. -/
theorem restore_budget_session_unread (agent_type : String) (history : List BudgetHistoryEntry)
    (p : Probed (World Tok) TokenCounter)
    (h : ∀ id l, ¬(bid.val = some id ∧ limit.val = some l)) :
    ∃ e, restore_budget_session bid agent_type limit history p = .error e p := by
  unfold restore_budget_session
  cases hid : bid.val with
  | none => exact ⟨_, bind_error (plain_error (read_none hid p.state))⟩
  | some id =>
      rw [bind_ok (plain_ok (read_some hid p.state))]
      cases hl : limit.val with
      | none => exact ⟨_, bind_error (plain_error (read_none hl p.state))⟩
      | some l => exact absurd ⟨hid, hl⟩ (h id l)

end

/-- An activity that does not get to the restore counts nothing. -/
theorem activity_unread {α : Type} {task_id stage agent_type : String} {bid : Lit Uuid}
    {limit : Lit ℚ} {history : List BudgetHistoryEntry} {f : String → Uuid × BudgetSession → MW Tok α}
    {g : String → Exc → Option (WM Tok α)} {p : Probed (World Tok) TokenCounter}
    (h : ∀ id l, ¬Restores task_id bid limit id l)
    (hg : ∀ t e m, g t e = some m → Keeps CountsNothing m) :
    Uncounted p (after ((plain (AegisActivities.require_task_id task_id stage agent_type) >>=
      fun t => catching (restore_budget_session bid agent_type limit history >>= f t)
        fun e => (g t e).map plain) p)) := by
  by_cases htask : task_id = ""
  · obtain ⟨e, w, hrun⟩ : ∃ e w, AegisActivities.require_task_id task_id stage agent_type p.state =
        .error e w := by
      unfold AegisActivities.require_task_id
      rw [if_pos htask]
      exact ⟨_, _, rfl⟩
    rw [bind_error (plain_error hrun)]
    exact ⟨(countsNothing_require_task_id task_id stage agent_type).error hrun, rfl⟩
  · obtain ⟨e, hrun⟩ := restore_budget_session_unread agent_type history p
      fun id l hread => h id l ⟨htask, hread.1, hread.2⟩
    rw [bind_ok (plain_ok (AegisActivities.require_task_id_run htask p.state))]
    have hbody := bind_error (f := f task_id) hrun
    cases hge : g task_id e with
    | none =>
        rw [catching_none hbody (by rw [hge]; rfl)]
        exact uncounted_refl p
    | some m =>
        rw [catching_some hbody (by rw [hge]; rfl)]
        exact (hg task_id e m hge).plain p

section
variable {inp : BudgetPreCheckInput} {id : Uuid} {l : ℚ} {m : ℤ} {p : Probed (World Tok) TokenCounter}

/-- `BudgetPreCheck` counts what its restore does. -/
theorem budget_pre_check_restocked
    (hr : Restores inp.task_id inp.budget_session_id inp.budget_limit_usd id l)
    (hm : Restocked id inp.agent_type m (budget p)
      (after (restore_from_history id inp.agent_type l inp.history (budget p)))) :
    Restocked id inp.agent_type m (budget p) (budget (after (budget_pre_check inp p))) := by
  have htask : plain (AegisActivities.require_task_id inp.task_id "watchdog.pre-llm"
      inp.agent_type) p = .ok inp.task_id p :=
    plain_ok (AegisActivities.require_task_id_run hr.task p.state)
  unfold budget_pre_check
  rw [bind_ok htask]
  refine Stands.catching ?_ fun _ _ => countsNothing_refused
  refine Stands.bind_uncounted ?_ fun ⟨id', restored⟩ => ?_
  · rw [restore_budget_session_run p hr]
    refine Stands.bind_uncounted ?_ fun _ => Keeps.pure uncounted_refl _
    rwa [budget_on_budget]
  · refine Keeps.bind uncounted_trans (countsNothing_check_budget _).plain fun _ => ?_
    refine Keeps.bind uncounted_trans (countsNothing_log _).plain fun _ => ?_
    exact Keeps.pure uncounted_refl _

theorem budget_pre_check_unread (h : ∀ id l,
    ¬Restores inp.task_id inp.budget_session_id inp.budget_limit_usd id l) :
    Uncounted p (after (budget_pre_check inp p)) :=
  activity_unread h fun _ _ _ => countsNothing_refused

end

section
variable (info : ActivityInfo) {inp : BudgetRecordInput} {id : Uuid} {l : ℚ} {m : ℤ}
  {p : Probed (World Tok) TokenCounter}

theorem budget_record_spend_unread (h : ∀ id l,
    ¬Restores inp.task_id inp.budget_session_id inp.budget_limit_usd id l) :
    Uncounted p (after (budget_record_spend info inp p)) :=
  activity_unread h fun _ _ _ => countsNothing_refused

/-- `BudgetRecordSpend` counts what its restore does, ... -/
theorem budget_record_spend_raised
    (hr : Restores inp.task_id inp.budget_session_id inp.budget_limit_usd id l)
    (hm : Restocked id inp.agent_type m (budget p)
      (after (restore_from_history id inp.agent_type l inp.history (budget p))))
    {e : Exc} {q : Probed BudgetEnforcer TokenCounter}
    (he : restore_from_history id inp.agent_type l inp.history (budget p) = .error e q) :
    Restocked id inp.agent_type m (budget p) (budget (after (budget_record_spend info inp p))) := by
  have htask : plain (AegisActivities.require_task_id inp.task_id "watchdog.record-spend"
      inp.agent_type) p = .ok inp.task_id p :=
    plain_ok (AegisActivities.require_task_id_run hr.task p.state)
  obtain ⟨p₁, hrun, hp₁⟩ := on_budget_error he
  rw [he] at hm
  unfold budget_record_spend
  rw [bind_ok htask]
  refine Stands.catching ?_ fun _ _ => countsNothing_refused
  rw [bind_error ((restore_budget_session_run p hr).trans (bind_error hrun))]
  show Stands _ _ _ _ _ (budget p₁)
  rwa [hp₁]

/-- ... and then its own tokens, if it can read the price and the ledger does not know the
operation. -/
theorem budget_record_spend_restored
    (hr : Restores inp.task_id inp.budget_session_id inp.budget_limit_usd id l)
    (hm : Restocked id inp.agent_type m (budget p)
      (after (restore_from_history id inp.agent_type l inp.history (budget p))))
    {s : BudgetSession} {q : Probed BudgetEnforcer TokenCounter}
    (hs : restore_from_history id inp.agent_type l inp.history (budget p) = .ok s q)
    (ht : 0 ≤ inp.tokens_used) :
    Restocked id inp.agent_type
      (if inp.cost_per_token_usd.val.isSome = true ∧
        AegisActivities.operation_id info ∉ s.applied_operation_ids then m + inp.tokens_used else m)
      (budget p) (budget (after (budget_record_spend info inp p))) := by
  have htask : plain (AegisActivities.require_task_id inp.task_id "watchdog.record-spend"
      inp.agent_type) p = .ok inp.task_id p :=
    plain_ok (AegisActivities.require_task_id_run hr.task p.state)
  obtain ⟨p₁, hrun, hp₁⟩ := on_budget_ok hs
  have hsession : (budget p₁).state.sessions id = some s := by
    rw [hp₁]
    exact restore_from_history_ok hs
  have hstands : Stands id inp.agent_type m (p.probe inp.agent_type + m) (budget p) (budget p₁) := by
    rw [hs] at hm
    rwa [hp₁]
  unfold budget_record_spend
  rw [bind_ok htask]
  refine Stands.catching ?_ fun _ _ => countsNothing_refused
  rw [bind_ok ((restore_budget_session_run p hr).trans (bind_ok hrun))]
  show Restocked _ _ _ _ (budget (after ((plain (inp.cost_per_token_usd.read .InvalidOperation) >>=
    fun c => _) p₁)))
  cases hc : inp.cost_per_token_usd.val with
  | none =>
      rw [bind_error (plain_error (read_none hc p₁.state)), if_neg (by simp)]
      exact hstands
  | some c =>
      rw [bind_ok (plain_ok (read_some hc p₁.state))]
      refine Stands.bind_uncounted ?_ fun s' => ?_
      · rw [budget_on_budget]
        have hstep := record_tokens_stands c (some (AegisActivities.operation_id info)) hstands ht
          hsession
        by_cases hop : AegisActivities.operation_id info ∈ s.applied_operation_ids
        · have hdup := (BudgetEnforcer.is_duplicate_operation_some s _).mpr hop
          rw [if_pos hdup, if_pos hdup] at hstep
          rw [if_neg fun hboth => hboth.2 hop]
          exact hstep
        · have hdup := mt (BudgetEnforcer.is_duplicate_operation_some s _).mp hop
          rw [if_neg hdup, if_neg hdup, add_assoc] at hstep
          rw [if_pos ⟨rfl, hop⟩]
          exact hstep
      · refine Keeps.bind uncounted_trans (countsNothing_log _).plain fun _ => ?_
        exact Keeps.pure uncounted_refl _

/-- An execution that gets to the restore debits its own tokens. -/
structure Debits (info : ActivityInfo) (inp : BudgetRecordInput) (l : ℚ) : Prop where
  ledger : inp.history = [] ∨ 0 ≤ l
  price : inp.cost_per_token_usd.val.isSome = true
  operation : AegisActivities.operation_id info ∉ BudgetEnforcer.operation_ids inp.history

instance (info : ActivityInfo) (inp : BudgetRecordInput) (l : ℚ) : Decidable (Debits info inp l) :=
  decidable_of_iff ((inp.history = [] ∨ 0 ≤ l) ∧ inp.cost_per_token_usd.val.isSome = true ∧
      AegisActivities.operation_id info ∉ BudgetEnforcer.operation_ids inp.history)
    ⟨fun ⟨h₁, h₂, h₃⟩ => ⟨h₁, h₂, h₃⟩, fun h => ⟨h.ledger, h.price, h.operation⟩⟩

/-- With a ledger without tokens, `BudgetRecordSpend` counts its own tokens or none. -/
theorem budget_record_spend_silent
    (hr : Restores inp.task_id inp.budget_session_id inp.budget_limit_usd id l)
    (hsilent : Silent l inp.history) (ht : 0 ≤ inp.tokens_used) :
    Restocked id inp.agent_type (if Debits info inp l then inp.tokens_used else 0) (budget p)
      (budget (after (budget_record_spend info inp p))) := by
  have hm := restore_from_history_silent_restocked id inp.agent_type hsilent (budget p)
  by_cases hledger : inp.history = [] ∨ 0 ≤ l
  · obtain ⟨s, q, hrun, -, -, hu⟩ :=
      restore_from_history_silent_ok id inp.agent_type hsilent (budget p) hledger
    have hcount := budget_record_spend_restored info hr hm hrun ht
    rw [hu.operations, zero_add] at hcount
    by_cases hd : Debits info inp l
    · rw [if_pos ⟨hd.price, hd.operation⟩] at hcount
      rwa [if_pos hd]
    · rw [if_neg fun hboth => hd ⟨hledger, hboth.1, hboth.2⟩] at hcount
      rwa [if_neg hd]
  · obtain ⟨e, q, hrun, -⟩ :=
      restore_from_history_silent_error id inp.agent_type hsilent (budget p) hledger
    rw [if_neg fun hd => hledger hd.ledger]
    exact budget_record_spend_raised info hr hm hrun

/-- Whatever the ledger, the two counts agree. -/
theorem budget_record_spend_restocked
    (hr : Restores inp.task_id inp.budget_session_id inp.budget_limit_usd id l)
    (hn : ∀ entry ∈ inp.history, 0 ≤ entry.tokens_used) (ht : 0 ≤ inp.tokens_used) :
    ∃ m, Restocked id inp.agent_type m (budget p)
      (budget (after (budget_record_spend info inp p))) := by
  obtain ⟨m, -, hm⟩ := restore_from_history_restocked id inp.agent_type l hn (budget p)
  cases hrun : restore_from_history id inp.agent_type l inp.history (budget p) with
  | ok s q => exact ⟨_, budget_record_spend_restored info hr hm hrun ht⟩
  | error e q => exact ⟨m, budget_record_spend_raised info hr hm hrun⟩

end

/-! ### The counter never falls -/

/-- `Grows`, of a worker. -/
def WorkerGrows (p p' : Probed (World Tok) TokenCounter) : Prop := Grows (budget p) (budget p')

theorem workerGrows_refl (p : Probed (World Tok) TokenCounter) : WorkerGrows p p := Grows.refl _

theorem workerGrows_trans (p₁ p₂ p₃ : Probed (World Tok) TokenCounter) (h₁ : WorkerGrows p₁ p₂)
    (h₂ : WorkerGrows p₂ p₃) : WorkerGrows p₁ p₃ := Grows.trans _ _ _ h₁ h₂

theorem workerGrows_plain {α : Type} (m : WM Tok α) : Keeps WorkerGrows (plain m) :=
  Keeps.zoom (R := fun _ _ => True) (fun _ => trivial) fun _ _ _ _ => le_rfl

theorem workerGrows_on_budget {α : Type} {m : MBE α} (hm : Keeps Grows m) :
    Keeps WorkerGrows (on_budget m : MW Tok α) :=
  Keeps.zoom hm fun _ _ h => h

theorem budget_record_spend_grows (info : ActivityInfo) (inp : BudgetRecordInput) :
    Keeps WorkerGrows (budget_record_spend info inp : MW Tok BudgetRecordResult) := by
  have ht := @workerGrows_trans Tok
  refine Keeps.bind ht (workerGrows_plain _) fun task_id => ?_
  refine Keeps.catching ht ?_ ?_
  · refine Keeps.bind ht ?_ fun ⟨id, restored⟩ => ?_
    · refine Keeps.bind ht (workerGrows_plain _) fun id => ?_
      refine Keeps.bind ht (workerGrows_plain _) fun l => ?_
      exact Keeps.bind ht (workerGrows_on_budget (grows_restore_from_history _ _ _ _))
        fun _ => Keeps.pure workerGrows_refl _
    · refine Keeps.bind ht (workerGrows_plain _) fun c => ?_
      refine Keeps.bind ht (workerGrows_on_budget (grows_record_tokens _ _ _ _)) fun _ => ?_
      exact Keeps.bind ht (workerGrows_plain _) fun _ => Keeps.pure workerGrows_refl _
  · intro e g hg
    obtain ⟨m, -, rfl⟩ := Option.map_eq_some_iff.mp hg
    exact workerGrows_plain m

end Metered

end AegisOs
