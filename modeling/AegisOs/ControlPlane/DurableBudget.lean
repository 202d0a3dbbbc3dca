/-
# `AegisOs.ControlPlane.DurableBudget` — the budget activities under redelivery

`BudgetPreCheck` and `BudgetRecordSpend` rebuild the session from the ledger
they are handed, so what they answer does not depend on the registry they find:
`pre_checked` and `recorded` are their answers as functions of the input (and,
for the second, the operation id), and `budget_pre_check_result` and
`budget_record_spend_result` say that the activities compute them in any world.

`Chain` is a workflow's sequence of `BudgetRecordSpend` executions, each
delivered any number of times, with anything done to the worker's state in
between.  `Chain.ledger` is its invariant: the ledger has one entry per
execution and the snapshot holds the sums.
-/
import AegisOs.ControlPlane.Activities
import AegisOs.Watchdog.Ledger
import Mathlib.Data.List.Infix
import Mathlib.Tactic.FinCases

namespace AegisOs

open Lib Lib.EState

namespace AegisActivities

variable {Tok : Type}

/-! ## The answers as functions of the input -/

/-- `Lit.read` without a state. -/
def readLit {α : Type} (kind : ExcKind) (l : Lit α) : Except Exc α :=
  match l.val with
  | some a => .ok a
  | none => .error ⟨kind, l.raw⟩

theorem read_run {α σ : Type} (kind : ExcKind) (l : Lit α) (s : σ) :
    result (l.read kind s) = readLit kind l ∧ after (l.read kind s) = s := by
  unfold Lit.read readLit
  cases l.val with
  | some a => exact ⟨rfl, rfl⟩
  | none => exact ⟨rfl, rfl⟩

/-- `_require_task_id`. -/
def requiredTaskId (task_id stage : String) : Except Exc String :=
  if task_id = "" then .error ⟨.MissingTaskIdError,
    [.lit "Temporal activity input for stage ", .repr stage, .lit " is missing task_id"]⟩
  else .ok task_id

theorem require_task_id_result (task_id stage agent_type : String) (w : World Tok) :
    result (require_task_id task_id stage agent_type w) = requiredTaskId task_id stage := by
  unfold require_task_id requiredTaskId
  split <;> rfl

theorem require_task_id_run {task_id stage agent_type : String} (h : task_id ≠ "") (w : World Tok) :
    require_task_id task_id stage agent_type w = .ok task_id w := by
  unfold require_task_id
  rw [if_neg h]
  rfl

/-- `_restore_budget_session`. -/
def restored (budget_session_id : Lit Uuid) (agent_type : String) (limit : Lit ℚ)
    (history : List BudgetHistoryEntry) : Except Exc (Uuid × BudgetSession) :=
  (readLit .ValueError budget_session_id).bind fun id =>
    (readLit .InvalidOperation limit).bind fun limit =>
      (BudgetEnforcer.replayed id history (BudgetEnforcer.blank id agent_type limit)).map
        fun session => (id, session)

theorem restore_budget_session_result (bid : Lit Uuid) (agent_type : String) (limit : Lit ℚ)
    (history : List BudgetHistoryEntry) (w : World Tok) :
    result (restore_budget_session bid agent_type limit history w) =
        restored bid agent_type limit history ∧
      ∀ id session, restored bid agent_type limit history = .ok (id, session) →
        (after (restore_budget_session bid agent_type limit history w)).budget_enforcer.sessions id
          = some session := by
  unfold restore_budget_session restored
  rw [result_bind, (read_run _ bid w).1]
  cases hid : readLit .ValueError bid with
  | error x =>
      refine ⟨rfl, ?_⟩
      intro id session h
      cases h
  | ok id =>
      rw [after_bind ((read_run _ bid w).1.trans hid), (read_run _ bid w).2]
      show result ((limit.read .InvalidOperation >>= fun limit => _) w) = _ ∧ _
      rw [result_bind, (read_run _ limit w).1]
      cases hlim : readLit .InvalidOperation limit with
      | error x =>
          refine ⟨rfl, ?_⟩
          intro id session h
          cases h
      | ok lim =>
          obtain ⟨hr, ha⟩ := BudgetEnforcer.restore_from_history_result w.budget_enforcer id
            agent_type lim history
          have hz : result (on_budget
              (BudgetEnforcer.restore_from_history id agent_type lim history) w) = _ :=
            (result_zoom _ _ _ w).trans hr
          rw [after_bind ((read_run _ limit w).1.trans hlim), (read_run _ limit w).2]
          show result ((on_budget _ >>= fun restored => _) w) =
              (BudgetEnforcer.replayed id history (BudgetEnforcer.blank id agent_type lim)).map _ ∧
            ∀ _ _, (BudgetEnforcer.replayed id history
              (BudgetEnforcer.blank id agent_type lim)).map _ = _ → _
          rw [result_bind, hz]
          cases hrep : BudgetEnforcer.replayed id history
              (BudgetEnforcer.blank id agent_type lim) with
          | error x =>
              refine ⟨rfl, ?_⟩
              intro id session h
              cases h
          | ok session =>
              refine ⟨rfl, ?_⟩
              intro id' session' h
              cases h
              rw [after_bind (hz.trans hrep)]
              show (after (on_budget _ w)).budget_enforcer.sessions id = some session
              rw [on_budget, after_zoom]
              exact ha session hrep

/-- The translation of a breach into a non-retryable failure. -/
def refused (e : Exc) : Exc :=
  if e.kind = .BudgetExceededError then ⟨.ApplicationError "BudgetExceededError" true, e.str⟩
  else e

theorem catching_refused_result {α : Type} (event stage task_id agent_type : String)
    (bid : Lit Uuid) (m : WM Tok α) (w : World Tok) :
    result (catching m (budget_refused event stage task_id agent_type bid) w) =
      (result (m w)).mapError refused := by
  unfold catching budget_refused refused
  cases m w with
  | ok a w' => rfl
  | error e w' =>
      simp only [result, Except.mapError]
      by_cases hk : e.kind = .BudgetExceededError
      · rw [if_pos hk, if_pos hk]
        rfl
      · rw [if_neg hk, if_neg hk]

/-- The message of `check_budget` on a session without money. -/
def exhausted_message (id : Uuid) (session : BudgetSession) : Text :=
  [.lit "Session ", .lit id.text, .lit " budget already exhausted ($", .dec session.cost_usd,
    .lit " >= $", .dec session.budget_limit_usd, .lit ")"]

theorem check_budget_result {e : BudgetEnforcer} {id : Uuid} {s : BudgetSession}
    (h : e.sessions id = some s) :
    result (BudgetEnforcer.check_budget id e) =
      if s.budget_limit_usd ≤ s.cost_usd then
        .error ⟨.BudgetExceededError, exhausted_message id s⟩
      else .ok () := by
  unfold BudgetEnforcer.check_budget
  rw [bind_ok (BudgetEnforcer.require_session_run h)]
  by_cases hle : s.budget_limit_usd ≤ s.cost_usd
  · rw [if_pos hle, if_pos hle]
    rfl
  · rw [if_neg hle, if_neg hle]
    rfl

/-- What both budget activities do: restore a session, and go on with it.  The answer is `g` of the
session if that is the answer of the rest. -/
theorem restoring_result {α : Type} (task_id stage agent_type event : String) (bid : Lit Uuid)
    (limit : Lit ℚ) (history : List BudgetHistoryEntry)
    {f : String → Uuid × BudgetSession → WM Tok α} {g : Uuid × BudgetSession → Except Exc α}
    (hf : ∀ t id session w, w.budget_enforcer.sessions id = some session →
      result (f t (id, session) w) = g (id, session)) (w : World Tok) :
    result ((require_task_id task_id stage agent_type >>= fun t =>
      catching (restore_budget_session bid agent_type limit history >>= f t)
        (budget_refused event stage t agent_type bid)) w) =
      (requiredTaskId task_id stage).bind fun _ =>
        ((restored bid agent_type limit history).bind g).mapError refused := by
  rw [result_bind, require_task_id_result]
  cases requiredTaskId task_id stage with
  | error x => rfl
  | ok t =>
      show result (catching _ (budget_refused _ _ _ _ _) _) = Except.mapError refused _
      rw [catching_refused_result]
      congr 1
      generalize after (require_task_id task_id stage agent_type w) = w₁
      obtain ⟨hr, ha⟩ := restore_budget_session_result bid agent_type limit history w₁
      rw [result_bind, hr]
      cases hres : restored bid agent_type limit history with
      | error x => rfl
      | ok p => exact hf t p.1 p.2 _ (ha p.1 p.2 hres)

/-- `BudgetPreCheck`, as a function of the input. -/
def pre_checked (inp : BudgetPreCheckInput) : Except Exc BudgetPreCheckResult :=
  (requiredTaskId inp.task_id "watchdog.pre-llm").bind fun _ =>
    ((restored inp.budget_session_id inp.agent_type inp.budget_limit_usd inp.history).bind
      fun (id, session) =>
        if session.budget_limit_usd ≤ session.cost_usd then
          .error ⟨.BudgetExceededError, exhausted_message id session⟩
        else .ok ⟨session.serialize⟩).mapError refused

/-- The answer of `BudgetPreCheck` does not depend on the world it is asked in. -/
theorem budget_pre_check_result (inp : BudgetPreCheckInput) (w : World Tok) :
    result (budget_pre_check inp w) = pre_checked inp := by
  refine restoring_result inp.task_id "watchdog.pre-llm" inp.agent_type "budget.exceeded"
    inp.budget_session_id inp.budget_limit_usd inp.history ?_ w
  intro task_id id session w₂ hsession
  show result ((on_budget _ >>= fun _ => _) w₂) = ite _ _ _
  rw [result_bind, on_budget, result_zoom, check_budget_result hsession]
  split <;> rfl

/-- `BudgetRecordSpend`, as a function of the operation id and the input. -/
def recorded (op : String) (inp : BudgetRecordInput) : Except Exc BudgetRecordResult :=
  (requiredTaskId inp.task_id "watchdog.record-spend").bind fun _ =>
    ((restored inp.budget_session_id inp.agent_type inp.budget_limit_usd inp.history).bind
      fun (id, session) =>
        (readLit .InvalidOperation inp.cost_per_token_usd).bind fun c =>
          (BudgetEnforcer.charged id session inp.tokens_used c op).map fun session' =>
            ⟨session'.serialize,
              if op ∈ session.applied_operation_ids then inp.history
              else inp.history ++ [⟨op, Decimal.mul c inp.tokens_used, inp.tokens_used⟩]⟩).mapError
      refused

/-- The answer of `BudgetRecordSpend` does not depend on the world it is asked in. -/
theorem budget_record_spend_result (info : ActivityInfo) (inp : BudgetRecordInput)
    (w : World Tok) :
    result (budget_record_spend info inp w) = recorded (operation_id info) inp := by
  refine restoring_result inp.task_id "watchdog.record-spend" inp.agent_type
    "budget.exceeded_on_record" inp.budget_session_id inp.budget_limit_usd inp.history ?_ w
  intro task_id id session w₂ hsession
  show result ((inp.cost_per_token_usd.read .InvalidOperation >>= fun c => _) w₂) =
    (readLit .InvalidOperation inp.cost_per_token_usd).bind _
  rw [result_bind, (read_run _ _ w₂).1, (read_run _ _ w₂).2]
  cases readLit .InvalidOperation inp.cost_per_token_usd with
  | error x => rfl
  | ok c =>
      show result ((on_budget _ >>= fun session => _) w₂) =
        (BudgetEnforcer.charged id session inp.tokens_used c (operation_id info)).map _
      rw [result_bind, on_budget, result_zoom,
        (BudgetEnforcer.record_tokens_result hsession inp.tokens_used c _).1]
      cases BudgetEnforcer.charged id session inp.tokens_used c (operation_id info) with
      | error x => rfl
      | ok session' => rfl

/-! ## Chains of executions -/

/-- A `BudgetRecordSpend` execution of a workflow: its operation id, and the input that every
delivery of it carries, the ledger apart. -/
structure Execution where
  op : String
  inp : BudgetRecordInput

/-- A delivery of the execution with a ledger. -/
def Execution.deliver (x : Execution) (info : ActivityInfo) (history : List BudgetHistoryEntry) :
    WM Tok BudgetRecordResult :=
  budget_record_spend info { x.inp with history := history }

/-- What the execution spends.  A malformed price makes every delivery raise. -/
def Execution.spend (x : Execution) : BudgetEnforcer.Spend :=
  ⟨x.op, x.inp.tokens_used, x.inp.cost_per_token_usd.val.getD 0⟩

/-- The ledger with one entry for each of the executions. -/
def entries (xs : List Execution) : List BudgetHistoryEntry :=
  (xs.map Execution.spend).map BudgetEnforcer.Spend.entry

/-- `Chain xs b r w`: the executions `xs` have been delivered, in this order, each at least once;
`b` is the ledger before the last one's own entry, `r` the result of the last delivery and `w` the
worker's state. -/
inductive Chain : List Execution → List BudgetHistoryEntry → BudgetRecordResult → World Tok → Prop
  | first {x : Execution} {info : ActivityInfo} {w w' : World Tok} {r : BudgetRecordResult} :
      operation_id info = x.op →
      x.deliver info [] w = .ok r w' →
      Chain [x] [] r w'
  /-- The next execution is handed the ledger the last delivery returned. -/
  | next {xs : List Execution} {b : List BudgetHistoryEntry} {x : Execution} {info : ActivityInfo}
      {w w' : World Tok} {r r' : BudgetRecordResult} :
      Chain xs b r w →
      operation_id info = x.op → (∀ y ∈ xs, y.op ≠ x.op) →
      x.deliver info r.history w = .ok r' w' →
      Chain (xs ++ [x]) r.history r' w'
  /-- A redelivery with the ledger before the execution's own entry. -/
  | again {xs : List Execution} {b : List BudgetHistoryEntry} {x : Execution} {info : ActivityInfo}
      {w w' : World Tok} {r r' : BudgetRecordResult} :
      Chain (xs ++ [x]) b r w →
      operation_id info = x.op →
      x.deliver info b w = .ok r' w' →
      Chain (xs ++ [x]) b r' w'
  /-- A redelivery with a ledger that already contains the execution's entry. -/
  | contained {xs : List Execution} {b : List BudgetHistoryEntry} {x : Execution}
      {info : ActivityInfo} {w w' : World Tok} {r r' : BudgetRecordResult} :
      Chain xs b r w →
      x ∈ xs → operation_id info = x.op →
      x.deliver info r.history w = .ok r' w' →
      Chain xs b r' w'
  /-- Whatever else is done to the worker's state: other activities, also for this budget session,
  deliveries that fail, deliveries whose result is dropped. -/
  | other {xs : List Execution} {b : List BudgetHistoryEntry} {w : World Tok}
      {r : BudgetRecordResult} (w' : World Tok) :
      Chain xs b r w →
      Chain xs b r w'

/-- The invariant of a chain. -/
structure Ledger (xs : List Execution) (b : List BudgetHistoryEntry) (r : BudgetRecordResult) :
    Prop where
  nodup : (xs.map Execution.op).Nodup
  history : r.history = entries xs
  before : ∃ ys x, xs = ys ++ [x] ∧ b = entries ys
  price : ∀ x ∈ xs, x.inp.cost_per_token_usd.val = some x.spend.cost_per_token
  cost : r.snapshot.cost_usd = (xs.map fun x => x.spend.amount).sum
  tokens : r.snapshot.tokens_used = (xs.map fun x => x.inp.tokens_used).sum

theorem map_spend_op (xs : List Execution) :
    (xs.map Execution.spend).map BudgetEnforcer.Spend.op = xs.map Execution.op := by
  rw [List.map_map]
  rfl

theorem readLit_ok {α : Type} {kind : ExcKind} {l : Lit α} {a : α}
    (h : readLit kind l = .ok a) : l.val = some a := by
  unfold readLit at h
  cases hv : l.val with
  | some b =>
      rw [hv] at h
      cases h
      rfl
  | none =>
      rw [hv] at h
      cases h

theorem restored_ok {bid : Lit Uuid} {agent_type : String} {limit : Lit ℚ}
    {history : List BudgetHistoryEntry} {id : Uuid} {session : BudgetSession}
    (h : restored bid agent_type limit history = .ok (id, session)) :
    ∃ lim, bid.val = some id ∧ limit.val = some lim ∧
      BudgetEnforcer.replayed id history (BudgetEnforcer.blank id agent_type lim) =
        .ok session := by
  obtain ⟨id', hid, h₁⟩ := except_bind_eq_ok h
  obtain ⟨lim, hlim, h₂⟩ := except_bind_eq_ok h₁
  obtain ⟨session', hrep, he⟩ := except_map_eq_ok h₂
  cases he
  exact ⟨lim, readLit_ok hid, readLit_ok hlim, hrep⟩

/-- A delivery that returns has read its price, rebuilt a session and charged it. -/
theorem recorded_ok {op : String} {inp : BudgetRecordInput} {r : BudgetRecordResult}
    (h : recorded op inp = .ok r) :
    ∃ id limit c session session',
      BudgetEnforcer.replayed id inp.history (BudgetEnforcer.blank id inp.agent_type limit) =
        .ok session ∧
      inp.cost_per_token_usd.val = some c ∧
      BudgetEnforcer.charged id session inp.tokens_used c op = .ok session' ∧
      r = ⟨session'.serialize,
        if op ∈ session.applied_operation_ids then inp.history
        else inp.history ++ [⟨op, Decimal.mul c inp.tokens_used, inp.tokens_used⟩]⟩ := by
  obtain ⟨task_id, -, h₁⟩ := except_bind_eq_ok h
  obtain ⟨⟨id, session⟩, hres, h₂⟩ := except_bind_eq_ok (mapError_eq_ok h₁)
  obtain ⟨c, hc, h₃⟩ := except_bind_eq_ok h₂
  obtain ⟨session', hcharged, hr⟩ := except_map_eq_ok h₃
  obtain ⟨limit, -, -, hrep⟩ := restored_ok hres
  exact ⟨id, limit, c, session, session', hrep, readLit_ok hc, hcharged, hr⟩

/-- A delivery of an execution the ledger does not know. -/
theorem recorded_new {xs : List Execution} {x : Execution} {r : BudgetRecordResult}
    (hex : BudgetEnforcer.Exact ((xs ++ [x]).map Execution.spend))
    (hnd : (xs.map Execution.op).Nodup) (hnew : ∀ y ∈ xs, y.op ≠ x.op)
    (hprice : ∀ y ∈ xs, y.inp.cost_per_token_usd.val = some y.spend.cost_per_token)
    (h : recorded x.op { x.inp with history := entries xs } = .ok r) :
    Ledger (xs ++ [x]) (entries xs) r := by
  obtain ⟨id, limit, c, session, session', hrep, hc, hcharged, rfl⟩ := recorded_ok h
  have hspend : x.spend = ⟨x.op, x.inp.tokens_used, c⟩ := by
    unfold Execution.spend
    rw [show x.inp.cost_per_token_usd.val = some c from hc]
    rfl
  have hx : x.spend ∈ (xs ++ [x]).map Execution.spend := by simp
  have hmul : Decimal.mul x.spend.tokens c = x.spend.amount := by
    have := Decimal.mul_eq (hex.product _ hx)
    rw [hspend]
    rwa [hspend] at this
  have hmem : x.spend.op ∉ (xs.map Execution.spend).map BudgetEnforcer.Spend.op := by
    rw [map_spend_op, List.mem_map]
    rintro ⟨y, hy, he⟩
    exact hnew y hy he
  rw [List.map_append] at hex
  have hholds := BudgetEnforcer.replayed_holds (BudgetEnforcer.blank_holds _ _ _) _ hex.of_append
    (by rwa [map_spend_op]) hrep
  have hfresh : x.op ∉ session.applied_operation_ids := by
    rw [hholds.ops, List.mem_toFinset]
    exact hmem
  have hsum := BudgetEnforcer.charged_new hholds hmem hmul (hex.sums _ (List.prefix_refl _))
    hcharged
  refine ⟨?_, ?_, ⟨xs, x, rfl, rfl⟩, ?_, ?_, ?_⟩
  · rw [List.map_append, List.nodup_append]
    refine ⟨hnd, by simp, ?_⟩
    intro op hop op' hop'
    obtain ⟨y, hy, rfl⟩ := List.mem_map.mp hop
    rw [List.map_cons, List.map_nil, List.mem_singleton] at hop'
    exact hop' ▸ hnew y hy
  · have hcomm : Decimal.mul c x.inp.tokens_used = x.spend.amount := by
      rw [← hmul]
      unfold Decimal.mul
      rw [mul_comm]
      rfl
    rw [if_neg hfresh]
    show entries xs ++ [⟨x.op, Decimal.mul c x.inp.tokens_used, x.inp.tokens_used⟩] = _
    rw [hcomm, entries, entries, List.map_append, List.map_append]
    rfl
  · intro y hy
    rcases List.mem_append.mp hy with hy | hy
    · exact hprice y hy
    · rw [List.mem_singleton.mp hy, hspend]
      exact hc
  · show session'.cost_usd = _
    rw [hsum.cost, ← List.map_singleton, ← List.map_append, List.map_map]
    rfl
  · show session'.tokens_used = _
    rw [hsum.tokens, ← List.map_singleton, ← List.map_append, List.map_map]
    rfl

/-- A delivery of an execution whose entry is in the ledger. -/
theorem recorded_known {xs : List Execution} {x : Execution} {b : List BudgetHistoryEntry}
    {r r' : BudgetRecordResult} (hex : BudgetEnforcer.Exact (xs.map Execution.spend))
    (hl : Ledger xs b r) (hx : x ∈ xs)
    (h : recorded x.op { x.inp with history := entries xs } = .ok r') : Ledger xs b r' := by
  obtain ⟨id, limit, c, session, session', hrep, -, hcharged, rfl⟩ := recorded_ok h
  have hholds := BudgetEnforcer.replayed_holds (BudgetEnforcer.blank_holds _ _ _) _ hex
    (by rw [map_spend_op]; exact hl.nodup) hrep
  have hknown : x.op ∈ session.applied_operation_ids := by
    rw [hholds.ops, List.mem_toFinset, map_spend_op]
    exact List.mem_map_of_mem hx
  cases BudgetEnforcer.charged_known hknown hcharged
  refine ⟨hl.nodup, ?_, hl.before, hl.price, ?_, ?_⟩
  · rw [if_pos hknown]
  · show session.cost_usd = _
    rw [hholds.cost, List.map_map]
    rfl
  · show session.tokens_used = _
    rw [hholds.tokens, List.map_map]
    rfl

/-- What a delivery that returns has computed. -/
theorem Execution.deliver_ok {x : Execution} {info : ActivityInfo} {b : List BudgetHistoryEntry}
    {w w' : World Tok} {r : BudgetRecordResult} (hop : operation_id info = x.op)
    (h : x.deliver info b w = .ok r w') :
    recorded x.op { x.inp with history := b } = .ok r := by
  rw [← hop, ← budget_record_spend_result info _ w]
  exact congrArg result h

theorem Chain.ledger {xs : List Execution} {b : List BudgetHistoryEntry} {r : BudgetRecordResult}
    {w : World Tok} (h : Chain xs b r w) (hex : BudgetEnforcer.Exact (xs.map Execution.spend)) :
    Ledger xs b r := by
  induction h with
  | first hop hd =>
      exact @recorded_new [] _ _ hex List.nodup_nil (by simp) (by simp)
        (Execution.deliver_ok hop hd)
  | next _ hop hnew hd ih =>
      have hl := ih (by rw [List.map_append] at hex; exact hex.of_append)
      rw [hl.history] at hd ⊢
      exact recorded_new hex hl.nodup hnew hl.price (Execution.deliver_ok hop hd)
  | again _ hop hd ih =>
      have hl := ih hex
      obtain ⟨ys, y, he, rfl⟩ := hl.before
      obtain ⟨rfl, hxy⟩ := List.append_inj' he rfl
      have hnd := hl.nodup
      rw [List.map_append, List.nodup_append] at hnd
      refine recorded_new hex hnd.1 ?_ ?_ (Execution.deliver_ok hop hd)
      · intro z hz hzx
        exact hnd.2.2 _ (List.mem_map_of_mem hz) _ (by simp) hzx
      · intro z hz
        exact hl.price z (List.mem_append_left _ hz)
  | contained _ hx hop hd ih =>
      have hl := ih hex
      rw [hl.history] at hd
      exact recorded_known hex hl hx (Execution.deliver_ok hop hd)
  | other _ _ ih => exact ih hex

/-- **The budget activities are replay-safe.**  An execution's answer is a function of its input
and operation id, and however often the executions of a chain are delivered, and whatever happens
to the enforcer in between, the ledger the last delivery returned has exactly one entry per
execution and its snapshot the sums over the executions. -/
theorem budget_record_spend_replay_safe :
    (∀ (info info' : ActivityInfo) (inp : BudgetRecordInput) (w w' : World Tok),
      operation_id info = operation_id info' →
      result (budget_record_spend info inp w) = result (budget_record_spend info' inp w')) ∧
    ∀ (xs : List Execution) (b : List BudgetHistoryEntry) (r : BudgetRecordResult) (w : World Tok),
      Chain xs b r w → BudgetEnforcer.Exact (xs.map Execution.spend) →
        r.history.map BudgetHistoryEntry.operation_id = xs.map Execution.op ∧
        (r.history.map BudgetHistoryEntry.operation_id).Nodup ∧
        (∀ x ∈ xs, x.inp.cost_per_token_usd.val = some x.spend.cost_per_token) ∧
        r.snapshot.cost_usd =
          (xs.map fun x => (x.inp.tokens_used : ℚ) * x.spend.cost_per_token).sum ∧
        r.snapshot.tokens_used = (xs.map fun x => x.inp.tokens_used).sum := by
  constructor
  · intro info info' inp w w' hop
    rw [budget_record_spend_result, budget_record_spend_result, hop]
  · intro xs b r w h hex
    have hl := h.ledger hex
    have hops : r.history.map BudgetHistoryEntry.operation_id = xs.map Execution.op := by
      rw [hl.history, ← map_spend_op, entries, List.map_map]
      rfl
    exact ⟨hops, hops ▸ hl.nodup, hl.price, hl.cost, hl.tokens⟩

/-- Ten tokens at one cent, as the first spend of a workflow. -/
def firstSpend : Execution where
  op := "wf-0:7"
  inp :=
    { task_id := "task-0"
      agent_type := "general"
      budget_session_id := ⟨"budget-0", some ⟨"budget-0"⟩⟩
      budget_limit_usd := ⟨"1.00", some 1⟩
      tokens_used := 10
      cost_per_token_usd := ⟨"0.01", some (1 / 100)⟩ }

/-- Five tokens at two cents, as its second. -/
def secondSpend : Execution where
  op := "wf-0:9"
  inp := { firstSpend.inp with
    tokens_used := 5
    cost_per_token_usd := ⟨"0.02", some (2 / 100)⟩ }

/-- The session after the two. -/
def spentSession : BudgetSession where
  session_id := ⟨"budget-0"⟩
  agent_type := "general"
  budget_limit_usd := 1
  tokens_used := 15
  cost_usd := 1 / 5
  applied_operation_ids := {"wf-0:9", "wf-0:7"}

def firstResult : BudgetRecordResult :=
  ⟨⟨⟨"budget-0"⟩, "general", 1, 10, 1 / 10, [], ["wf-0:7"]⟩, [⟨"wf-0:7", 1 / 10, 10⟩]⟩

def secondResult : BudgetRecordResult :=
  ⟨spentSession.serialize, [⟨"wf-0:7", 1 / 10, 10⟩, ⟨"wf-0:9", 1 / 10, 5⟩]⟩

/-- How a delivery comes to return. -/
theorem recorded_eq {op : String} {inp : BudgetRecordInput} {c : ℚ} {session' : BudgetSession}
    {history : List BudgetHistoryEntry} (id : Uuid) (session : BudgetSession)
    (ht : inp.task_id ≠ "")
    (hr : restored inp.budget_session_id inp.agent_type inp.budget_limit_usd inp.history =
      .ok (id, session))
    (hc : inp.cost_per_token_usd.val = some c)
    (hs : BudgetEnforcer.charged id session inp.tokens_used c op = .ok session')
    (hh : history = if op ∈ session.applied_operation_ids then inp.history
      else inp.history ++ [⟨op, Decimal.mul c inp.tokens_used, inp.tokens_used⟩]) :
    recorded op inp = .ok ⟨session'.serialize, history⟩ := by
  unfold recorded requiredTaskId readLit
  rw [if_neg ht, hr, hc, hh]
  simp only [Except.bind, hs, Except.map, Except.mapError]

theorem Execution.delivered {x : Execution} {info : ActivityInfo} {b : List BudgetHistoryEntry}
    {r : BudgetRecordResult} (hop : operation_id info = x.op)
    (h : recorded x.op { x.inp with history := b } = .ok r) (w : World Tok) :
    ∃ w', x.deliver info b w = .ok r w' := by
  rw [← hop, ← budget_record_spend_result info _ w] at h
  exact ⟨_, eq_ok h⟩

/-- The first is delivered twice with an empty ledger, and once more after the second. -/
theorem twoSpends_chain (w : World Tok) :
    ∃ w' : World Tok, Chain [firstSpend, secondSpend] firstResult.history secondResult w' := by
  have hop₁ (n : ℕ) : operation_id ⟨some "wf-0", "7", n⟩ = firstSpend.op := rfl
  have hop₂ (n : ℕ) : operation_id ⟨some "wf-0", "9", n⟩ = secondSpend.op := rfl
  have h₁ : recorded firstSpend.op { firstSpend.inp with history := [] } = .ok firstResult := by
    decide +kernel
  have h₂ : recorded secondSpend.op { secondSpend.inp with history := firstResult.history } =
      .ok secondResult :=
    recorded_eq ⟨"budget-0"⟩
      { spentSession with
        tokens_used := 10, cost_usd := 1 / 10, applied_operation_ids := {"wf-0:7"} }
      (by decide) (by decide +kernel) rfl (by decide +kernel) (by decide +kernel)
  have h₃ : recorded firstSpend.op { firstSpend.inp with history := secondResult.history } =
      .ok secondResult :=
    recorded_eq ⟨"budget-0"⟩ spentSession (by decide) (by decide +kernel) rfl (by decide +kernel)
      (by decide +kernel)
  obtain ⟨w₁, hw₁⟩ := Execution.delivered (hop₁ 1) h₁ w
  obtain ⟨w₂, hw₂⟩ := Execution.delivered (hop₁ 2) h₁ w₁
  obtain ⟨w₃, hw₃⟩ := Execution.delivered (hop₂ 1) h₂ w₂
  obtain ⟨w₄, hw₄⟩ := Execution.delivered (hop₁ 3) h₃ w₃
  have hc₁ : Chain [firstSpend] [] firstResult w₁ := .first (hop₁ 1) hw₁
  have hc₂ : Chain ([] ++ [firstSpend]) [] firstResult w₂ := .again hc₁ (hop₁ 2) hw₂
  have hc₃ : Chain [firstSpend, secondSpend] firstResult.history secondResult w₃ :=
    .next hc₂ (hop₂ 1) (by decide) hw₃
  exact ⟨w₄, .contained hc₃ (by simp) (hop₁ 3) hw₄⟩

theorem twoSpends_exact :
    BudgetEnforcer.Exact ([firstSpend, secondSpend].map Execution.spend) where
  product := by
    intro x hx
    refine ⟨1, -1, by decide, ?_⟩
    fin_cases hx <;> decide +kernel
  quotient := by
    intro x hx _
    fin_cases hx
    · exact ⟨1, -2, by decide, by decide +kernel⟩
    · exact ⟨2, -2, by decide, by decide +kernel⟩
  sums := by
    intro ys hys
    have hmem := (List.mem_inits _ _).mpr hys
    fin_cases hmem
    · exact ⟨0, 0, by decide, by decide +kernel⟩
    · exact ⟨1, -1, by decide, by decide +kernel⟩
    · exact ⟨2, -1, by decide, by decide +kernel⟩

theorem twoSpends_recorded_once :
    ∃ w : World Unit, Chain [firstSpend, secondSpend] firstResult.history secondResult w ∧
      secondResult.snapshot.cost_usd = 10 * (1 / 100) + 5 * (2 / 100) := by
  let w₀ : World Unit := World.fresh {} (.still 0) fun _ => ""
  obtain ⟨w, hw⟩ := twoSpends_chain w₀
  refine ⟨w, hw, ?_⟩
  rw [(budget_record_spend_replay_safe.2 _ _ _ w hw twoSpends_exact).2.2.2.1]
  decide +kernel

end AegisActivities

end AegisOs
