/-
# `AegisOs.ControlPlane.ConcurrentBudget` — many runs, one budget session

Any number of `Orchestrator.run` calls on one world, interleaved at their two
awaits.  The check of the budget and the debit are in different segments, so
several runs can pass the check before one of them debits.  What holds then:

* a segment leaves the registry alone, unless it follows an answer of the
  adapter, and then it debits exactly once, also where it raises
  (`run_budget_safe`, by the rules of `Lib.Co`);
* so the cost is the starting cost plus what the answered calls cost
  (`ledger_of_run`);
* a call that starts finds money left, so at any time

      cost + (calls in flight) · c  ≤  max(limit, start) + k · c

  where no call costs more than `c` and at most `k` are in flight
  (`exposure_of_run`).
-/
import AegisOs.ControlPlane.Frame
import Mathlib.Algebra.BigOperators.Group.Finset.Basic
import Mathlib.Data.Fintype.Basic
import Mathlib.Tactic.IntervalCases

namespace AegisOs.Orchestrator

open Lib Lib.EState

variable {Tok : Type}

/-! ## What a stage does to the registry -/

/-- The registry of budget sessions is as it was. -/
def SameBudget (w w' : World Tok) : Prop :=
  w'.budget_enforcer.sessions = w.budget_enforcer.sessions

theorem SameBudget.refl (w : World Tok) : SameBudget w w := rfl

theorem SameBudget.trans (w₁ w₂ w₃ : World Tok) (h₁ : SameBudget w₁ w₂) (h₂ : SameBudget w₂ w₃) :
    SameBudget w₁ w₃ :=
  Eq.trans h₂ h₁

theorem OnlyAudit.sameBudget {w w' : World Tok} (h : OnlyAudit w w') : SameBudget w w' := by
  unfold SameBudget
  rw [h.2.1]

theorem same_check_budget (id : Uuid) :
    Keeps SameBudget (on_budget (BudgetEnforcer.check_budget id) : WM Tok Unit) := by
  refine Keeps.zoom (R := fun e e' : BudgetEnforcer => e'.sessions = e.sessions) ?_
    fun _ _ h => h
  intro e
  cases hs : e.sessions id with
  | none =>
      obtain ⟨x, hx, -⟩ := BudgetEnforcer.require_session_none hs
      unfold BudgetEnforcer.check_budget
      rw [bind_error hx]
      rfl
  | some s =>
      obtain ⟨hlt, hge⟩ := BudgetEnforcer.check_budget_run hs
      by_cases hb : s.cost_usd < s.budget_limit_usd
      · rw [hlt hb]
        rfl
      · obtain ⟨msg, hm⟩ := hge (not_lt.mp hb)
        rw [hm]
        rfl

/-- Only the debit touches the registry. -/
theorem budgetFrame : Frame (@SameBudget Tok) := by
  have hsession : ∀ {α : Type} (m : SM Tok α), Keeps SameBudget (on_session_mgr m) := fun m =>
    Keeps.zoom (R := fun _ _ => True) (fun _ => trivial) fun _ _ _ => rfl
  exact
    { refl := SameBudget.refl
      trans := SameBudget.trans
      audit := fun _ _ h => OnlyAudit.sameBudget h
      validate_token := fun _ _ => hsession _
      is_expired := fun _ => hsession _
      issue_token := fun _ _ => hsession _
      generate_dpop_key_pair := hsession _
      issue_dpop_proof := fun _ _ _ _ _ _ _ => hsession _
      check_budget := same_check_budget
      loop := fun _ => Keeps.zoom (R := fun _ _ => True) (fun _ => trivial) fun _ _ _ => rfl }

/-! ## The debit -/

/-- The session `id` is debited once, by `amount`. -/
def Debited (id : Uuid) (amount : ℚ) (w w' : World Tok) : Prop :=
  ∀ s, w.budget_enforcer.sessions id = some s →
    ∃ s', w'.budget_enforcer.sessions id = some s' ∧ s'.budget_limit_usd = s.budget_limit_usd ∧
      s'.cost_usd = Decimal.add s.cost_usd amount

theorem Debited.same {id : Uuid} {amount : ℚ} (w₁ w₂ w₃ : World Tok) (h₁ : Debited id amount w₁ w₂)
    (h₂ : SameBudget w₂ w₃) : Debited id amount w₁ w₃ := by
  intro s hs
  obtain ⟨s', hs', hl, hc⟩ := h₁ s hs
  exact ⟨s', by rw [h₂, hs'], hl, hc⟩

theorem Debited.of_same {id : Uuid} {amount : ℚ} {w₁ w₂ w₃ : World Tok} (h₁ : SameBudget w₁ w₂)
    (h₂ : Debited id amount w₂ w₃) : Debited id amount w₁ w₃ := by
  intro s hs
  exact h₂ s (by rw [h₁, hs])

theorem debited_record_spend (id : Uuid) (amount : ℚ) :
    Keeps (Debited id amount) (on_budget (BudgetEnforcer.record_spend id amount none) :
      WM Tok BudgetSession) := by
  refine Keeps.zoom (R := fun e e' : BudgetEnforcer => ∀ s, e.sessions id = some s →
    ∃ s', e'.sessions id = some s' ∧ s'.budget_limit_usd = s.budget_limit_usd ∧
      s'.cost_usd = Decimal.add s.cost_usd amount) ?_ fun _ _ h => h
  intro e s hs
  rw [BudgetEnforcer.record_spend_run hs, if_neg (by simp [BudgetEnforcer.is_duplicate_operation])]
  split
  · -- a breach raises after the debit
    refine ⟨_, BudgetEnforcer.put_self _ _ _, ?_, ?_⟩
    · simp
    · simp
  · refine ⟨_, BudgetEnforcer.put_self _ _ _, ?_, ?_⟩
    · simp
    · simp

section
variable {O : Orchestrator Tok} {rq : OrchestratorRequest Tok} {task_id : Uuid} {id : Uuid}

theorem debited_after_llm (hid : budget_session O rq = some id) (m : MaskResult) (token : Tok)
    (resp : LLMResponse) :
    Keeps (Debited id (Decimal.mul resp.tokens_used rq.cost_per_token))
      (after_llm O rq task_id m token resp) := by
  refine budgetFrame.after_llm O rq task_id Debited.same ?_ m token
  refine budgetFrame.watchdog_record_spend O rq task_id Debited.same ?_ ?_
  · intro hnone
    rw [hid] at hnone
    cases hnone
  · intro id' hid'
    rw [hid] at hid'
    cases hid'
    exact debited_record_spend id _

/-- What a segment does to the session, given the calls answered before it. -/
def SegmentOk (id : Uuid) (rq : OrchestratorRequest Tok) (h : Answered Tok) (w w' : World Tok) :
    Prop :=
  match h.getLast? with
  | some ⟨.complete _, .ok resp⟩ =>
      Debited id (Decimal.mul resp.tokens_used rq.cost_per_token) w w'
  | _ => SameBudget w w'

/-- A run debits in the segment after the adapter's answer and nowhere else, and calls the adapter
only while there is money left. -/
theorem run_budget_safe (hid : budget_session O rq = some id) (w : World Tok) :
    Co.Safe Co.anyEnv
      (fun h w₀ q w => SegmentOk id rq h w₀ w ∧ (isComplete q = true → BudgetOk w id))
      (fun h w₀ _ w => SegmentOk id rq h w₀ w) (fun h w₀ _ w => SegmentOk id rq h w₀ w)
      [] w (run O rq) w := by
  unfold run
  cases rq.task_id with
  | none => exact SameBudget.refl w
  | some task_id =>
      refine Co.Safe.bind (Co.Safe.lift ?_ ?_)
      · intro pre_mask w₁ hpre
        have h₁ : SameBudget w w₁ := (budgetFrame.pre_sanitize O rq task_id).ok hpre
        refine Co.Safe.bind (safe_policy_eval ⟨h₁, fun hf => by cases hf⟩ ?_ ?_)
        · intro pr w₂ w₃ _ _ _ h₃
          refine Co.Safe.bind (Co.Safe.lift ?_ ?_)
          · rintro ⟨m, token, adapter_token, proof⟩ w₄ hbefore
            have h₄ : SameBudget w₂ w₄ := SameBudget.trans _ _ _ (OnlyAudit.sameBudget h₃)
              ((budgetFrame.before_llm O rq task_id pr pre_mask).ok hbefore)
            have hbudget := (before_llm_ok hbefore).2.2.2 id hid
            refine Co.Safe.bind (safe_llm_invoke ⟨h₄, fun _ => hbudget⟩ ?_ ?_)
            · intro resp w₅ w₆ _ h₆
              have hdebit : Keeps (Debited id (Decimal.mul resp.tokens_used rq.cost_per_token))
                  (after_llm O rq task_id m token resp) := debited_after_llm hid m token resp
              refine Co.Safe.lift ?_ ?_
              · intro r w₇ hrun
                exact Debited.of_same (OnlyAudit.sameBudget h₆) (hdebit.ok hrun)
              · intro e w₇ hrun
                exact Debited.of_same (OnlyAudit.sameBudget h₆) (hdebit.error hrun)
            · exact fun e w' e' w'' _ h' => OnlyAudit.sameBudget h'
          · intro e w₄ hrun
            exact SameBudget.trans _ _ _ (OnlyAudit.sameBudget h₃)
              ((budgetFrame.before_llm O rq task_id pr pre_mask).error hrun)
        · exact fun r w' e w'' _ _ h' => OnlyAudit.sameBudget h'
      · intro e w₁ hrun
        exact (budgetFrame.pre_sanitize O rq task_id).error hrun

end

/-! ## The pool -/

section Pool
variable {ι : Type}

abbrev RunPool (Tok ι : Type) : Type :=
  Co.Pool (World Tok) Exc (OrchCall Tok) OrchCall.Answer (OrchestratorResult Tok) ι

abbrev RunEvent (Tok ι : Type) : Type := Co.Pool.Event Exc (OrchCall Tok) OrchCall.Answer ι

/-- All the runs, none of them started. -/
def poolStart (O : Orchestrator Tok) (rq : ι → OrchestratorRequest Tok) (w : World Tok) :
    RunPool Tok ι :=
  ⟨w, fun i => .fresh (run O (rq i))⟩

/-- What an answer costs the run that receives it. -/
def answerCost (rq : OrchestratorRequest Tok) : (q : OrchCall Tok) → Except Exc q.Answer → ℚ
  | .complete _, .ok resp => (resp : LLMResponse).tokens_used * rq.cost_per_token
  | _, _ => 0

/-- What an event costs: something only when an adapter call returns. -/
def eventCost (rq : ι → OrchestratorRequest Tok) : RunEvent Tok ι → ℚ
  | .start _ => 0
  | .answer i q r => answerCost (rq i) q r

/-- What the adapter calls that have returned have cost together. -/
def spent (rq : ι → OrchestratorRequest Tok) (evs : List (RunEvent Tok ι)) : ℚ :=
  (evs.map (eventCost rq)).sum

/-- The decimals involved fit the context: the cost of each call, and each sum on the way. -/
structure Exact (rq : ι → OrchestratorRequest Tok) (start : ℚ) (evs : List (RunEvent Tok ι)) :
    Prop where
  costs : ∀ ev ∈ evs, Decimal.Fits (eventCost rq ev)
  sums : ∀ evs', evs' <+: evs → Decimal.Fits (start + spent rq evs')

theorem spent_snoc (rq : ι → OrchestratorRequest Tok) (evs : List (RunEvent Tok ι))
    (ev : RunEvent Tok ι) : spent rq (evs ++ [ev]) = spent rq evs + eventCost rq ev := by
  simp [spent]

theorem Exact.init {rq : ι → OrchestratorRequest Tok} {start : ℚ} {evs : List (RunEvent Tok ι)}
    {ev : RunEvent Tok ι} (h : Exact rq start (evs ++ [ev])) : Exact rq start evs where
  costs := fun ev' h' => h.costs ev' (List.mem_append_left _ h')
  sums := fun evs' h' => h.sums evs' (h'.trans (List.prefix_append _ _))

theorem Exact.of_costs {rq : ι → OrchestratorRequest Tok} {start : ℚ}
    {evs : List (RunEvent Tok ι)} (hc : ∀ x ∈ evs.map (eventCost rq), Decimal.Fits x)
    (hs : ∀ n, Decimal.Fits (start + ((evs.map (eventCost rq)).take n).sum)) :
    Exact rq start evs where
  costs := fun _ hev => hc _ (List.mem_map_of_mem hev)
  sums := by
    intro evs' hpre
    rw [List.prefix_iff_eq_take.mp hpre, spent, List.map_take]
    exact hs _

/-- The session `id` has the limit of `s₀` and the cost `cost`. -/
def Ledger (id : Uuid) (s₀ : BudgetSession) (cost : ℚ) (w : World Tok) : Prop :=
  ∃ s, w.budget_enforcer.sessions id = some s ∧ s.budget_limit_usd = s₀.budget_limit_usd ∧
    s.cost_usd = cost

/-- The assertions of the pool. -/
def BudgetGood (rq : ι → OrchestratorRequest Tok) (id : Uuid) (P : RunPool Tok ι) : Prop :=
  P.Good (fun i h w₀ q w => SegmentOk id (rq i) h w₀ w ∧ (isComplete q = true → BudgetOk w id))
    (fun i h w₀ _ w => SegmentOk id (rq i) h w₀ w) (fun i h w₀ _ w => SegmentOk id (rq i) h w₀ w)

variable [DecidableEq ι] {O : Orchestrator Tok} {rq : ι → OrchestratorRequest Tok} {id : Uuid}

theorem budgetGood_of_run (hid : ∀ i, budget_session O (rq i) = some id) {w : World Tok}
    {evs : List (RunEvent Tok ι)} {P : RunPool Tok ι}
    (hrun : Co.Pool.Run (poolStart O rq w) evs P) : BudgetGood rq id P := by
  have hstart : BudgetGood rq id (poolStart O rq w) := fun i w' => run_budget_safe (hid i) w'
  exact Co.Pool.good_of_run hstart hrun

/-- Wherever a segment stops, it has done to the session what its history says. -/
theorem segmentOk_of_stopOk {rq : OrchestratorRequest Tok} {h : Answered Tok} {w₀ w : World Tok}
    {pt : Co.Point (World Tok) Exc (OrchCall Tok) OrchCall.Answer (OrchestratorResult Tok)}
    (hs : Co.StopOk Co.anyEnv
      (fun h w₀ q w => SegmentOk id rq h w₀ w ∧ (isComplete q = true → BudgetOk w id))
      (fun h w₀ _ w => SegmentOk id rq h w₀ w) (fun h w₀ _ w => SegmentOk id rq h w₀ w) h w₀ pt w) :
    SegmentOk id rq h w₀ w := by
  cases pt with
  | done _ => exact hs
  | failed _ => exact hs
  | waiting _ _ => exact hs.1.1

theorem SegmentOk.ledger {rq : OrchestratorRequest Tok} {h : Answered Tok} {w w' : World Tok}
    {q : OrchCall Tok} {r : Except Exc q.Answer} {s₀ : BudgetSession} {cost : ℚ}
    (hs : SegmentOk id rq (h ++ [⟨q, r⟩]) w w') (hl : Ledger id s₀ cost w)
    (hfit : Decimal.Fits (answerCost rq q r)) (hsum : Decimal.Fits (cost + answerCost rq q r)) :
    Ledger id s₀ (cost + answerCost rq q r) w' := by
  obtain ⟨s, hs₀, hlim, rfl⟩ := hl
  have hsame : SameBudget w w' → Ledger id s₀ (s.cost_usd + 0) w' := by
    intro hsb
    exact ⟨s, by rw [hsb, hs₀], hlim, (add_zero _).symm⟩
  unfold SegmentOk at hs
  rw [List.getLast?_concat] at hs
  cases q with
  | evaluate name input => exact hsame hs
  | complete req =>
      cases r with
      | error e => exact hsame hs
      | ok resp =>
          obtain ⟨s', hs', hlim', hcost⟩ := hs s hs₀
          refine ⟨s', hs', hlim'.trans hlim, ?_⟩
          rw [hcost, Decimal.mul_eq hfit]
          exact Decimal.add_eq hsum

/-- **Conservation.**  After any events the cost is the starting cost plus what the answered adapter
calls have cost. -/
theorem ledger_of_run (hid : ∀ i, budget_session O (rq i) = some id) {w : World Tok}
    {s₀ : BudgetSession} (hs₀ : w.budget_enforcer.sessions id = some s₀)
    {evs : List (RunEvent Tok ι)} {P : RunPool Tok ι}
    (hrun : Co.Pool.Run (poolStart O rq w) evs P) (hex : Exact rq s₀.cost_usd evs) :
    Ledger id s₀ (s₀.cost_usd + spent rq evs) P.shared := by
  induction hrun with
  | refl => exact ⟨s₀, hs₀, rfl, by simp [spent]⟩
  | @snoc P' P'' evs ev hpre hstep ih =>
      have hl := ih hex.init
      rw [spent_snoc, ← add_assoc]
      have hfit := hex.costs ev (by simp)
      have hsum := hex.sums _ (List.prefix_refl _)
      rw [spent_snoc, ← add_assoc] at hsum
      rcases (budgetGood_of_run hid hpre).step_cases hstep with
        ⟨i, p, rfl, _, pt, _, hstop⟩ | ⟨i, h, q, k, r, rfl, _, pt, _, hstop⟩
      · obtain ⟨s, hs, hlim, hcost⟩ := hl
        have hsame : SameBudget P'.shared P''.shared := segmentOk_of_stopOk hstop
        exact ⟨s, by rw [hsame, hs], hlim, by simpa [eventCost] using hcost⟩
      · exact (segmentOk_of_stopOk hstop).ledger hl hfit hsum

/-! ### The adapter calls in flight -/

/-- Whether a run waits for the adapter. -/
def calling : Co.Thread (World Tok) Exc (OrchCall Tok) OrchCall.Answer (OrchestratorResult Tok) →
    Bool
  | .stopped _ (.waiting q _) => isComplete q
  | _ => false

/-- The run an event belongs to. -/
def runOf : RunEvent Tok ι → ι
  | .start i => i
  | .answer i _ _ => i

/-- A run that a segment leaves waiting for the adapter has found money left. -/
theorem budgetOk_of_ran {P P' : RunPool Tok ι} {i : ι} {h : Answered Tok}
    (hr : Co.Pool.Ran
      (fun i h w₀ q w => SegmentOk id (rq i) h w₀ w ∧ (isComplete q = true → BudgetOk w id))
      (fun i h w₀ _ w => SegmentOk id (rq i) h w₀ w) (fun i h w₀ _ w => SegmentOk id (rq i) h w₀ w)
      i h P P') (hcall : calling (P'.threads i) = true) : BudgetOk P'.shared id := by
  obtain ⟨pt, hthreads, hstop⟩ := hr
  rw [hthreads, Function.update_self] at hcall
  cases pt with
  | done _ => cases hcall
  | failed _ => cases hcall
  | waiting q k => exact hstop.1.2 hcall

/-- **No adapter call starts without money left.** -/
theorem budgetOk_of_step (hid : ∀ i, budget_session O (rq i) = some id) {w : World Tok}
    {evs : List (RunEvent Tok ι)} {ev : RunEvent Tok ι} {P P' : RunPool Tok ι}
    (hrun : Co.Pool.Run (poolStart O rq w) evs P) (hstep : Co.Pool.Step P ev P')
    (hcall : calling (P'.threads (runOf ev)) = true) : BudgetOk P'.shared id := by
  rcases (budgetGood_of_run hid hrun).step_cases hstep with
    ⟨i, p, rfl, _, hr⟩ | ⟨i, h, q, k, r, rfl, _, hr⟩
  · exact budgetOk_of_ran hr hcall
  · exact budgetOk_of_ran hr hcall

/-- Only an answer to a call in flight costs anything. -/
theorem eventCost_le_of_step {P P' : RunPool Tok ι} {ev : RunEvent Tok ι} {c : ℚ} (hc : 0 ≤ c)
    (hev : eventCost rq ev ≤ c) (hstep : Co.Pool.Step P ev P') :
    eventCost rq ev ≤ if calling (P.threads (runOf ev)) then c else 0 := by
  cases hstep with
  | start _ =>
      show (0 : ℚ) ≤ _
      split
      · exact hc
      · exact le_rfl
  | @answer i h q k r hi =>
      show answerCost (rq i) q r ≤ if calling (P.threads i) then c else 0
      rw [hi]
      cases q with
      | evaluate name input => exact le_rfl
      | complete req => exact hev

theorem threads_of_step {P P' : RunPool Tok ι} {ev : RunEvent Tok ι}
    (hstep : Co.Pool.Step P ev P') {j : ι} (hj : j ≠ runOf ev) : P'.threads j = P.threads j := by
  cases hstep with
  | start _ => exact Function.update_of_ne hj _ _
  | answer _ _ => exact Function.update_of_ne hj _ _

variable [Fintype ι]

/-- How many runs wait for the adapter. -/
def inFlight (P : RunPool Tok ι) : ℕ := ∑ i, if calling (P.threads i) then 1 else 0

/-- A step changes the count by what it changes for its own run. -/
theorem inFlight_step {P P' : RunPool Tok ι} {i : ι}
    (hsame : ∀ j, j ≠ i → P'.threads j = P.threads j) :
    inFlight P' + (if calling (P.threads i) then 1 else 0) =
      inFlight P + (if calling (P'.threads i) then 1 else 0) := by
  have hrest : ∑ j ∈ Finset.univ.erase i, (if calling (P'.threads j) then 1 else 0) =
      ∑ j ∈ Finset.univ.erase i, (if calling (P.threads j) then 1 else 0) := by
    refine Finset.sum_congr rfl ?_
    intro j hj
    rw [hsame j (Finset.ne_of_mem_erase hj)]
  unfold inFlight
  rw [← Finset.add_sum_erase _ _ (Finset.mem_univ i), ← Finset.add_sum_erase Finset.univ
    (fun j => if calling (P.threads j) then 1 else 0) (Finset.mem_univ i), hrest]
  omega

/-- The bound on what is spent and what may still come of the calls in flight. -/
def Exposed (id : Uuid) (s₀ : BudgetSession) (k : ℕ) (c : ℚ) (P : RunPool Tok ι) : Prop :=
  ∃ s, P.shared.budget_enforcer.sessions id = some s ∧
    s.cost_usd + inFlight P * c ≤ max s₀.budget_limit_usd s₀.cost_usd + k * c

/-- **Overshoot.**  Where at most `k` adapter calls are ever in flight and none costs more than `c`,
the bound holds throughout. -/
theorem exposed_of_run (hid : ∀ i, budget_session O (rq i) = some id) {w : World Tok}
    {s₀ : BudgetSession} (hs₀ : w.budget_enforcer.sessions id = some s₀) {k : ℕ} {c : ℚ}
    (hc : 0 ≤ c) {evs : List (RunEvent Tok ι)} {P : RunPool Tok ι}
    (hrun : Co.Pool.Run (poolStart O rq w) evs P) (hex : Exact rq s₀.cost_usd evs)
    (hcost : ∀ ev ∈ evs, eventCost rq ev ≤ c)
    (hk : ∀ evs' P', evs' <+: evs → Co.Pool.Run (poolStart O rq w) evs' P' → inFlight P' ≤ k) :
    Exposed id s₀ k c P := by
  induction hrun with
  | refl =>
      refine ⟨s₀, hs₀, ?_⟩
      have hzero : inFlight (poolStart O rq w) = 0 := by simp [inFlight, poolStart, calling]
      rw [hzero]
      have := le_max_right s₀.budget_limit_usd s₀.cost_usd
      have := mul_nonneg (Nat.cast_nonneg (α := ℚ) k) hc
      push_cast
      linarith
  | @snoc P' P'' evs ev hpre hstep ih =>
      obtain ⟨s, hs, hbound⟩ := ih hex.init (fun ev' h' => hcost ev' (List.mem_append_left _ h'))
        (fun evs' P' h' => hk evs' P' (h'.trans (List.prefix_append _ _)))
      obtain ⟨s₁, hs₁, hlim₁, hcost₁⟩ := ledger_of_run hid hs₀ hpre hex.init
      obtain ⟨s₂, hs₂, hlim₂, hcost₂⟩ := ledger_of_run hid hs₀ (hpre.snoc hstep) hex
      rw [hs] at hs₁
      cases hs₁
      have hfly : inFlight P'' ≤ k := hk _ _ (List.prefix_refl _) (hpre.snoc hstep)
      have hev := hcost ev (by simp)
      have hdelta : s₂.cost_usd = s.cost_usd + eventCost rq ev := by
        rw [hcost₂, hcost₁, spent_snoc, add_assoc]
      refine ⟨s₂, hs₂, ?_⟩
      by_cases hcall : calling (P''.threads (runOf ev)) = true
      · -- a call has started: the cost is below the limit, and at most `k` calls are in flight
        obtain ⟨s₃, hs₃, hlt⟩ := budgetOk_of_step hid hpre hstep hcall
        rw [hs₂] at hs₃
        cases hs₃
        have h₁ : (inFlight P'' : ℚ) * c ≤ k * c :=
          mul_le_mul_of_nonneg_right (by exact_mod_cast hfly) hc
        have h₂ := le_max_left s₀.budget_limit_usd s₀.cost_usd
        rw [hlim₂] at hlt
        linarith
      · -- no call has started: what the event costs was in flight before
        have hle := eventCost_le_of_step hc hev hstep
        have hcount := inFlight_step fun j hj => threads_of_step hstep hj
        rw [if_neg hcall] at hcount
        by_cases hold : calling (P'.threads (runOf ev)) = true
        · rw [if_pos hold] at hle hcount
          have hcast : (inFlight P' : ℚ) = inFlight P'' + 1 := by exact_mod_cast hcount.symm
          rw [hcast, add_mul] at hbound
          linarith
        · rw [if_neg hold] at hle hcount
          have hcast : inFlight P'' = inFlight P' := by omega
          rw [hcast]
          linarith

/-- **Budget accounting under concurrency.**  For any runs on one budget session, after any events
whose decimals fit the context: the cost is the starting cost plus the cost of the adapter calls that
have returned; the next adapter call to start finds money left; and where at most `k` calls are ever
in flight and none costs more than `c`, the cost exceeds neither bound by more than `k * c`. -/
theorem concurrent_budget (hid : ∀ i, budget_session O (rq i) = some id) {w : World Tok}
    {s₀ : BudgetSession} (hs₀ : w.budget_enforcer.sessions id = some s₀)
    {evs : List (RunEvent Tok ι)} {P : RunPool Tok ι}
    (hrun : Co.Pool.Run (poolStart O rq w) evs P) (hex : Exact rq s₀.cost_usd evs) :
    (∃ s, P.shared.budget_enforcer.sessions id = some s ∧
        s.budget_limit_usd = s₀.budget_limit_usd ∧ s.cost_usd = s₀.cost_usd + spent rq evs) ∧
      (∀ ev P', Co.Pool.Step P ev P' → calling (P'.threads (runOf ev)) = true →
        ∃ s, P'.shared.budget_enforcer.sessions id = some s ∧ s.cost_usd < s.budget_limit_usd) ∧
      ∀ (k : ℕ) (c : ℚ), 0 ≤ c → (∀ ev ∈ evs, eventCost rq ev ≤ c) →
        (∀ evs' P', evs' <+: evs → Co.Pool.Run (poolStart O rq w) evs' P' → inFlight P' ≤ k) →
        ∃ s, P.shared.budget_enforcer.sessions id = some s ∧
          s.cost_usd ≤ max s₀.budget_limit_usd s₀.cost_usd + k * c := by
  refine ⟨ledger_of_run hid hs₀ hrun hex, ?_, ?_⟩
  · intro ev P' hstep hcall
    exact budgetOk_of_step hid hrun hstep hcall
  · intro k c hc hcost hk
    obtain ⟨s, hs, hbound⟩ := exposed_of_run hid hs₀ hc hrun hex hcost hk
    refine ⟨s, hs, ?_⟩
    have := mul_nonneg (Nat.cast_nonneg (α := ℚ) (inFlight P)) hc
    linarith

end Pool

/-! ### Two runs that overlap -/

/-- Two runs of `plainRequest`: both reach the adapter, and then one of them is answered. -/
def twoRuns : List (RunEvent SymToken (Fin 2)) × RunPool SymToken (Fin 2) :=
  (poolStart plainOrchestrator (fun _ => plainRequest) plainWorld).turns plainAnswers [0, 1, 0, 1, 0]

theorem twoRuns_costs : twoRuns.1.map (eventCost fun _ => plainRequest) =
    [0, 0, 0, 0, 14 / 1000000] := by
  decide +kernel

theorem twoRuns_exact : Exact (fun _ => plainRequest) 0 twoRuns.1 := by
  have hx : Decimal.Fits (14 / 1000000) := ⟨14, -6, by norm_num [Decimal.prec], by norm_num⟩
  have h0 : Decimal.Fits 0 := ⟨0, 0, by norm_num [Decimal.prec], by norm_num⟩
  refine Exact.of_costs ?_ ?_
  · rw [twoRuns_costs]
    intro x hmem
    simp only [List.mem_cons, List.not_mem_nil, or_false] at hmem
    rcases hmem with rfl | rfl | rfl | rfl | rfl
    · exact h0
    · exact h0
    · exact h0
    · exact h0
    · exact hx
  · rw [twoRuns_costs]
    intro n
    rcases Nat.lt_or_ge n 5 with hn | hn
    · interval_cases n <;> simpa using h0
    · rw [List.take_of_length_le hn]
      simpa using hx

/-- Both runs have passed the check before one of them is debited. -/
theorem twoRuns_budget :
    ∃ s, twoRuns.2.shared.budget_enforcer.sessions ⟨"budget-0"⟩ = some s ∧
      s.cost_usd = 0 + spent (fun _ => plainRequest) twoRuns.1 := by
  have hrun := Co.Pool.Run.turns (f := plainAnswers) [0, 1, 0, 1, 0]
    (Co.Pool.Run.refl (poolStart plainOrchestrator (fun _ : Fin 2 => plainRequest) plainWorld))
  have hid : ∀ _ : Fin 2, budget_session plainOrchestrator plainRequest = some ⟨"budget-0"⟩ :=
    fun _ => rfl
  obtain ⟨s, hs, -, hcost⟩ := (concurrent_budget hid rfl hrun twoRuns_exact).1
  exact ⟨s, hs, hcost⟩

end AegisOs.Orchestrator
