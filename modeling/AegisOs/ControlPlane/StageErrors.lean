/-
# `AegisOs.ControlPlane.StageErrors` — the error counter of the pipeline

`_span_stage` counts in `aegis_orchestrator_errors_total` every exception that leaves a
stage, by stage and agent type.  Here is the pipeline with the counter; without it, it is
`Orchestrator.run` (`erases_run`).

Any number of runs share the counter, in any interleaving.  Still it can be trusted: what
it has counted is a list of the failed runs, each one once, each one under a stage that
fits what the run had been answered by then (`Stage.At`); a run that returned, or that is
still waiting, has counted nothing (`errors_counted`).  In particular `llm_invoke` counts
the failures of the adapter and `policy_eval` the refusals of the policy engine.

`_span_stage` counts before it logs `stage.error`; as it does not await, the order is
nobody's to see.
-/
import AegisOs.ControlPlane.ConcurrentBudget
import AegisOs.Lib.Instrument

namespace AegisOs

open Lib Lib.EState

/-- The `stage_key` of a stage, the label of the counter. -/
inductive Stage where
  | pre_pii_scrub | policy_eval | policy_mask | jit_token_issue | watchdog_pre | llm_invoke
  | watchdog_record | watchdog_loop | post_sanitize
  deriving DecidableEq

/-- `aegis_orchestrator_errors_total`, by `stage` and `agent_type`. -/
abbrev ErrorCounter : Type := Stage → String → ℕ

/-- What a run has been answered when it is in the stage. -/
def Stage.At {Tok : Type} : Stage → Orchestrator.Answered Tok → Prop
  | .pre_pii_scrub, h => h = []
  | .policy_eval, h => ∃ input r, h = [⟨.evaluate "agent_access" input, r⟩] ∧
      ∀ pr : PolicyResult, r = .ok pr → ¬(pr.allowed = true ∧ pr.action ≠ "reject")
  | .policy_mask, h | .jit_token_issue, h | .watchdog_pre, h =>
      ∃ input, ∃ pr : PolicyResult, h = [⟨.evaluate "agent_access" input, .ok pr⟩] ∧
        pr.allowed = true ∧ pr.action ≠ "reject"
  | .llm_invoke, h => ∃ x request e, h = [x, ⟨.complete request, .error e⟩]
  | .watchdog_record, h | .watchdog_loop, h | .post_sanitize, h =>
      ∃ x request, ∃ resp : LLMResponse, h = [x, ⟨.complete request, .ok resp⟩]

namespace ErrorCounter

/-- `_orchestrator_errors.labels(stage=stage, agent_type=agent_type).inc()`. -/
def inc (stage : Stage) (agent_type : String) (counter : ErrorCounter) : ErrorCounter :=
  fun st a => counter st a + if st = stage ∧ a = agent_type then 1 else 0

end ErrorCounter

namespace Counted

open Orchestrator (Answered)

variable {Tok : Type}

/-- The world, and the counter. -/
abbrev State (Tok : Type) : Type := Probed (World Tok) ErrorCounter

abbrev CM (Tok : Type) : Type → Type := EStateM Exc (State Tok)

abbrev Run (Tok : Type) : Type → Type :=
  Co (State Tok) Exc (OrchCall Tok) OrchCall.Answer

/-! ## The pipeline with the counter -/

/-- The `except` clause of `_span_stage`. -/
def count_error {α : Type} (stage : Stage) (agent_type : String) (e : Exc) : CM Tok α := do
  probe (ErrorCounter.inc stage agent_type)
  throw e

/-- `_span_stage` around a stage without an await.  Where the stage is left out it does not raise,
and nothing is counted. -/
def span_stage {α : Type} (stage : Stage) (agent_type : String) (m : WM Tok α) : CM Tok α :=
  catching (plain m) fun e => some (count_error stage agent_type e)

/-- `_span_stage` around a stage that awaits. -/
def span_stage_async {α : Type} (stage : Stage) (agent_type : String)
    (c : Orchestrator.Run Tok α) : Run Tok α :=
  tryCatch (Co.plain c) fun e => Co.lift (count_error stage agent_type e)

section
variable (O : Orchestrator Tok) (rq : OrchestratorRequest Tok) (task_id : Uuid)

/-- What lies between the two awaits. -/
def before_llm (policy_result : PolicyResult) (pre_mask : MaskResult) :
    CM Tok (MaskResult × Tok × Tok × Option Tok) := do
  let m ← span_stage .policy_mask rq.agent_type
    (O.policy_mask rq task_id policy_result pre_mask)
  let (token, adapter_token, dpop_proof) ← span_stage .jit_token_issue rq.agent_type
    (O.jit_token_issue rq task_id m.text)
  span_stage .watchdog_pre rq.agent_type (O.watchdog_pre_llm rq task_id)
  return (m, token, adapter_token, dpop_proof)

/-- What follows the adapter call. -/
def after_llm (m : MaskResult) (token : Tok) (llm_response : LLMResponse) :
    CM Tok (OrchestratorResult Tok) := do
  span_stage .watchdog_record rq.agent_type (O.watchdog_record_spend rq task_id llm_response)
  span_stage .watchdog_loop rq.agent_type (O.watchdog_loop_detect rq task_id llm_response)
  let post_mask ← span_stage .post_sanitize rq.agent_type
    (O.post_sanitize rq task_id llm_response)
  return {
    task_id := task_id
    response := { llm_response with content := post_mask.text }
    session_token := token
    sanitized_prompt := m.text
    pii_found_in_prompt := m.found_types
    pii_found_in_response := post_mask.found_types }

end

/-- `Orchestrator.run`; the task id is checked before the first stage. -/
def run (O : Orchestrator Tok) (rq : OrchestratorRequest Tok) : Run Tok (OrchestratorResult Tok) :=
  match rq.task_id with
  | none => throw ⟨.MissingTaskIdError,
      "task_id must not be None — every pipeline request requires a unique task identifier for audit correlation"⟩
  | some task_id => do
      let pre_mask ← Co.lift (span_stage .pre_pii_scrub rq.agent_type (O.pre_sanitize rq task_id))
      let policy_result ← span_stage_async .policy_eval rq.agent_type
        (Orchestrator.policy_eval rq task_id)
      let (m, token, adapter_token, dpop_proof) ←
        Co.lift (before_llm O rq task_id policy_result pre_mask)
      let llm_response ← span_stage_async .llm_invoke rq.agent_type
        (Orchestrator.llm_invoke rq task_id m.text adapter_token dpop_proof)
      Co.lift (after_llm O rq task_id m token llm_response)

/-! ## Without the counter -/

section
variable {α : Type} (stage : Stage) (agent_type : String)

theorem count_error_run (e : Exc) (p : State Tok) :
    (count_error stage agent_type e : CM Tok α) p =
      .error e ⟨p.state, ErrorCounter.inc stage agent_type p.probe⟩ := rfl

theorem erases_span_stage (m : WM Tok α) : EState.Erases (span_stage stage agent_type m) m := by
  intro p
  unfold span_stage
  cases hr : m p.state with
  | ok a w =>
      rw [catching_ok (plain_ok hr)]
      rfl
  | error e w =>
      rw [catching_some (plain_error hr) rfl, count_error_run]
      rfl

theorem erases_span_stage_async (c : Orchestrator.Run Tok α) :
    Co.Erases (span_stage_async stage agent_type c) c :=
  (Co.erases_plain c).tryCatch_raise fun e =>
    Co.erases_lift_raise (count_error_run stage agent_type e)

end

section
variable (O : Orchestrator Tok) (rq : OrchestratorRequest Tok) (task_id : Uuid)

theorem erases_before_llm (pr : PolicyResult) (pre_mask : MaskResult) :
    EState.Erases (before_llm O rq task_id pr pre_mask) (O.before_llm rq task_id pr pre_mask) := by
  refine (erases_span_stage _ _ _).bind fun m => ?_
  refine (erases_span_stage _ _ _).bind fun _ => ?_
  exact (erases_span_stage _ _ _).bind fun _ => erases_pure _

theorem erases_after_llm (m : MaskResult) (token : Tok) (resp : LLMResponse) :
    EState.Erases (after_llm O rq task_id m token resp) (O.after_llm rq task_id m token resp) := by
  refine (erases_span_stage _ _ _).bind fun _ => ?_
  refine (erases_span_stage _ _ _).bind fun _ => ?_
  exact (erases_span_stage _ _ _).bind fun _ => erases_pure _

theorem erases_run : Co.Erases (run O rq) (O.run rq) := by
  unfold run Orchestrator.run
  cases rq.task_id with
  | none => exact .raise _
  | some task_id =>
      refine (Co.Erases.lift (erases_span_stage _ _ _)).bind fun pre_mask => ?_
      refine (erases_span_stage_async _ _ _).bind fun pr => ?_
      refine (Co.Erases.lift (erases_before_llm O rq task_id pr pre_mask)).bind fun x => ?_
      refine (erases_span_stage_async _ _ _).bind fun resp => ?_
      exact Co.Erases.lift (erases_after_llm O rq task_id x.1 x.2.1 resp)

end

/-! ## What a run counts -/

section
variable {α β : Type} {S : Stage → Prop} {agent_type : String}

/-- Synchronous code that counts exactly its exception, under a stage in `S`. -/
structure Tallies (S : Stage → Prop) (agent_type : String) (m : CM Tok α) : Prop where
  ok : ∀ {p a p'}, m p = .ok a p' → p'.probe = p.probe
  error : ∀ {p e p'}, m p = .error e p' →
    ∃ stage, S stage ∧ p'.probe = ErrorCounter.inc stage agent_type p.probe

theorem Tallies.stage {stage : Stage} (hS : S stage) (m : WM Tok α) :
    Tallies S agent_type (span_stage stage agent_type m) := by
  have hrun : ∀ p, span_stage stage agent_type m p = (m p.state).casesOn
      (fun a w => .ok a ⟨w, p.probe⟩)
      (fun e w => .error e ⟨w, ErrorCounter.inc stage agent_type p.probe⟩) := by
    intro p
    unfold span_stage
    cases hr : m p.state with
    | ok a w => rw [catching_ok (plain_ok hr)]
    | error e w => rw [catching_some (plain_error hr) rfl, count_error_run]
  refine ⟨?_, ?_⟩
  · intro p a p' h
    rw [hrun] at h
    cases hr : m p.state with
    | ok b w =>
        rw [hr] at h
        cases h
        rfl
    | error e w =>
        rw [hr] at h
        cases h
  · intro p e p' h
    rw [hrun] at h
    cases hr : m p.state with
    | ok b w =>
        rw [hr] at h
        cases h
    | error e w =>
        rw [hr] at h
        cases h
        exact ⟨stage, hS, rfl⟩

theorem Tallies.pure (a : α) : Tallies S agent_type (Pure.pure a : CM Tok α) := by
  refine ⟨?_, nofun⟩
  intro p b p' h
  cases h
  rfl

theorem Tallies.bind {m : CM Tok α} {f : α → CM Tok β} (hm : Tallies S agent_type m)
    (hf : ∀ a, Tallies S agent_type (f a)) : Tallies S agent_type (m >>= f) := by
  refine ⟨?_, ?_⟩
  · intro p b p' h
    obtain ⟨a, p₁, h₁, h₂⟩ := bind_eq_ok.mp h
    exact ((hf a).ok h₂).trans (hm.ok h₁)
  · intro p e p' h
    rcases bind_eq_error.mp h with h₁ | ⟨a, p₁, h₁, h₂⟩
    · exact hm.error h₁
    · obtain ⟨stage, hS, hinc⟩ := (hf a).error h₂
      refine ⟨stage, hS, ?_⟩
      rw [hinc, hm.ok h₁]

end

section
variable (O : Orchestrator Tok) (rq : OrchestratorRequest Tok) (task_id : Uuid)
  {S : Stage → Prop}

theorem tallies_before_llm (pr : PolicyResult) (pre_mask : MaskResult) (hmask : S .policy_mask)
    (htoken : S .jit_token_issue) (hwatchdog : S .watchdog_pre) :
    Tallies S rq.agent_type (before_llm O rq task_id pr pre_mask) := by
  refine (Tallies.stage hmask _).bind fun m => ?_
  refine (Tallies.stage htoken _).bind fun _ => ?_
  exact (Tallies.stage hwatchdog _).bind fun _ => .pure _

theorem tallies_after_llm (m : MaskResult) (token : Tok) (resp : LLMResponse)
    (hrecord : S .watchdog_record) (hloop : S .watchdog_loop) (hpost : S .post_sanitize) :
    Tallies S rq.agent_type (after_llm O rq task_id m token resp) := by
  refine (Tallies.stage hrecord _).bind fun _ => ?_
  refine (Tallies.stage hloop _).bind fun _ => ?_
  exact (Tallies.stage hpost _).bind fun _ => .pure _

end

/-- A segment that leaves the counter alone. -/
def Kept {α : Type} (_ : Answered Tok) (p₀ : State Tok) (_ : α) (p : State Tok) : Prop :=
  p.probe = p₀.probe

/-- A segment that counts one error, under a stage that fits. -/
def Noted (agent_type : String) (h : Answered Tok) (p₀ : State Tok) (_ : Exc) (p : State Tok) :
    Prop :=
  ∃ stage : Stage, stage.At h ∧ p.probe = ErrorCounter.inc stage agent_type p₀.probe

section
variable {α : Type} {agent_type : String} {h : Answered Tok} {p₀ p : State Tok}
  {D : Answered Tok → State Tok → α → State Tok → Prop}

theorem safe_lift {m : CM Tok α} (hm : Tallies (fun stage => stage.At h) agent_type m)
    (hp : p.probe = p₀.probe) (hok : ∀ a p', p'.probe = p₀.probe → D h p₀ a p') :
    Co.Safe Co.anyEnv Kept D (Noted agent_type) h p₀ (Co.lift m : Run Tok α) p := by
  refine Co.Safe.lift ?_ ?_
  · intro a p' hrun
    exact hok a p' ((hm.ok hrun).trans hp)
  · intro e p' hrun
    obtain ⟨stage, hat, hinc⟩ := hm.error hrun
    exact ⟨stage, hat, by rw [hinc, hp]⟩

theorem safe_stage_async {stage : Stage} {c : Orchestrator.Run Tok α}
    {D₀ : Answered Tok → α → Prop}
    (hc : Co.Safe Co.anyEnv (fun _ _ _ _ => True) (fun h _ a _ => D₀ h a)
      (fun h _ _ _ => stage.At h) h p₀.state c p.state) (hp : p.probe = p₀.probe)
    (hok : ∀ h p₀ a p, D₀ h a → p.probe = p₀.probe → D h p₀ a p) :
    Co.Safe Co.anyEnv Kept D (Noted agent_type) h p₀ (span_stage_async stage agent_type c) p := by
  refine Co.Safe.tryCatch ((Co.Safe.plain hc hp).mono (fun _ _ _ _ hq => hq.2)
    (fun h p₀ a p hd => hok h p₀ a p hd.1 hd.2) ?_)
  rintro h p₀ e p ⟨hat, hp⟩
  refine Co.Safe.lift nofun ?_
  intro e' p' hrun
  cases hrun
  exact ⟨stage, hat, congrArg (ErrorCounter.inc stage agent_type) hp⟩

end

section
variable {rq : OrchestratorRequest Tok} {task_id : Uuid} {p₀ p : State Tok}

theorem safe_policy_eval {D : Answered Tok → State Tok → PolicyResult → State Tok → Prop}
    (hp : p.probe = p₀.probe)
    (hok : ∀ h p₀ pr p, Stage.policy_mask.At h → p.probe = p₀.probe → D h p₀ pr p) :
    Co.Safe Co.anyEnv Kept D (Noted rq.agent_type) [] p₀
      (span_stage_async .policy_eval rq.agent_type (Orchestrator.policy_eval rq task_id)) p := by
  have hc : Co.Safe Co.anyEnv (fun _ _ _ _ => True) (fun h _ _ _ => Stage.policy_mask.At h)
      (fun h _ _ _ => Stage.policy_eval.At h) ([] : Answered Tok) p₀.state
      (Orchestrator.policy_eval rq task_id) p.state := by
    refine Orchestrator.safe_policy_eval trivial ?_ ?_
    · exact fun pr _ _ _ hallowed haction _ => ⟨_, pr, rfl, hallowed, haction⟩
    · exact fun r _ _ _ _ hrefused _ => ⟨_, r, rfl, hrefused⟩
  exact safe_stage_async hc hp fun h p₀ pr p hat hp => hok h p₀ pr p hat hp

theorem safe_llm_invoke {D : Answered Tok → State Tok → LLMResponse → State Tok → Prop}
    {prompt : String} {token : Tok} {proof : Option Tok} {h : Answered Tok}
    (hat : Stage.policy_mask.At h) (hp : p.probe = p₀.probe)
    (hok : ∀ h p₀ resp p, Stage.post_sanitize.At h → p.probe = p₀.probe → D h p₀ resp p) :
    Co.Safe Co.anyEnv Kept D (Noted rq.agent_type) h p₀
      (span_stage_async .llm_invoke rq.agent_type
        (Orchestrator.llm_invoke rq task_id prompt token proof)) p := by
  obtain ⟨input, pr, rfl, -, -⟩ := hat
  have hc : Co.Safe Co.anyEnv (fun _ _ _ _ => True) (fun h _ _ _ => Stage.post_sanitize.At h)
      (fun h _ _ _ => Stage.llm_invoke.At h)
      ([⟨.evaluate "agent_access" input, .ok pr⟩] : Answered Tok) p₀.state
      (Orchestrator.llm_invoke rq task_id prompt token proof) p.state := by
    refine Orchestrator.safe_llm_invoke trivial ?_ ?_
    · exact fun resp _ _ _ _ => ⟨_, _, resp, rfl⟩
    · exact fun e _ _ _ _ _ => ⟨_, _, e, rfl⟩
  exact safe_stage_async hc hp fun h p₀ resp p hat hp => hok h p₀ resp p hat hp

end

/-- A run counts nothing up to its end, and one error if that is an exception. -/
theorem run_counts (O : Orchestrator Tok) {rq : OrchestratorRequest Tok} {task_id : Uuid}
    (htask : rq.task_id = some task_id) (p : State Tok) :
    Co.Safe Co.anyEnv Kept Kept (Noted rq.agent_type) [] p (run O rq) p := by
  unfold run
  rw [htask]
  have hstart : Stage.pre_pii_scrub.At ([] : Answered Tok) := rfl
  refine Co.Safe.bind (safe_lift (Tallies.stage hstart _) rfl fun pre_mask p₁ hp₁ => ?_)
  refine Co.Safe.bind (safe_policy_eval hp₁ fun h p₂ pr p₃ hat hp₃ => ?_)
  -- the stages up to the adapter run with the same answers
  refine Co.Safe.bind (safe_lift (tallies_before_llm O rq task_id pr pre_mask hat hat hat) hp₃
    fun x p₄ hp₄ => ?_)
  refine Co.Safe.bind (safe_llm_invoke hat hp₄ fun h p₅ resp p₆ hat hp₆ => ?_)
  exact safe_lift (tallies_after_llm O rq task_id _ _ resp hat hat hat) hp₆ fun _ _ hp => hp

/-! ## Any number of runs on one counter -/

abbrev Pool (Tok ι : Type) : Type :=
  Co.Pool (State Tok) Exc (OrchCall Tok) OrchCall.Answer (OrchestratorResult Tok) ι

variable {ι : Type}

/-- All the runs, none of them started. -/
def start (O : Orchestrator Tok) (rq : ι → OrchestratorRequest Tok) (w : World Tok)
    (counter : ErrorCounter) : Pool Tok ι :=
  ⟨⟨w, counter⟩, fun i => .fresh (run O (rq i))⟩

theorem erases_start (O : Orchestrator Tok) (rq : ι → OrchestratorRequest Tok) (w : World Tok)
    (counter : ErrorCounter) :
    Co.PoolErases (start O rq w counter) (Orchestrator.poolStart O rq w) :=
  ⟨rfl, fun i => .fresh (erases_run O (rq i))⟩

/-- The run `i` has raised. -/
def Failed (P : Pool Tok ι) (i : ι) : Prop := ∃ h e, P.threads i = .stopped h (.failed e)

/-- `faults` is what has been counted since the counter was `counter`. -/
structure Counts (rq : ι → OrchestratorRequest Tok) (counter : ErrorCounter)
    (faults : List (ι × Stage)) (P : Pool Tok ι) : Prop where
  once : (faults.map Prod.fst).Nodup
  failed : ∀ i, i ∈ faults.map Prod.fst ↔ (rq i).task_id ≠ none ∧ Failed P i
  stage : ∀ f ∈ faults, ∃ h e, P.threads f.1 = .stopped h (.failed e) ∧ f.2.At h
  total : ∀ stage a, P.shared.probe stage a = counter stage a +
    faults.countP fun f => decide (f.2 = stage ∧ (rq f.1).agent_type = a)

section
variable [DecidableEq ι] {O : Orchestrator Tok} {rq : ι → OrchestratorRequest Tok}
  {counter : ErrorCounter} {faults : List (ι × Stage)} {P P' : Pool Tok ι} {i : ι}
  {t : Co.Thread (State Tok) Exc (OrchCall Tok) OrchCall.Answer (OrchestratorResult Tok)}

omit [DecidableEq ι] in
theorem Counts.not_mem (h : Counts rq counter faults P) (hopen : ¬Failed P i) :
    i ∉ faults.map Prod.fst := fun hmem => hopen ((h.failed i).mp hmem).2

/-- The runs of `faults` are not the one that steps, so they are what they were. -/
theorem Counts.stays (h : Counts rq counter faults P) (hopen : ¬Failed P i)
    (hthreads : P'.threads = Function.update P.threads i t) :
    ∀ f ∈ faults, ∃ h e, P'.threads f.1 = .stopped h (.failed e) ∧ f.2.At h := by
  intro f hf
  have hne : f.1 ≠ i := by
    rintro rfl
    exact h.not_mem hopen (List.mem_map_of_mem hf)
  rw [hthreads, Function.update_of_ne hne]
  exact h.stage f hf

theorem failed_other {j : ι} (hthreads : P'.threads = Function.update P.threads i t) (hj : j ≠ i) :
    Failed P' j ↔ Failed P j := by
  unfold Failed
  rw [hthreads, Function.update_of_ne hj]

/-- A segment that counts nothing. -/
theorem Counts.quiet (h : Counts rq counter faults P) (hopen : ¬Failed P i)
    (hthreads : P'.threads = Function.update P.threads i t)
    (hprobe : P'.shared.probe = P.shared.probe)
    (hfailed : ¬((rq i).task_id ≠ none ∧ Failed P' i)) : Counts rq counter faults P' := by
  refine ⟨h.once, ?_, h.stays hopen hthreads, ?_⟩
  · intro j
    by_cases hj : j = i
    · subst hj
      exact iff_of_false (h.not_mem hopen) hfailed
    · rw [failed_other hthreads hj]
      exact h.failed j
  · intro stage a
    rw [hprobe]
    exact h.total stage a

/-- A segment that counts its error. -/
theorem Counts.fault (h : Counts rq counter faults P) (hopen : ¬Failed P i) {hist : Answered Tok}
    {e : Exc} {stage : Stage} (htask : (rq i).task_id ≠ none)
    (hthreads : P'.threads = Function.update P.threads i (.stopped hist (.failed e)))
    (hat : stage.At hist)
    (hprobe : P'.shared.probe = ErrorCounter.inc stage (rq i).agent_type P.shared.probe) :
    Counts rq counter ((i, stage) :: faults) P' := by
  have hi : P'.threads i = .stopped hist (.failed e) := by
    rw [hthreads, Function.update_self]
  refine ⟨List.nodup_cons.mpr ⟨h.not_mem hopen, h.once⟩, ?_, ?_, ?_⟩
  · intro j
    by_cases hj : j = i
    · subst hj
      exact iff_of_true List.mem_cons_self ⟨htask, hist, e, hi⟩
    · rw [failed_other hthreads hj, ← h.failed j]
      simp [hj]
  · intro f hf
    rcases List.mem_cons.mp hf with rfl | hf
    · exact ⟨hist, e, hi, hat⟩
    · exact h.stays hopen hthreads f hf
  · intro st a
    have hlabel : (st = stage ∧ a = (rq i).agent_type) ↔
        decide (stage = st ∧ (rq i).agent_type = a) = true := by
      rw [decide_eq_true_iff]
      exact and_congr eq_comm eq_comm
    rw [hprobe, ErrorCounter.inc, h.total, List.countP_cons, Nat.add_assoc, if_congr hlabel rfl rfl]

/-- What a run of the pool promises; a request without a task id fails before the first stage. -/
def Ends (rq : OrchestratorRequest Tok) (h : Answered Tok) (p₀ : State Tok) (e : Exc)
    (p : State Tok) : Prop :=
  rq.task_id = none ∧ p.probe = p₀.probe ∨ rq.task_id ≠ none ∧ Noted rq.agent_type h p₀ e p

omit [DecidableEq ι] in
theorem start_good (O : Orchestrator Tok) (rq : ι → OrchestratorRequest Tok) (w : World Tok)
    (counter : ErrorCounter) :
    (start O rq w counter).Good (fun _ => Kept) (fun _ => Kept) fun i => Ends (rq i) := by
  intro i p
  cases htask : (rq i).task_id with
  | none =>
      unfold run
      rw [htask]
      exact .inl ⟨htask, rfl⟩
  | some task_id =>
      refine (run_counts O htask p).mono (fun _ _ _ _ hq => hq) (fun _ _ _ _ hq => hq) ?_
      intro h p₀ e p hnoted
      exact .inr ⟨by simp [htask], hnoted⟩

/-- A segment of a run that is not at its end. -/
theorem Counts.ran {hist : Answered Tok} (h : Counts rq counter faults P) (hopen : ¬Failed P i)
    (hran : Co.Pool.Ran (fun _ => Kept) (fun _ => Kept) (fun i => Ends (rq i)) i hist P P') :
    ∃ faults', Counts rq counter faults' P' := by
  obtain ⟨pt, hthreads, hstop⟩ := hran
  have hi : P'.threads i = .stopped hist pt := by
    rw [hthreads, Function.update_self]
  have hquiet : P'.shared.probe = P.shared.probe → (∀ e, pt ≠ .failed e) →
      Counts rq counter faults P' := by
    intro hprobe hpt
    refine h.quiet hopen hthreads hprobe ?_
    rintro ⟨-, hist', e, he⟩
    rw [hi] at he
    cases he
    exact hpt e rfl
  cases pt with
  | done r => exact ⟨faults, hquiet hstop fun _ he => by cases he⟩
  | waiting q k => exact ⟨faults, hquiet hstop.1 fun _ he => by cases he⟩
  | failed e =>
      rcases hstop with ⟨htask, hprobe⟩ | ⟨htask, stage, hat, hprobe⟩
      · exact ⟨faults, h.quiet hopen hthreads hprobe fun hfailed => hfailed.1 htask⟩
      · exact ⟨(i, stage) :: faults, h.fault hopen htask hthreads hat hprobe⟩

/-- **The error counter counts the failed runs.**  Any number of runs, in any interleaving, with any
answers: the pipeline does what it does without the counter, and what the counter has counted is a
list of the runs that have raised, each of them once, under a stage that fits what it had been
answered.  A run that returned or is waiting has counted nothing, nor has a request without a task
id. -/
theorem errors_counted {w : World Tok} {evs : List (Orchestrator.RunEvent Tok ι)}
    (hrun : Co.Pool.Run (start O rq w counter) evs P) :
    (∃ P₀, Co.Pool.Run (Orchestrator.poolStart O rq w) evs P₀ ∧ Co.PoolErases P P₀) ∧
      ∃ faults : List (ι × Stage), (faults.map Prod.fst).Nodup ∧
        (∀ i, i ∈ faults.map Prod.fst ↔ (rq i).task_id ≠ none ∧ Failed P i) ∧
        (∀ f ∈ faults, ∃ h e, P.threads f.1 = .stopped h (.failed e) ∧ f.2.At h) ∧
        ∀ stage a, P.shared.probe stage a = counter stage a +
          faults.countP fun f => decide (f.2 = stage ∧ (rq f.1).agent_type = a) := by
  refine ⟨(erases_start O rq w counter).run hrun, ?_⟩
  suffices h : ∃ faults, Counts rq counter faults P by
    obtain ⟨faults, h⟩ := h
    exact ⟨faults, h.once, h.failed, h.stage, h.total⟩
  induction hrun with
  | refl =>
      refine ⟨[], List.nodup_nil, ?_, by simp, by simp [start]⟩
      intro i
      refine iff_of_false List.not_mem_nil ?_
      rintro ⟨-, h, e, he⟩
      cases he
  | snoc hpre hstep ih =>
      obtain ⟨faults, h⟩ := ih
      have hgood := Co.Pool.good_of_run (start_good O rq w counter) hpre
      rcases hgood.step_cases hstep with
        ⟨i, c, -, hi, hran⟩ | ⟨i, hist, q, k, r, -, hi, hran⟩
      · refine h.ran ?_ hran
        rintro ⟨_, _, he⟩
        rw [hi] at he
        cases he
      · refine h.ran ?_ hran
        rintro ⟨_, _, he⟩
        rw [hi] at he
        cases he

end

/-! ### A run that fails beside one that does not -/

/-- The answer to the second request is more than its budget allows. -/
def twoRequests (i : Bool) : OrchestratorRequest SymToken :=
  if i then { Orchestrator.plainRequest with cost_per_token := 1 }
  else Orchestrator.plainRequest

def twoCounts : List (Orchestrator.RunEvent SymToken Bool) × Pool SymToken Bool :=
  (start Orchestrator.plainOrchestrator twoRequests Orchestrator.plainWorld fun _ _ => 0).turns
    Orchestrator.plainAnswers [false, true, true, false, false, true]

theorem twoCounts_counted : twoCounts.2.shared.probe .watchdog_record "general" = 1 ∧
    ∃ faults : List (Bool × Stage), (faults.map Prod.fst).Nodup ∧
      (∀ i, i ∈ faults.map Prod.fst ↔ (twoRequests i).task_id ≠ none ∧ Failed twoCounts.2 i) ∧
      ∀ stage a, twoCounts.2.shared.probe stage a =
        0 + faults.countP fun f => decide (f.2 = stage ∧ (twoRequests f.1).agent_type = a) := by
  have hrun := Co.Pool.Run.turns (f := Orchestrator.plainAnswers)
    [false, true, true, false, false, true] (Co.Pool.Run.refl
      (start Orchestrator.plainOrchestrator twoRequests Orchestrator.plainWorld fun _ _ => 0))
  obtain ⟨-, faults, honce, hfailed, -, htotal⟩ := errors_counted hrun
  exact ⟨by decide +kernel, faults, honce, hfailed, htotal⟩

end Counted

end AegisOs
