/-
# `AegisOs.ControlPlane.LoopGuard` — the loop breaker and the durable path

A `WorkflowInput` carries the fields of the loop breaker, and a worker has an
activity, `LoopRecordStep`, that records a step with them.  `AgentTaskWorkflow`
schedules it nowhere.  Stage 4.6 of the orchestrator, which is given the same
fields, records the step behind every adapter call and refuses to go on when
the breaker trips.

So a durable run completes whatever the breaker would say: the two paths agree
only where there is nothing to refuse (`LoopState.Quiet`), or where the run cannot
complete at all because its projected spend is not a number.
-/
import AegisOs.ControlPlane.ApprovalGate
import AegisOs.ControlPlane.RefusalRecord

namespace AegisOs

open Lib Lib.EState LoopDetector

variable {Tok : Type}

/-! ## The step -/

/-- The step behind an adapter call that reports so many tokens. -/
def WorkflowInput.loop_step (inp : WorkflowInput) (tokens_used : ℤ) : StepCall where
  token_delta := inp.loop_token_delta.getD tokens_used
  signal := inp.loop_signal

/-- The loop session of an input: its id, and a detector with the input's limits that knows it. -/
structure LoopState (inp : WorkflowInput) where
  id : Uuid
  detector : LoopDetector
  settings : Settings
  ctx : ExecutionContext
  session : inp.loop_session_id.bind Lit.val = some id
  known : detector.contexts id = some ctx
  steps_limit : detector.max_agent_steps =
    inp.loop_max_agent_steps.getD settings.max_agent_steps
  velocity_limit : detector.max_token_velocity =
    inp.loop_max_token_velocity.getD settings.max_token_velocity

/-- The step exceeds neither limit and asks for nobody. -/
structure LoopState.Quiet {inp : WorkflowInput} (L : LoopState inp) (tokens_used : ℤ) : Prop where
  velocity : inp.loop_token_delta.getD tokens_used ≤
    inp.loop_max_token_velocity.getD L.settings.max_token_velocity
  signal : inp.loop_signal ≠ .HUMAN_REQUIRED
  streak : (no_progress_streak (stepped L.ctx (inp.loop_step tokens_used)).steps : ℤ) <
    inp.loop_max_agent_steps.getD L.settings.max_agent_steps

/-- What the breaker says to the step. -/
def LoopState.trip {inp : WorkflowInput} (L : LoopState inp) (tokens_used : ℤ) : Option Exc :=
  tripped L.detector.max_agent_steps L.detector.max_token_velocity
    (stepped L.ctx (inp.loop_step tokens_used)) (inp.loop_step tokens_used)

section
variable {inp : WorkflowInput} (L : LoopState inp) (tokens_used : ℤ)

theorem trip_none_iff : L.trip tokens_used = none ↔ LoopState.Quiet L tokens_used := by
  unfold LoopState.trip tripped
  rw [L.steps_limit, L.velocity_limit]
  constructor
  · intro h
    split_ifs at h with hvel hsig hstr
    exact ⟨not_lt.mp hvel, hsig, not_le.mp hstr⟩
  · rintro ⟨hvel, hsig, hstr⟩
    exact (if_neg (not_lt.mpr hvel)).trans ((if_neg hsig).trans (if_neg (not_le.mpr hstr)))

/-- Recording the step returns exactly when it is quiet. -/
theorem record_ok_iff :
    (∃ ctx, result (record L.id (inp.loop_step tokens_used) L.detector) = .ok ctx) ↔
      LoopState.Quiet L tokens_used := by
  rw [← trip_none_iff, (record_run L.known (inp.loop_step tokens_used) rfl).1]
  show (∃ ctx, (L.trip tokens_used).elim _ _ = _) ↔ _
  cases L.trip tokens_used with
  | none => simp
  | some e => simp

end

/-- The classes of the breaker's refusals. -/
def loop_errors : List ExcKind := [.LoopHaltError, .LoopVelocityError, .LoopApprovalError]

/-- A request and an orchestrator with the same loop fields, in a world with this loop state. -/
structure Sibling {inp : WorkflowInput} (L : LoopState inp) (O : Orchestrator Tok)
    (rq : OrchestratorRequest Tok) (w : World Tok) : Prop where
  wired : O.loop_wired = true
  session : rq.loop_session_id = some L.id
  signal : rq.loop_signal = inp.loop_signal
  token_delta : rq.loop_token_delta = inp.loop_token_delta
  state : w.loop_detector = L.detector

/-- A trip is one of the three that Stage 4.6 translates. -/
theorem loop_trip_of_tripped {a v : ℤ} {ctx : ExecutionContext} {x : StepCall} {e : Exc}
    (h : tripped a v ctx x = some e) :
    ∃ event kind, Orchestrator.loop_trip e.kind = some (event, kind) ∧ kind ∈ loop_errors := by
  unfold tripped at h
  split_ifs at h <;> cases h <;> exact ⟨_, _, rfl, by decide⟩

section
variable {inp : WorkflowInput} {L : LoopState inp} {O : Orchestrator Tok}
  {rq : OrchestratorRequest Tok} {w : World Tok}

/-- The step Stage 4.6 records. -/
theorem Sibling.records (h : Sibling L O rq w) (tokens_used : ℤ) :
    result (record_step L.id (rq.loop_token_delta.getD tokens_used) rq.loop_signal ""
        w.loop_detector) =
      (L.trip tokens_used).elim (.ok (stepped L.ctx (inp.loop_step tokens_used))) .error := by
  rw [h.token_delta, h.signal, h.state]
  exact (record_run L.known (inp.loop_step tokens_used) rfl).1

theorem Sibling.refuses (h : Sibling L O rq w) (task_id : Uuid) (llm_response : LLMResponse)
    {e : Exc} (htrip : L.trip llm_response.tokens_used = some e) :
    ∃ e' w', Orchestrator.watchdog_loop_detect O rq task_id llm_response w = .error e' w' ∧
      e'.kind ∈ loop_errors := by
  obtain ⟨event, kind, hkind, hmem⟩ := loop_trip_of_tripped htrip
  have hrecord := h.records llm_response.tokens_used
  rw [htrip] at hrecord
  have hcontrolled : Orchestrator.controlled_exc kind = true := by
    unfold loop_errors at hmem
    simp only [List.mem_cons, List.not_mem_nil, or_false] at hmem
    rcases hmem with rfl | rfl | rfl <;> rfl
  have hstep : (on_loop (record_step L.id (rq.loop_token_delta.getD llm_response.tokens_used)
      rq.loop_signal "") : WM Tok ExecutionContext) w = .error e _ :=
    zoom_error (eq_error hrecord)
  unfold Orchestrator.watchdog_loop_detect
  rw [h.wired, if_pos rfl, h.session]
  -- the clause records the trip and raises, and the span lets a controlled class through
  simp [Orchestrator.span_stage, Orchestrator.stage_error, catching, bind, EStateM.bind, hstep, hkind,
    log, hcontrolled, hmem]

/-- Stage 4.6 refuses exactly the steps that trip the breaker. -/
theorem Sibling.refuses_iff (h : Sibling L O rq w) (task_id : Uuid) (llm_response : LLMResponse) :
    (∃ e w', Orchestrator.watchdog_loop_detect O rq task_id llm_response w = .error e w' ∧
      e.kind ∈ loop_errors) ↔ ¬L.Quiet llm_response.tokens_used := by
  constructor
  · rintro ⟨e, w', hrun, -⟩ hquiet
    have hpasses : Orchestrator.StepPasses O rq llm_response w.loop_detector := by
      intro id hid
      rw [h.wired, if_pos rfl, h.session] at hid
      cases hid
      have hrecord := h.records llm_response.tokens_used
      rw [(trip_none_iff L _).mpr hquiet] at hrecord
      exact ⟨_, _, eq_ok hrecord⟩
    obtain ⟨u, w'', hok⟩ :=
      (Orchestrator.watchdog_loop_detect_ok_iff O rq task_id llm_response w).mpr hpasses
    rw [hrun] at hok
    cases hok
  · intro hloud
    cases htrip : L.trip llm_response.tokens_used with
    | none => exact absurd ((trip_none_iff L _).mp htrip) hloud
    | some e => exact h.refuses task_id llm_response htrip

end

/-! ## Runs that complete -/

namespace AgentTaskWorkflow

/-- The run has returned, and its adapter call reported so many tokens. -/
def Completed (c : Config Tok) (tokens_used : ℤ) : Prop :=
  (∃ out, c.point = .done out) ∧
    ∃ i llm, (⟨.LLMInvoke i, .ok llm⟩ : Σ q : WorkflowCall Tok, Except Exc q.Answer) ∈ c.hist ∧
      llm.tokens_used = tokens_used

/-- Activities that succeed, an adapter that reports so many tokens, and an approver. -/
def willing (token : Tok) (tokens_used : ℤ) :
    Co.Oracle AgentTaskWorkflow Exc (WorkflowCall Tok) WorkflowCall.Answer where
  drift
    | .wait_condition _, w => w.approve ⟨"approver", "approved", true⟩
    | _, w => w
  reply
    | .PrePIIScrub inp, _ => .ok ⟨inp.prompt, []⟩
    | .PolicyEval inp, _ => .ok ⟨true, "allow", [], inp.sanitized_prompt, []⟩
    | .JITTokenIssue _, _ => .ok ⟨token, "", none, none⟩
    | .BudgetPreCheck _, _ => .ok ⟨BudgetSession.serialize ⟨⟨""⟩, "", 1, 0, 0, [], ∅⟩⟩
    | .LLMInvoke inp, _ => .ok ⟨"", tokens_used, inp.model, "", 0⟩
    | .BudgetRecordSpend inp, _ =>
        .ok ⟨BudgetSession.serialize ⟨⟨""⟩, "", 1, 0, 0, [], ∅⟩, inp.history⟩
    | .PostSanitize inp, _ => .ok ⟨inp.content, []⟩
    | .WorkflowAudit _, _ => .ok ()
    | .wait_condition _, w => if w.approval_signal.isSome then .ok () else .error timeoutError

section
variable (inp : WorkflowInput) (token : Tok) (tokens_used : ℤ)

theorem before_gate_willing (w : AgentTaskWorkflow) :
    ∃ h r, (before_gate inp).exec (willing token tokens_used) w = (h, .ok r, begin_run inp w) :=
  ⟨_, _, rfl⟩

theorem await_pending_approval_willing (w : AgentTaskWorkflow) :
    ∃ h d w', (await_pending_approval inp).exec (willing token tokens_used) w = (h, .ok d, w') ∧
      d.approved = true :=
  ⟨_, _, _, rfl, rfl⟩

theorem after_gate_willing (scrub : PrePIIScrubResult) (policy : PolicyEvalResult)
    (t : JITTokenResult Tok) (w : AgentTaskWorkflow) :
    ∃ h out w', (after_gate inp scrub policy t).exec (willing token tokens_used) w =
        (h, .ok out, w') ∧
      ∃ i llm, (⟨.LLMInvoke i, .ok llm⟩ : Σ q : WorkflowCall Tok, Except Exc q.Answer) ∈ h ∧
        llm.tokens_used = tokens_used := by
  unfold after_gate pre_check record_budget
  cases budget_fields inp with
  | none =>
      refine ⟨_, _, _, rfl, _, _, List.mem_cons_self, rfl⟩
  | some b =>
      refine ⟨_, _, _, rfl, _, _, List.mem_cons_of_mem _ List.mem_cons_self, rfl⟩

/-- A run with an adapter call that reports so many tokens has returned. -/
def Finished (tokens_used : ℤ) (x : Calls Tok × Except Exc WorkflowOutput × AgentTaskWorkflow) :
    Prop :=
  (∃ out, x.2.1 = .ok out) ∧
    ∃ i llm, (⟨.LLMInvoke i, .ok llm⟩ : Σ q : WorkflowCall Tok, Except Exc q.Answer) ∈ x.1 ∧
      llm.tokens_used = tokens_used

theorem Finished.after {h : Calls Tok} {x : Calls Tok × Except Exc WorkflowOutput × AgentTaskWorkflow}
    (hx : Finished tokens_used x) : Finished tokens_used (h ++ x.1, x.2) := by
  obtain ⟨hout, i, llm, hmem, htokens⟩ := hx
  exact ⟨hout, i, llm, List.mem_append_right _ hmem, htokens⟩

theorem run_willing {b : Bool} (hexc : exceeds_threshold inp = .ok b) (w : AgentTaskWorkflow) :
    Finished tokens_used ((run inp).exec (willing token tokens_used) w) := by
  have hpassed : ∀ scrub policy t w, Finished tokens_used
      ((after_gate inp scrub policy t).exec (willing token tokens_used) w) := by
    intro scrub policy t w
    obtain ⟨h, out, w', hrun, hllm⟩ := after_gate_willing inp token tokens_used scrub policy t w
    rw [hrun]
    exact ⟨⟨out, rfl⟩, hllm⟩
  obtain ⟨h₁, ⟨scrub, policy, t⟩, hbefore⟩ := before_gate_willing inp token tokens_used w
  unfold run
  rw [Co.exec_bind_ok hbefore]
  refine Finished.after tokens_used ?_
  rw [hexc]
  cases b with
  | false => exact hpassed scrub policy t _
  | true =>
      obtain ⟨h₂, d, w₂, hgate, hd⟩ :=
        await_pending_approval_willing inp token tokens_used (begin_run inp w)
      show Finished tokens_used ((await_pending_approval inp >>= fun decision =>
        if decision.approved then after_gate inp scrub policy t
        else self >>= fun w => pure (refused_output inp scrub policy decision w)).exec _
          (begin_run inp w))
      rw [Co.exec_bind_ok hgate, if_pos hd]
      exact (hpassed scrub policy t w₂).after tokens_used

include token in
/-- Where the projected spend is a number, some run completes. -/
theorem completes {b : Bool} (hexc : exceeds_threshold inp = .ok b) :
    ∃ c : Config Tok, Reaches inp c ∧ Completed c tokens_used := by
  have hdrift : ∀ (q : WorkflowCall Tok) (w : AgentTaskWorkflow),
      Relation.ReflTransGen Signalled w ((willing token tokens_used).drift q w) := by
    intro q w
    cases q with
    | wait_condition _ => exact .single (.approve _ _)
    | _ => exact .refl
  have hreply : ∀ (q : WorkflowCall Tok) (w : AgentTaskWorkflow),
      MayAnswer q ((willing token tokens_used).reply q w) w := by
    intro q w
    cases q with
    | wait_condition t =>
        show MayAnswer (.wait_condition t) (if w.approval_signal.isSome then _ else _) w
        split
        · rename_i hsome
          exact Option.isSome_iff_ne_none.mp hsome
        · trivial
    | _ => trivial
  obtain ⟨c, hc, hhist, hdone⟩ :=
    Co.Conf.reachable_exec hdrift (fun q w => hreply q _) (run inp) ({} : AgentTaskWorkflow)
  obtain ⟨⟨out, hout⟩, hllm⟩ := run_willing inp token tokens_used hexc {}
  refine ⟨c, ⟨{}, .refl, hc⟩, ⟨out, hdone out hout⟩, ?_⟩
  rw [hhist]
  exact hllm

/-- Where it is not, none does. -/
theorem never_completes {e : Exc} (hexc : exceeds_threshold inp = .error e) {c : Config Tok}
    (hc : Reaches inp c) : ¬Completed c tokens_used := by
  rintro ⟨⟨out, hout⟩, -⟩
  obtain ⟨w₀, -, hr⟩ := hc
  have hsafe : FlowSafe (fun _ _ => False) [] w₀ (run inp : Flow Tok _) w₀ := by
    refine Co.Safe.andThen .trivial ?_
    rintro h w ⟨scrub, policy, t⟩ w'
    rw [hexc]
    exact trivial
  have hstop := (Co.Conf.good_of_reachable hsafe hr).stopOk
  rw [hout] at hstop
  exact hstop

end

end AgentTaskWorkflow

/-! ## The two paths -/

/-- A durable run whose adapter call reports so many tokens completes only if recording its step
would not raise; where Stage 4.6 would refuse, it does not complete. -/
structure Guarded (Tok : Type) {inp : WorkflowInput} (L : LoopState inp) (tokens_used : ℤ) :
    Prop where
  records : ∀ c : AgentTaskWorkflow.Config Tok, AgentTaskWorkflow.Reaches inp c →
    AgentTaskWorkflow.Completed c tokens_used →
    ∃ ctx, result (record L.id (inp.loop_step tokens_used) L.detector) = .ok ctx
  agrees : ∀ {O : Orchestrator Tok} {rq w} task_id llm_response, Sibling L O rq w →
    llm_response.tokens_used = tokens_used →
    (∃ e w', Orchestrator.watchdog_loop_detect O rq task_id llm_response w = .error e w' ∧
      e.kind ∈ loop_errors) →
    ∀ c : AgentTaskWorkflow.Config Tok, AgentTaskWorkflow.Reaches inp c →
      ¬AgentTaskWorkflow.Completed c tokens_used

/-- **The loop breaker on the durable path.**  A run is guarded exactly when the breaker would have
nothing to say to its step, or it cannot complete for want of a projected spend. -/
theorem loop_breaker_guards_iff [Inhabited Tok] (inp : WorkflowInput) (L : LoopState inp)
    (tokens_used : ℤ) :
    Guarded Tok L tokens_used ↔
      L.Quiet tokens_used ∨ ∃ e, AgentTaskWorkflow.exceeds_threshold inp = .error e := by
  constructor
  · intro hguard
    cases hexc : AgentTaskWorkflow.exceeds_threshold inp with
    | error e => exact .inr ⟨e, rfl⟩
    | ok b =>
        obtain ⟨c, hc, hdone⟩ :=
          AgentTaskWorkflow.completes inp (default : Tok) tokens_used hexc
        exact .inl ((record_ok_iff L tokens_used).mp (hguard.records c hc hdone))
  · rintro (hquiet | ⟨e, hexc⟩)
    · refine ⟨fun _ _ _ => (record_ok_iff L tokens_used).mpr hquiet, ?_⟩
      rintro O rq w task_id llm_response hs rfl hrefuses
      exact absurd hquiet ((hs.refuses_iff task_id llm_response).mp hrefuses)
    · refine ⟨fun c hc hdone => absurd hdone (AgentTaskWorkflow.never_completes inp _ hexc hc), ?_⟩
      intro O rq w task_id llm_response _ _ _ c hc
      exact AgentTaskWorkflow.never_completes inp _ hexc hc

/-! ### An agent that asks for a human -/

def askingInput : WorkflowInput where
  task_id := "task-0"
  prompt := "hello"
  agent_type := "general"
  requester_id := "client"
  loop_session_id := some ⟨"loop-0", some ⟨"loop-0"⟩⟩
  loop_signal := .HUMAN_REQUIRED

/-- Its session, without a step so far. -/
def askingState : LoopState askingInput where
  id := ⟨"loop-0"⟩
  detector := (LoopDetector.init {} none none []).put ⟨"loop-0"⟩ ⟨⟨"loop-0"⟩, "general", [], 0, false, false⟩
  settings := {}
  ctx := ⟨⟨"loop-0"⟩, "general", [], 0, false, false⟩
  session := rfl
  known := put_self _ _ _
  steps_limit := rfl
  velocity_limit := rfl

/-- The breaker would stop the run for a human; the run completes. -/
theorem request_for_human_ignored :
    (∃ c : AgentTaskWorkflow.Config Unit, AgentTaskWorkflow.Reaches askingInput c ∧
      AgentTaskWorkflow.Completed c 7) ∧
    ∃ e, result (record askingState.id (askingInput.loop_step 7) askingState.detector) = .error e ∧
      e.kind = .PendingApprovalError := by
  refine ⟨AgentTaskWorkflow.completes askingInput () 7 (b := false) (by decide +kernel), ?_⟩
  exact ⟨_, rfl, rfl⟩

end AegisOs
