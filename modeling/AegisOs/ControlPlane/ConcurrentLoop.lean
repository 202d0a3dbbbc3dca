/-
# `AegisOs.ControlPlane.ConcurrentLoop` — many runs, one loop session

Any number of `Orchestrator.run` calls report their steps to one circuit breaker,
interleaved at their two awaits.  The breaker counts a streak over all of them, so
whether a run is halted hangs on the order the others report in.

**The shared detector is linearizable.**  There is a list of the reported steps, in
the order in which the adapter's answers came in, such that

* the context is the one these steps leave when a single caller makes them;
* each run ends as the verdict on its own step, after those before it in the list,
  says it must.

An answered run that is not in the list was stopped by the budget enforcer, which
comes first.  `AfterAnswer` is what one segment does; the rest is an induction on
the events.
-/
import AegisOs.ControlPlane.ConcurrentBudget
import AegisOs.ControlPlane.RefusalRecord

namespace AegisOs.Orchestrator

open Lib Lib.EState

variable {Tok : Type}

/-! ## What the stages do to the detector -/

/-- The circuit breaker is as it was. -/
def SameLoop (w w' : World Tok) : Prop := w'.loop_detector = w.loop_detector

/-- Before the adapter answers, nothing touches the detector. -/
theorem loopFrame : PreFrame (@SameLoop Tok) := by
  have hsession : ∀ {α : Type} (m : SM Tok α), Keeps SameLoop (on_session_mgr m) := fun m =>
    Keeps.zoom (R := fun _ _ => True) (fun _ => trivial) fun _ _ _ => rfl
  exact
    { refl := fun _ => rfl
      trans := fun _ _ _ h h' => Eq.trans h' h
      audit := fun _ _ h => h.2.2
      validate_token := fun _ _ => hsession _
      is_expired := fun _ => hsession _
      issue_token := fun _ _ => hsession _
      generate_dpop_key_pair := hsession _
      issue_dpop_proof := fun _ _ _ _ _ _ _ => hsession _
      check_budget := fun _ => Keeps.zoom (R := fun _ _ => True) (fun _ => trivial)
        fun _ _ _ => rfl }

section
variable (O : Orchestrator Tok) (rq : OrchestratorRequest Tok) (task_id : Uuid)

theorem sameLoop_record_spend (resp : LLMResponse) :
    Keeps SameLoop (watchdog_record_spend O rq task_id resp) := by
  unfold watchdog_record_spend
  split
  · exact Keeps.pure loopFrame.refl ()
  · refine loopFrame.span_stage (Keeps.bind loopFrame.trans ?_ fun _ => loopFrame.log _)
    refine Keeps.catching loopFrame.trans ?_ fun _ _ => clause_ite (loopFrame.log_throw _ _) nofun
    exact Keeps.zoom (R := fun _ _ => True) (fun _ => trivial) fun _ _ _ => rfl

/-- The loop session a run reports to, when the detector is wired. -/
def loop_session : Option Uuid := if O.loop_wired then rq.loop_session_id else none

/-- The step a run reports. -/
def step_call (resp : LLMResponse) : LoopDetector.StepCall where
  token_delta := rq.loop_token_delta.getD resp.tokens_used
  signal := rq.loop_signal

/-- The class a run raises when the detector has raised `kind`. -/
def surfaced (kind : ExcKind) : ExcKind := ((loop_trip kind).map Prod.snd).getD kind

/-- What follows the adapter's answer does to the detector, and how it ends. -/
inductive AfterAnswer (id : Uuid) (resp : LLMResponse) (w w' : World Tok) : Option Exc → Prop
  /-- The enforcer stops the run before it reports its step. -/
  | skipped {e : Exc} : ¬SpendPasses O rq resp w.budget_enforcer → SameLoop w w' →
      AfterAnswer id resp w w' (some e)
  /-- The detector raises. -/
  | tripped {e : Exc} {kind : ExcKind} :
      w'.loop_detector = after (LoopDetector.record id (step_call rq resp) w.loop_detector) →
      LoopDetector.raised (result (LoopDetector.record id (step_call rq resp) w.loop_detector)) =
        some kind → e.kind = surfaced kind → AfterAnswer id resp w w' (some e)
  /-- The answer cannot be masked. -/
  | unmasked {e : Exc} :
      w'.loop_detector = after (LoopDetector.record id (step_call rq resp) w.loop_detector) →
      LoopDetector.raised (result (LoopDetector.record id (step_call rq resp) w.loop_detector)) =
        none → O.guardrails.mask_pii resp.content = .error e → AfterAnswer id resp w w' (some e)
  | passed :
      w'.loop_detector = after (LoopDetector.record id (step_call rq resp) w.loop_detector) →
      LoopDetector.raised (result (LoopDetector.record id (step_call rq resp) w.loop_detector)) =
        none → AfterAnswer id resp w w' none

variable {O rq task_id}

theorem stage_error_eq_error {α : Type} {span task agent : String} {e e' : Exc} {w w' : World Tok}
    (h : (stage_error span task agent e : WM Tok α) w = .error e' w') : e' = e := by
  unfold stage_error at h
  split at h <;> cases h <;> rfl

/-- A stage raises what its body raises. -/
theorem span_stage_eq_error {α : Type} {span task agent : String} {m : WM Tok α} {w w' : World Tok}
    {e : Exc} (h : span_stage span task agent m w = .error e w') :
    ∃ w₁, m w = .error e w₁ ∧ OnlyAudit w₁ w' := by
  rcases catching_eq_error h with ⟨e₁, w₁, g, hm, hg, hrun⟩ | ⟨_, hg⟩
  · cases hg
    rw [stage_error_eq_error hrun]
    exact ⟨w₁, hm, (onlyAudit_stage_error _ _ _ e₁).error hrun⟩
  · cases hg

theorem post_sanitize_eq_error {resp : LLMResponse} {e : Exc} {w w' : World Tok}
    (h : post_sanitize O rq task_id resp w = .error e w') :
    O.guardrails.mask_pii resp.content = .error e := by
  obtain ⟨w₁, hbody, -⟩ := span_stage_eq_error h
  rcases bind_eq_error.mp hbody with hguard | ⟨m, w₂, -, hlog⟩
  · exact (guard_eq_error.mp hguard).1
  · cases hlog

/-- A report to the detector that is stopped. -/
theorem watchdog_loop_detect_eq_error {id : Uuid} (hid : loop_session O rq = some id)
    {resp : LLMResponse} {e : Exc} {w w' : World Tok}
    (h : watchdog_loop_detect O rq task_id resp w = .error e w') :
    w'.loop_detector = after (LoopDetector.record id (step_call rq resp) w.loop_detector) ∧
      ∃ kind, LoopDetector.raised
          (result (LoopDetector.record id (step_call rq resp) w.loop_detector)) = some kind ∧
        e.kind = surfaced kind := by
  unfold watchdog_loop_detect at h
  unfold loop_session at hid
  simp only [hid] at h
  obtain ⟨w₁, hbody, haudit⟩ := span_stage_eq_error h
  rcases bind_eq_error.mp hbody with hcatch | ⟨_, w₂, -, hlog⟩
  · rcases catching_eq_error hcatch with ⟨e₁, w₂, g, hon, hg, hrun⟩ | ⟨hon, hg⟩
    · obtain ⟨d, hd, rfl⟩ := zoom_eq_error.mp hon
      have hrec : LoopDetector.record id (step_call rq resp) w.loop_detector = .error e₁ d := hd
      split at hg
      · rename_i event kind htrip
        cases hg
        cases hrun
        rw [haudit.2.2, hrec]
        exact ⟨rfl, e₁.kind, rfl, by simp [surfaced, htrip]⟩
      · cases hg
    · obtain ⟨d, hd, rfl⟩ := zoom_eq_error.mp hon
      have hrec : LoopDetector.record id (step_call rq resp) w.loop_detector = .error e d := hd
      split at hg
      · cases hg
      · rename_i hnone
        rw [haudit.2.2, hrec]
        exact ⟨rfl, e.kind, rfl, by simp [surfaced, hnone]⟩
  · cases hlog

theorem watchdog_loop_detect_eq_ok {id : Uuid} (hid : loop_session O rq = some id)
    {resp : LLMResponse} {u : Unit} {w w' : World Tok}
    (h : watchdog_loop_detect O rq task_id resp w = .ok u w') :
    w'.loop_detector = after (LoopDetector.record id (step_call rq resp) w.loop_detector) ∧
      LoopDetector.raised
        (result (LoopDetector.record id (step_call rq resp) w.loop_detector)) = none := by
  unfold watchdog_loop_detect at h
  unfold loop_session at hid
  simp only [hid] at h
  obtain ⟨ctx, w₁, hm, rfl⟩ := (watchdog_ok_iff (records_loop fun _ _ => rfl)).mp h
  obtain ⟨d, hd, rfl⟩ := zoom_eq_ok.mp hm
  have hrec : LoopDetector.record id (step_call rq resp) w.loop_detector = .ok ctx d := hd
  rw [hrec]
  exact ⟨rfl, rfl⟩

/-- **One segment.** -/
theorem after_llm_afterAnswer {id : Uuid} (hid : loop_session O rq = some id) (m : MaskResult)
    (token : Tok) (resp : LLMResponse) (w : World Tok) :
    (∀ r w', after_llm O rq task_id m token resp w = .ok r w' →
        AfterAnswer O rq id resp w w' none) ∧
      ∀ e w', after_llm O rq task_id m token resp w = .error e w' →
        AfterAnswer O rq id resp w w' (some e) := by
  have hpasses := watchdog_record_spend_ok_iff O rq task_id resp w
  constructor
  · intro r w' h
    unfold after_llm at h
    obtain ⟨_, w₁, hspend, h₁⟩ := bind_eq_ok.mp h
    obtain ⟨_, w₂, hstep, h₂⟩ := bind_eq_ok.mp h₁
    obtain ⟨post_mask, w₃, hpost, h₃⟩ := bind_eq_ok.mp h₂
    cases h₃
    have hsame : w₁.loop_detector = w.loop_detector :=
      (sameLoop_record_spend O rq task_id resp).ok hspend
    have hsame' : w'.loop_detector = w₂.loop_detector :=
      (loopFrame.post_sanitize O rq task_id resp).ok hpost
    obtain ⟨hd, hnone⟩ := watchdog_loop_detect_eq_ok hid hstep
    rw [hsame] at hd hnone
    exact .passed (hsame'.trans hd) hnone
  · intro e w' h
    unfold after_llm at h
    rcases bind_eq_error.mp h with hspend | ⟨_, w₁, hspend, h₁⟩
    · refine .skipped ?_ ((sameLoop_record_spend O rq task_id resp).error hspend)
      rw [← hpasses]
      rintro ⟨u, w₁, hok⟩
      rw [hok] at hspend
      cases hspend
    have hsame : w₁.loop_detector = w.loop_detector :=
      (sameLoop_record_spend O rq task_id resp).ok hspend
    rcases bind_eq_error.mp h₁ with hstep | ⟨_, w₂, hstep, h₂⟩
    · obtain ⟨hd, kind, hraised, hkind⟩ := watchdog_loop_detect_eq_error hid hstep
      rw [hsame] at hd hraised
      exact .tripped hd hraised hkind
    obtain ⟨hd, hnone⟩ := watchdog_loop_detect_eq_ok hid hstep
    rw [hsame] at hd hnone
    rcases bind_eq_error.mp h₂ with hpost | ⟨_, w₃, -, h₃⟩
    · have hsame' : w'.loop_detector = w₂.loop_detector :=
        (loopFrame.post_sanitize O rq task_id resp).error hpost
      exact .unmasked (hsame'.trans hd) hnone (post_sanitize_eq_error hpost)
    · cases h₃

theorem sameLoop_after_llm (hid : loop_session O rq = none) (m : MaskResult) (token : Tok)
    (resp : LLMResponse) : Keeps SameLoop (after_llm O rq task_id m token resp) := by
  refine Keeps.bind loopFrame.trans (sameLoop_record_spend O rq task_id resp) fun _ => ?_
  refine Keeps.bind loopFrame.trans ?_ fun _ => ?_
  · unfold watchdog_loop_detect
    unfold loop_session at hid
    simp only [hid]
    exact Keeps.pure loopFrame.refl ()
  · refine Keeps.bind loopFrame.trans (loopFrame.post_sanitize O rq task_id resp) fun _ => ?_
    exact Keeps.pure loopFrame.refl _

theorem AfterAnswer.of_onlyAudit {id : Uuid} {resp : LLMResponse} {w₁ w₂ w₃ : World Tok}
    {out : Option Exc} (h : AfterAnswer O rq id resp w₂ w₃ out) (ha : OnlyAudit w₁ w₂) :
    AfterAnswer O rq id resp w₁ w₃ out := by
  obtain ⟨-, hbudget, hloop⟩ := ha
  cases h with
  | skipped hspend hsame =>
      rw [hbudget] at hspend
      exact .skipped hspend (Eq.trans hsame hloop)
  | tripped hd hraised hkind =>
      rw [hloop] at hd hraised
      exact .tripped hd hraised hkind
  | unmasked hd hnone hmask =>
      rw [hloop] at hd hnone
      exact .unmasked hd hnone hmask
  | passed hd hnone =>
      rw [hloop] at hd hnone
      exact .passed hd hnone

/-- What a segment does to the detector, given the calls answered before it, and how it ends. -/
def LoopSegment (O : Orchestrator Tok) (rq : OrchestratorRequest Tok) (h : Answered Tok)
    (w w' : World Tok) (out : Option Exc) : Prop :=
  match h.getLast?, loop_session O rq with
  | some ⟨.complete _, .ok resp⟩, some id => AfterAnswer O rq id resp w w' out
  | _, _ => SameLoop w w'

/-- A run reports its step in the segment after the adapter's answer and nowhere else, and does not
suspend after it. -/
theorem run_loop_safe (O : Orchestrator Tok) (rq : OrchestratorRequest Tok) (w : World Tok) :
    Co.Safe Co.anyEnv
      (fun h w₀ _ w => SameLoop w₀ w ∧ completes h = 0)
      (fun h w₀ _ w => LoopSegment O rq h w₀ w none)
      (fun h w₀ e w => LoopSegment O rq h w₀ w (some e)) [] w (run O rq) w := by
  unfold run
  cases rq.task_id with
  | none => exact loopFrame.refl w
  | some task_id =>
      refine Co.Safe.bind (Co.Safe.lift ?_ ?_)
      · intro pre_mask w₁ hpre
        have h₁ : SameLoop w w₁ := (loopFrame.pre_sanitize O rq task_id).ok hpre
        refine Co.Safe.bind (safe_policy_eval ⟨h₁, rfl⟩ ?_ ?_)
        · intro pr w₂ w₃ _ _ _ h₃
          refine Co.Safe.bind (Co.Safe.lift ?_ ?_)
          · rintro ⟨m, token, adapter_token, proof⟩ w₄ hbefore
            have h₄ : SameLoop w₂ w₄ := loopFrame.trans _ _ _ h₃.2.2
              ((loopFrame.before_llm O rq task_id pr pre_mask).ok hbefore)
            refine Co.Safe.bind (safe_llm_invoke ⟨h₄, rfl⟩ ?_ ?_)
            · intro resp w₅ w₆ _ h₆
              have hlift : ∀ {w₇ : World Tok} {out : Option Exc},
                  (∀ id, loop_session O rq = some id → AfterAnswer O rq id resp w₆ w₇ out) →
                  (loop_session O rq = none → SameLoop w₆ w₇) →
                  LoopSegment O rq [⟨.evaluate "agent_access" (policy_input rq), .ok pr⟩,
                    ⟨.complete (llm_request rq m.text adapter_token proof), .ok resp⟩] w₅ w₇ out := by
                intro w₇ out hsome hnone
                unfold LoopSegment
                cases hid : loop_session O rq with
                | none => exact loopFrame.trans _ _ _ h₆.2.2 (hnone hid)
                | some id => exact (hsome id hid).of_onlyAudit h₆
              refine Co.Safe.lift ?_ ?_
              · intro r w₇ hrun
                refine hlift (fun id hid => ?_) (fun hid => ?_)
                · exact (after_llm_afterAnswer hid m token resp w₆).1 r w₇ hrun
                · exact (sameLoop_after_llm hid m token resp).ok hrun
              · intro e w₇ hrun
                refine hlift (fun id hid => ?_) (fun hid => ?_)
                · exact (after_llm_afterAnswer hid m token resp w₆).2 e w₇ hrun
                · exact (sameLoop_after_llm hid m token resp).error hrun
            · exact fun e w' e' w'' _ h' => h'.2.2
          · intro e w₄ hrun
            exact loopFrame.trans _ _ _ h₃.2.2
              ((loopFrame.before_llm O rq task_id pr pre_mask).error hrun)
        · intro r w' e w'' _ _ h'
          exact h'.2.2
      · intro e w₁ hrun
        exact (loopFrame.pre_sanitize O rq task_id).error hrun

end

/-! ## The detector, one session at a time -/

/-- A call on another session. -/
theorem record_other {d : LoopDetector} {id id' : Uuid} (hne : id ≠ id')
    (x : LoopDetector.StepCall) :
    (after (LoopDetector.record id' x d)).contexts id = d.contexts id ∧
      (after (LoopDetector.record id' x d)).max_agent_steps = d.max_agent_steps ∧
      (after (LoopDetector.record id' x d)).max_token_velocity = d.max_token_velocity := by
  cases hctx : d.contexts id' with
  | none =>
      rw [LoopDetector.record_none hctx]
      exact ⟨rfl, rfl, rfl⟩
  | some ctx =>
      obtain ⟨-, hcontexts, hsteps, hvel⟩ := LoopDetector.record_run hctx x rfl
      refine ⟨?_, hsteps, hvel⟩
      rw [hcontexts]
      exact Function.update_of_ne hne _ _

/-- The detector of one caller, who has made these calls on a new context. -/
def alone (d : LoopDetector) (id : Uuid) (agent_type : String)
    (calls : List LoopDetector.StepCall) : LoopDetector :=
  final (LoopDetector.record id) calls (after (LoopDetector.create_context id agent_type d))

/-- One more call on a detector that knows about the session what that of one caller does. -/
theorem record_alone {d d' : LoopDetector} {id : Uuid} {agent_type : String}
    {calls : List LoopDetector.StepCall}
    (hctx : d'.contexts id = (alone d id agent_type calls).contexts id)
    (hsteps : d'.max_agent_steps = d.max_agent_steps)
    (hvel : d'.max_token_velocity = d.max_token_velocity) (x : LoopDetector.StepCall) :
    (after (LoopDetector.record id x d')).contexts id =
        (alone d id agent_type (calls ++ [x])).contexts id ∧
      (after (LoopDetector.record id x d')).max_agent_steps = d.max_agent_steps ∧
      (after (LoopDetector.record id x d')).max_token_velocity = d.max_token_velocity ∧
      LoopDetector.raised (result (LoopDetector.record id x d')) =
        LoopDetector.verdict d.max_agent_steps d.max_token_velocity calls x := by
  obtain ⟨ctx, hctx₀, hsteps₀, hvel₀, hm⟩ := LoopDetector.run_matches d id agent_type calls
  have hctx' : d'.contexts id = some ctx := hctx.trans hctx₀
  obtain ⟨hres, hw⟩ := LoopDetector.record_run hctx' x rfl
  obtain ⟨-, hw₀⟩ := LoopDetector.record_run hctx₀ x rfl
  rw [hsteps, hvel] at hres hw
  rw [hsteps₀, hvel₀] at hw₀
  refine ⟨?_, hw.2.1.trans hsteps, hw.2.2.trans hvel, ?_⟩
  · unfold alone
    rw [final_snoc, hw.context, hw₀.context]
  · rw [hres, LoopDetector.raised_tripped, LoopDetector.tripped_kind hm.steps]

/-! ## The pool -/

section Pool
variable {ι : Type} {O : Orchestrator Tok} {rq : ι → OrchestratorRequest Tok} {id : Uuid}

/-- The step an event may report to the session `id`. -/
def step_of (O : Orchestrator Tok) (rq : ι → OrchestratorRequest Tok) (id : Uuid) :
    RunEvent Tok ι → Option (ι × LoopDetector.StepCall)
  | .answer i (.complete _) (.ok resp) =>
      if loop_session O (rq i) = some id then some (i, step_call (rq i) resp) else none
  | _ => none

/-- The steps that the adapter's answers may report, in their order. -/
def steps_of (O : Orchestrator Tok) (rq : ι → OrchestratorRequest Tok) (id : Uuid)
    (evs : List (RunEvent Tok ι)) : List (ι × LoopDetector.StepCall) :=
  evs.filterMap (step_of O rq id)

/-- How a run ends on which the detector's verdict is `trip`. -/
def Concludes (O : Orchestrator Tok) (trip : Option ExcKind) :
    Co.Thread (World Tok) Exc (OrchCall Tok) OrchCall.Answer (OrchestratorResult Tok) → Prop
  | .stopped _ (.done _) => trip = none
  | .stopped h (.failed e) =>
      (∀ kind, trip = some kind → e.kind = surfaced kind) ∧
        (trip = none → ∃ req resp, h.getLast? = some ⟨.complete req, .ok resp⟩ ∧
          O.guardrails.mask_pii (LLMResponse.content resp) = .error e)
  | _ => False

/-- A run that has come to its end. -/
def Finished (t : Co.Thread (World Tok) Exc (OrchCall Tok) OrchCall.Answer
    (OrchestratorResult Tok)) : Prop :=
  ∃ h, (∃ r, t = .stopped h (.done r)) ∨ ∃ e, t = .stopped h (.failed e)

theorem Concludes.finished {trip : Option ExcKind}
    {t : Co.Thread (World Tok) Exc (OrchCall Tok) OrchCall.Answer (OrchestratorResult Tok)}
    (h : Concludes O trip t) : Finished t := by
  cases t with
  | fresh p => exact h.elim
  | stopped hist pt =>
      cases pt with
      | done r => exact ⟨hist, .inl ⟨r, rfl⟩⟩
      | failed e => exact ⟨hist, .inr ⟨e, rfl⟩⟩
      | waiting q k => exact h.elim

/-- `calls` is the order in which the shared detector has taken the steps. -/
structure Linear (O : Orchestrator Tok) (rq : ι → OrchestratorRequest Tok) (id : Uuid)
    (d : LoopDetector) (agent_type : String) (earlier : List LoopDetector.StepCall)
    (evs : List (RunEvent Tok ι)) (P : RunPool Tok ι) (calls : List (ι × LoopDetector.StepCall)) :
    Prop where
  order : calls.Sublist (steps_of O rq id evs)
  nodup : ((steps_of O rq id evs).map Prod.fst).Nodup
  context : P.shared.loop_detector.contexts id =
    (alone d id agent_type (earlier ++ calls.map Prod.snd)).contexts id
  max_agent_steps : P.shared.loop_detector.max_agent_steps = d.max_agent_steps
  max_token_velocity : P.shared.loop_detector.max_token_velocity = d.max_token_velocity
  concludes : ∀ before i x later, calls = before ++ (i, x) :: later →
    Concludes O (LoopDetector.verdict d.max_agent_steps d.max_token_velocity
      (earlier ++ before.map Prod.snd) x) (P.threads i)
  skipped : ∀ c ∈ steps_of O rq id evs, c ∉ calls → ∃ h e, P.threads c.1 = .stopped h (.failed e)

variable {d : LoopDetector} {agent_type : String} {earlier : List LoopDetector.StepCall}
  {evs : List (RunEvent Tok ι)} {P P' : RunPool Tok ι}
  {calls : List (ι × LoopDetector.StepCall)}

/-- A run whose step may have been reported has come to its end. -/
theorem Linear.finished (h : Linear O rq id d agent_type earlier evs P calls)
    {c : ι × LoopDetector.StepCall} (hc : c ∈ steps_of O rq id evs) : Finished (P.threads c.1) := by
  by_cases hmem : c ∈ calls
  · obtain ⟨before, later, hsplit⟩ := List.append_of_mem hmem
    exact (h.concludes before c.1 c.2 later hsplit).finished
  · obtain ⟨hist, e, he⟩ := h.skipped c hc hmem
    exact ⟨hist, .inr ⟨e, he⟩⟩

/-- An event that reports no step to the session. -/
theorem Linear.quiet (h : Linear O rq id d agent_type earlier evs P calls) {ev : RunEvent Tok ι}
    (hev : step_of O rq id ev = none)
    (hthreads : ∀ j, Finished (P.threads j) → P'.threads j = P.threads j)
    (hctx : P'.shared.loop_detector.contexts id = P.shared.loop_detector.contexts id)
    (hsteps : P'.shared.loop_detector.max_agent_steps = P.shared.loop_detector.max_agent_steps)
    (hvel : P'.shared.loop_detector.max_token_velocity =
      P.shared.loop_detector.max_token_velocity) :
    Linear O rq id d agent_type earlier (evs ++ [ev]) P' calls := by
  have heq : steps_of O rq id (evs ++ [ev]) = steps_of O rq id evs := by
    simp [steps_of, hev]
  refine ⟨by rw [heq]; exact h.order, by rw [heq]; exact h.nodup, hctx.trans h.context,
    hsteps.trans h.max_agent_steps, hvel.trans h.max_token_velocity, ?_, ?_⟩
  · intro before i x later hsplit
    have hend := h.concludes before i x later hsplit
    rwa [hthreads i hend.finished]
  · intro c hc hnot
    rw [heq] at hc
    rw [hthreads c.1 (h.finished hc)]
    exact h.skipped c hc hnot

section
variable {ev : RunEvent Tok ι} {i : ι} {x : LoopDetector.StepCall}
  (hev : step_of O rq id ev = some (i, x)) (hi : ¬Finished (P.threads i))
include hev

theorem steps_of_snoc : steps_of O rq id (evs ++ [ev]) = steps_of O rq id evs ++ [(i, x)] := by
  simp [steps_of, hev]

include hi

/-- A run that has not come to its end has reported no step. -/
theorem Linear.fresh (h : Linear O rq id d agent_type earlier evs P calls)
    {c : ι × LoopDetector.StepCall} (hc : c ∈ steps_of O rq id evs) : c.1 ≠ i := by
  rintro rfl
  exact hi (h.finished hc)

theorem Linear.nodup_snoc (h : Linear O rq id d agent_type earlier evs P calls) :
    ((steps_of O rq id (evs ++ [ev])).map Prod.fst).Nodup := by
  rw [steps_of_snoc hev, List.map_append]
  refine List.nodup_append.mpr ⟨h.nodup, List.nodup_singleton _, ?_⟩
  intro j hj k hk
  obtain ⟨c, hc, rfl⟩ := List.mem_map.mp hj
  rw [List.map_singleton, List.mem_singleton] at hk
  rw [hk]
  exact h.fresh hev hi hc

/-- An answer to a run that the enforcer then stops. -/
theorem Linear.skip (h : Linear O rq id d agent_type earlier evs P calls)
    (hthreads : ∀ j ≠ i, P'.threads j = P.threads j)
    (hfail : ∃ hist e, P'.threads i = .stopped hist (.failed e))
    (hd : P'.shared.loop_detector = P.shared.loop_detector) :
    Linear O rq id d agent_type earlier (evs ++ [ev]) P' calls := by
  refine ⟨?_, h.nodup_snoc hev hi, by rw [hd]; exact h.context, by rw [hd]; exact h.max_agent_steps,
    by rw [hd]; exact h.max_token_velocity, ?_, ?_⟩
  · rw [steps_of_snoc hev]
    exact h.order.trans (List.sublist_append_left _ _)
  · intro before j y later hsplit
    have hmem : (j, y) ∈ steps_of O rq id evs := h.order.mem (by simp [hsplit])
    rw [hthreads j (h.fresh hev hi hmem)]
    exact h.concludes before j y later hsplit
  · intro c hc hnot
    rw [steps_of_snoc hev] at hc
    rcases List.mem_append.mp hc with hc | hc
    · rw [hthreads c.1 (h.fresh hev hi hc)]
      exact h.skipped c hc hnot
    · rw [List.mem_singleton.mp hc]
      exact hfail

/-- An answer to a run that then reports its step. -/
theorem Linear.take (h : Linear O rq id d agent_type earlier evs P calls)
    (hthreads : ∀ j ≠ i, P'.threads j = P.threads j)
    (hend : Concludes O (LoopDetector.verdict d.max_agent_steps d.max_token_velocity
      (earlier ++ calls.map Prod.snd) x) (P'.threads i))
    (hd : P'.shared.loop_detector = after (LoopDetector.record id x P.shared.loop_detector)) :
    Linear O rq id d agent_type earlier (evs ++ [ev]) P' (calls ++ [(i, x)]) := by
  obtain ⟨hctx, hsteps, hvel, -⟩ :=
    record_alone h.context h.max_agent_steps h.max_token_velocity x
  refine ⟨?_, h.nodup_snoc hev hi, ?_, by rw [hd, hsteps], by rw [hd, hvel], ?_, ?_⟩
  · rw [steps_of_snoc hev]
    exact h.order.append (List.Sublist.refl _)
  · rw [hd, hctx, List.map_append, List.append_assoc]
    rfl
  · intro before j y later hsplit
    -- the step is the last one, or one of those before it
    rcases List.eq_nil_or_concat later with rfl | ⟨init, z, rfl⟩
    · obtain ⟨rfl, heq⟩ := List.append_inj' hsplit rfl
      cases heq
      exact hend
    · rw [List.concat_eq_append, ← List.cons_append, ← List.append_assoc] at hsplit
      obtain ⟨rfl, -⟩ := List.append_inj' hsplit rfl
      have hmem : (j, y) ∈ steps_of O rq id evs := h.order.mem (by simp)
      rw [hthreads j (h.fresh hev hi hmem)]
      exact h.concludes before j y init rfl
  · intro c hc hnot
    rw [steps_of_snoc hev] at hc
    rcases List.mem_append.mp hc with hc | hc
    · rw [hthreads c.1 (h.fresh hev hi hc)]
      exact h.skipped c hc fun hmem => hnot (List.mem_append_left _ hmem)
    · exact absurd (List.mem_append_right _ hc) hnot

end

/-- How a segment has ended, when it is not at an await. -/
def ended : Co.Point (World Tok) Exc (OrchCall Tok) OrchCall.Answer (OrchestratorResult Tok) →
    Option (Option Exc)
  | .done _ => some none
  | .failed e => some (some e)
  | .waiting _ _ => none

theorem ended_failed
    {pt : Co.Point (World Tok) Exc (OrchCall Tok) OrchCall.Answer (OrchestratorResult Tok)} {e : Exc}
    (h : ended pt = some (some e)) : pt = .failed e := by
  cases pt with
  | done _ | waiting _ _ => cases h
  | failed _ =>
      cases h
      rfl

theorem ended_done
    {pt : Co.Point (World Tok) Exc (OrchCall Tok) OrchCall.Answer (OrchestratorResult Tok)}
    (h : ended pt = some none) : ∃ r, pt = .done r := by
  cases pt with
  | failed _ | waiting _ _ => cases h
  | done r => exact ⟨r, rfl⟩

theorem loopSegment_of_stopOk {r : OrchestratorRequest Tok} {h : Answered Tok} {w₀ w : World Tok}
    {pt : Co.Point (World Tok) Exc (OrchCall Tok) OrchCall.Answer (OrchestratorResult Tok)}
    (hs : Co.StopOk Co.anyEnv (fun h w₀ _ w => SameLoop w₀ w ∧ completes h = 0)
      (fun h w₀ _ w => LoopSegment O r h w₀ w none)
      (fun h w₀ e w => LoopSegment O r h w₀ w (some e)) h w₀ pt w) :
    (SameLoop w₀ w ∧ completes h = 0) ∨ ∃ out, ended pt = some out ∧ LoopSegment O r h w₀ w out := by
  cases pt with
  | done _ => exact .inr ⟨_, rfl, hs⟩
  | failed _ => exact .inr ⟨_, rfl, hs⟩
  | waiting _ _ => exact .inl hs.1

/-- The detector knows about the session what it knew. -/
def SameSession (id : Uuid) (d d' : LoopDetector) : Prop :=
  d'.contexts id = d.contexts id ∧ d'.max_agent_steps = d.max_agent_steps ∧
    d'.max_token_velocity = d.max_token_velocity

theorem SameLoop.sameSession {w w' : World Tok} (h : SameLoop w w') :
    SameSession id w.loop_detector w'.loop_detector := by
  unfold SameLoop at h
  rw [h]
  exact ⟨rfl, rfl, rfl⟩

/-- A segment whose event reports no step to the session. -/
theorem LoopSegment.sameSession {i : ι} {q : OrchCall Tok} {r : Except Exc q.Answer}
    {h : Answered Tok} {w w' : World Tok} {out : Option Exc}
    (hs : LoopSegment O (rq i) (h ++ [⟨q, r⟩]) w w' out)
    (hev : step_of O rq id (.answer i q r) = none) :
    SameSession id w.loop_detector w'.loop_detector := by
  unfold LoopSegment at hs
  rw [List.getLast?_concat] at hs
  cases q with
  | evaluate name input => exact SameLoop.sameSession hs
  | complete req =>
      cases r with
      | error e => exact SameLoop.sameSession hs
      | ok resp =>
          cases hid : loop_session O (rq i) with
          | none =>
              rw [hid] at hs
              exact SameLoop.sameSession hs
          | some id' =>
              rw [hid] at hs
              have hne : id ≠ id' := by
                rintro rfl
                simp [step_of, hid] at hev
              have hother : ∀ {d : LoopDetector},
                  d = after (LoopDetector.record id' (step_call (rq i) resp) w.loop_detector) →
                    SameSession id w.loop_detector d := by
                rintro d rfl
                exact record_other hne _
              cases hs with
              | skipped _ hsame => exact hsame.sameSession
              | tripped hd _ _ | unmasked hd _ _ | passed hd _ => exact hother hd

theorem step_of_eq_some {i : ι} {q : OrchCall Tok} {r : Except Exc q.Answer}
    {c : ι × LoopDetector.StepCall} (h : step_of O rq id (.answer i q r) = some c) :
    ∃ req resp, (⟨q, r⟩ : Σ q : OrchCall Tok, Except Exc q.Answer) = ⟨.complete req, .ok resp⟩ ∧
      loop_session O (rq i) = some id ∧ c = (i, step_call (rq i) resp) := by
  cases q with
  | evaluate name input => cases h
  | complete req =>
      cases r with
      | error e => cases h
      | ok resp =>
          unfold step_of at h
          dsimp only at h
          split at h
          · cases h
            exact ⟨req, resp, rfl, ‹_›, rfl⟩
          · cases h

variable [DecidableEq ι]

/-- The assertions of the pool. -/
theorem loopGood_of_run {w : World Tok} (hrun : Co.Pool.Run (poolStart O rq w) evs P) :
    P.Good (fun _ h w₀ _ w => SameLoop w₀ w ∧ completes h = 0)
      (fun i h w₀ _ w => LoopSegment O (rq i) h w₀ w none)
      (fun i h w₀ e w => LoopSegment O (rq i) h w₀ w (some e)) := by
  refine Co.Pool.good_of_run ?_ hrun
  exact fun i w' => run_loop_safe O (rq i) w'

theorem linear_of_run {w : World Tok} (hw : w.loop_detector = alone d id agent_type earlier)
    (hrun : Co.Pool.Run (poolStart O rq w) evs P) :
    ∃ calls, Linear O rq id d agent_type earlier evs P calls := by
  induction hrun with
  | refl =>
      obtain ⟨ctx, -, hsteps, hvel, -⟩ := LoopDetector.run_matches d id agent_type earlier
      refine ⟨[], List.nil_sublist _, List.nodup_nil, ?_, ?_, ?_, by simp, by simp [steps_of]⟩
      · rw [List.map_nil, List.append_nil]
        exact congrArg (fun d => d.contexts id) hw
      · exact (congrArg LoopDetector.max_agent_steps hw).trans hsteps
      · exact (congrArg LoopDetector.max_token_velocity hw).trans hvel
  | @snoc P P' evs ev hpre hstep ih =>
      obtain ⟨calls, hlin⟩ := ih
      have hthreads : ∀ j ≠ runOf ev, P'.threads j = P.threads j := fun j hj =>
        threads_of_step hstep hj
      -- the run that steps has not come to its end
      have hopen : ¬Finished (P.threads (runOf ev)) := by
        rintro ⟨hist, ⟨r, hr⟩ | ⟨e, he⟩⟩
        · cases hstep with
          | start hi => cases hi.symm.trans hr
          | answer _ hi => cases hi.symm.trans hr
        · cases hstep with
          | start hi => cases hi.symm.trans he
          | answer _ hi => cases hi.symm.trans he
      have hquiet : step_of O rq id ev = none →
          SameSession id P.shared.loop_detector P'.shared.loop_detector →
          ∃ calls, Linear O rq id d agent_type earlier (evs ++ [ev]) P' calls := by
        rintro hev ⟨hctx, hsteps, hvel⟩
        refine ⟨calls, hlin.quiet hev ?_ hctx hsteps hvel⟩
        rintro j hj
        refine hthreads j ?_
        rintro rfl
        exact hopen hj
      rcases (loopGood_of_run hpre).step_cases hstep with
        ⟨i, p, rfl, hi, pt, hpt, hstop⟩ | ⟨i, h, q, k, r, rfl, hi, pt, hpt, hstop⟩
      · refine hquiet rfl ?_
        rcases loopSegment_of_stopOk hstop with ⟨hsame, -⟩ | ⟨out, -, hsame⟩
        · exact hsame.sameSession
        · exact SameLoop.sameSession hsame
      · cases hev : step_of O rq id (.answer i q r) with
        | none =>
            refine hquiet hev ?_
            rcases loopSegment_of_stopOk hstop with ⟨hsame, -⟩ | ⟨out, -, hseg⟩
            · exact hsame.sameSession
            · exact hseg.sameSession hev
        | some c =>
            obtain ⟨req, resp, heq, hid, rfl⟩ := step_of_eq_some hev
            cases heq
            have hlast : (h ++ [⟨.complete req, .ok resp⟩] : Answered Tok).getLast? =
                some ⟨.complete req, .ok resp⟩ := List.getLast?_concat
            rcases loopSegment_of_stopOk hstop with ⟨-, hzero⟩ | ⟨out, hout, hseg⟩
            · exact absurd hzero (by simp [completes])
            · unfold LoopSegment at hseg
              rw [hlast, hid] at hseg
              have hpt' : P'.threads i = .stopped (h ++ [⟨.complete req, .ok resp⟩]) pt := by
                rw [hpt, Function.update_self]
              obtain ⟨-, -, -, hverdict⟩ := record_alone hlin.context hlin.max_agent_steps
                hlin.max_token_velocity (step_call (rq i) resp)
              have htake : ∀ {trip : Option ExcKind},
                  P'.shared.loop_detector =
                    after (LoopDetector.record id (step_call (rq i) resp) P.shared.loop_detector) →
                  LoopDetector.raised (result (LoopDetector.record id (step_call (rq i) resp)
                    P.shared.loop_detector)) = trip →
                  Concludes O trip (P'.threads i) →
                  ∃ calls, Linear O rq id d agent_type earlier
                    (evs ++ [.answer i (.complete req) (.ok resp)]) P' calls := by
                intro trip hd hraised hend
                rw [← hraised, hverdict] at hend
                exact ⟨_, hlin.take hev hopen hthreads hend hd⟩
              cases hseg with
              | @skipped e _ hsame =>
                  have hfail : P'.threads i =
                      .stopped (h ++ [⟨.complete req, .ok resp⟩]) (.failed e) := by
                    rw [hpt', ended_failed hout]
                  exact ⟨calls, hlin.skip hev hopen hthreads ⟨_, _, hfail⟩ hsame⟩
              | @tripped e kind hd hraised hkind =>
                  refine htake hd hraised ?_
                  rw [hpt', ended_failed hout]
                  refine ⟨?_, fun hnone => absurd hnone (Option.some_ne_none _)⟩
                  rintro _ ⟨⟩
                  exact hkind
              | @unmasked e hd hraised hmask =>
                  refine htake hd hraised ?_
                  rw [hpt', ended_failed hout]
                  exact ⟨fun _ hsome => absurd hsome.symm (Option.some_ne_none _),
                    fun _ => ⟨req, resp, hlast, hmask⟩⟩
              | passed hd hraised =>
                  obtain ⟨result, hdone⟩ := ended_done hout
                  refine htake hd hraised ?_
                  rw [hpt', hdone]
                  exact rfl

/-- **The shared circuit breaker is linearizable.**  Any number of runs, in any interleaving, on a
detector that a single caller has left after the calls `earlier` on the session `id`: the steps the
runs report to the session have an order, that of the adapter's answers, such that the context is the
one a single caller leaves who goes on with these steps; each run whose step is in it ends as the
verdict on its step says, after those before it; and an answered run whose step is not in it has
failed.  No run reports twice. -/
theorem concurrent_loop {w : World Tok} (hw : w.loop_detector = alone d id agent_type earlier)
    (hrun : Co.Pool.Run (poolStart O rq w) evs P) :
    ∃ calls : List (ι × LoopDetector.StepCall),
      calls.Sublist (steps_of O rq id evs) ∧ ((steps_of O rq id evs).map Prod.fst).Nodup ∧
      P.shared.loop_detector.contexts id =
        (alone d id agent_type (earlier ++ calls.map Prod.snd)).contexts id ∧
      (∀ before i x later, calls = before ++ (i, x) :: later →
        Concludes O (LoopDetector.verdict d.max_agent_steps d.max_token_velocity
          (earlier ++ before.map Prod.snd) x) (P.threads i)) ∧
      ∀ c ∈ steps_of O rq id evs, c ∉ calls → ∃ h e, P.threads c.1 = .stopped h (.failed e) := by
  obtain ⟨calls, h⟩ := linear_of_run hw hrun
  exact ⟨calls, h.order, h.nodup, h.context, h.concludes, h.skipped⟩

end Pool

/-! ### Two runs on one session -/

def loopOrchestrator : Orchestrator SymToken :=
  { plainOrchestrator with loop_wired := true }

def loopRequest : OrchestratorRequest SymToken :=
  { plainRequest with loop_session_id := some ⟨"loop-0"⟩ }

/-- A breaker that allows one step without progress. -/
def twoStepWorld : World SymToken :=
  { plainWorld with
    loop_detector := alone (LoopDetector.init {} (some 2) none []) ⟨"loop-0"⟩ "general" [] }

/-- Both runs call the adapter, the second one is answered first. -/
def twoReports : List (RunEvent SymToken Bool) × RunPool SymToken Bool :=
  (poolStart loopOrchestrator (fun _ => loopRequest) twoStepWorld).turns plainAnswers
    [false, true, false, true, true, false]

/-- How a run has ended. -/
def end_kind (t : Co.Thread (World Tok) Exc (OrchCall Tok) OrchCall.Answer
    (OrchestratorResult Tok)) : Option (Option ExcKind) :=
  match t with
  | .stopped _ (.done _) => some none
  | .stopped _ (.failed e) => some (some e.kind)
  | _ => none

/-- The run that is answered last is halted, though its own step is its first. -/
theorem twoReports_linear :
    (end_kind (twoReports.2.threads true) = some none ∧
        end_kind (twoReports.2.threads false) = some (some .LoopHaltError)) ∧
      ∃ calls : List (Bool × LoopDetector.StepCall),
        calls.Sublist [(true, ⟨7, .NO_PROGRESS, ""⟩), (false, ⟨7, .NO_PROGRESS, ""⟩)] ∧
        twoReports.2.shared.loop_detector.contexts ⟨"loop-0"⟩ =
          (alone (LoopDetector.init {} (some 2) none []) ⟨"loop-0"⟩ "general"
            (calls.map Prod.snd)).contexts ⟨"loop-0"⟩ := by
  have hrun := Co.Pool.Run.turns (f := plainAnswers) [false, true, false, true, true, false]
    (Co.Pool.Run.refl (poolStart loopOrchestrator (fun _ : Bool => loopRequest) twoStepWorld))
  have hw : twoStepWorld.loop_detector =
      alone (LoopDetector.init {} (some 2) none []) ⟨"loop-0"⟩ "general" [] := rfl
  obtain ⟨calls, horder, -, hctx, -, -⟩ := concurrent_loop hw hrun
  have hsteps : steps_of loopOrchestrator (fun _ : Bool => loopRequest) ⟨"loop-0"⟩ twoReports.1 =
      [(true, ⟨7, .NO_PROGRESS, ""⟩), (false, ⟨7, .NO_PROGRESS, ""⟩)] := by
    decide +kernel
  refine ⟨by decide +kernel, calls, ?_, hctx⟩
  rw [← hsteps]
  exact horder

end AegisOs.Orchestrator
