/-
# `AegisOs.ControlPlane.RefusalRecord` — one refusal record per refused request

The stages of `ControlPlane.Refusal` along a run.  A run that raises has
exactly one refusal record, its last event, unless it is `Misrecorded`:

    no record     a component raised an exception of a controlled class where
                  no clause of the stage records it: the guardrails, the
                  policy engine, the adapter, or the session manager when it
                  checks a token that was just issued
    two records   the supplied token is revoked: Stage 3 records the refusal,
                  and raises `PermissionError`, which `_span_stage` records
                  once more

The condition speaks of the request, the answers, and the components as they
are when the run's last segment begins.
-/
import AegisOs.ControlPlane.Refusal

namespace AegisOs.Orchestrator

open Lib Lib.EState

variable {Tok : Type}

/-! ## Between the awaits -/

section
variable (O : Orchestrator Tok) (rq : OrchestratorRequest Tok) (task_id : Uuid)

/-- When what lies between the two awaits misses the record of its refusal, or makes two. -/
def SlipsBeforeLlm (pr : PolicyResult) (m : MaskResult) (s : SessionManager Tok) : Prop :=
  Slips (rescrub O.guardrails (rescrubs pr) m.text) ∨
    ∃ text, rescrub O.guardrails (rescrubs pr) m.text = .ok text ∧ TokenSlips O rq task_id text s

theorem policy_mask_run {pr : PolicyResult} {m : MaskResult} {text : String} (w : World Tok)
    (h : rescrub O.guardrails (rescrubs pr) m.text = .ok text) :
    ∃ m' w', policy_mask O rq task_id pr m w = .ok m' w' ∧ m'.text = text ∧
      w'.session_mgr = w.session_mgr := by
  suffices hrun : ∃ m' w', policy_mask O rq task_id pr m w = .ok m' w' by
    obtain ⟨m', w', hrun⟩ := hrun
    obtain ⟨hr, hs⟩ := policy_mask_ok hrun
    rw [h] at hr
    cases hr
    exact ⟨m', w', hrun, rfl, hs⟩
  unfold policy_mask
  unfold rescrubs at h
  by_cases hmask : pr.action = "mask"
  · rw [if_pos hmask] at h
    rw [if_pos hmask]
    rw [← result_mask_fields O.guardrails pr.fields w m] at h
    obtain ⟨m', hm', -⟩ := except_map_eq_ok h
    have hbody := bind_ok (f := fun m => do
      log (.stage_event "policy.mask_applied" .redact "policy-eval" task_id.text rq.agent_type
        [("fields", .strs pr.fields)])
      return m) (eq_ok hm')
    exact ⟨m', _, span_stage_eq_ok.mpr hbody⟩
  · rw [if_neg hmask]
    exact ⟨m, w, rfl⟩

theorem stage_before_llm (pr : PolicyResult) (m : MaskResult) (w : World Tok) :
    Stage (SlipsBeforeLlm O rq task_id pr m w.session_mgr) (before_llm O rq task_id pr m) w := by
  unfold before_llm
  refine ((stage_policy_mask O rq task_id pr m w).bind prefixed_stage
    (C := fun m' w' => TokenSlips O rq task_id m'.text w'.session_mgr) ?_).congr prefixed_stage ?_
  · intro m' w' _
    refine (stage_jit_token_issue O rq task_id m'.text w').andThen prefixed_stage fun _ w₂ => ?_
    exact (stage_watchdog_pre_llm O rq task_id w₂).andThen prefixed_stage fun _ _ => Ends.pure _
  · refine or_congr_right ?_
    constructor
    · rintro ⟨m', w', hrun, hslip⟩
      obtain ⟨hr, hs⟩ := policy_mask_ok hrun
      rw [hs] at hslip
      exact ⟨m'.text, hr, hslip⟩
    · rintro ⟨text, hr, hslip⟩
      obtain ⟨m', w', hrun, rfl, hs⟩ := policy_mask_run O rq task_id w hr
      rw [← hs] at hslip
      exact ⟨m', w', hrun, hslip⟩

/-- The enforcer lets the spend of the response pass. -/
def SpendPasses (resp : LLMResponse) (b : BudgetEnforcer) : Prop :=
  ∀ id, budget_session O rq = some id → ∃ session b',
    BudgetEnforcer.record_spend id (Decimal.mul resp.tokens_used rq.cost_per_token) none b =
      .ok session b'

/-- The detector lets the step of the response pass. -/
def StepPasses (resp : LLMResponse) (d : LoopDetector) : Prop :=
  ∀ id, (if O.loop_wired then rq.loop_session_id else none) = some id → ∃ ctx d',
    LoopDetector.record_step id (rq.loop_token_delta.getD resp.tokens_used) rq.loop_signal "" d =
      .ok ctx d'

theorem watchdog_record_spend_ok_iff (resp : LLMResponse) (w : World Tok) :
    (∃ u w', watchdog_record_spend O rq task_id resp w = .ok u w') ↔
      SpendPasses O rq resp w.budget_enforcer := by
  unfold watchdog_record_spend SpendPasses
  cases budget_session O rq with
  | none => simp
  | some id =>
      constructor
      · rintro ⟨u, w', hrun⟩ id' hid
        cases hid
        obtain ⟨session, w₁, hm, -⟩ := (watchdog_ok_iff (records_budget fun _ => rfl)).mp hrun
        obtain ⟨b, hb, -⟩ := on_budget_eq_ok.mp hm
        exact ⟨session, b, hb⟩
      · intro h
        obtain ⟨session, b, hb⟩ := h id rfl
        exact ⟨(), _, (watchdog_ok_iff (records_budget fun _ => rfl)).mpr
          ⟨session, _, on_budget_eq_ok.mpr ⟨b, hb, rfl⟩, rfl⟩⟩

theorem watchdog_record_spend_loop {resp : LLMResponse} {w w' : World Tok} {u : Unit}
    (h : watchdog_record_spend O rq task_id resp w = .ok u w') :
    w'.loop_detector = w.loop_detector := by
  unfold watchdog_record_spend at h
  cases hid : budget_session O rq with
  | none =>
      simp only [hid] at h
      cases h
      rfl
  | some id =>
      simp only [hid] at h
      obtain ⟨session, w₁, hm, rfl⟩ := (watchdog_ok_iff (records_budget fun _ => rfl)).mp h
      obtain ⟨b, _, rfl⟩ := on_budget_eq_ok.mp hm
      rfl

theorem watchdog_loop_detect_ok_iff (resp : LLMResponse) (w : World Tok) :
    (∃ u w', watchdog_loop_detect O rq task_id resp w = .ok u w') ↔
      StepPasses O rq resp w.loop_detector := by
  unfold watchdog_loop_detect StepPasses
  cases (if O.loop_wired then rq.loop_session_id else none) with
  | none => simp
  | some id =>
      constructor
      · rintro ⟨u, w', hrun⟩ id' hid
        cases hid
        obtain ⟨ctx, w₁, hm, -⟩ := (watchdog_ok_iff (records_loop fun _ _ => rfl)).mp hrun
        obtain ⟨d, hd, -⟩ := zoom_eq_ok.mp hm
        exact ⟨ctx, d, hd⟩
      · intro h
        obtain ⟨ctx, d, hd⟩ := h id rfl
        exact ⟨(), _, (watchdog_ok_iff (records_loop fun _ _ => rfl)).mpr
          ⟨ctx, _, zoom_eq_ok.mpr ⟨d, hd, rfl⟩, rfl⟩⟩

/-- When what follows the adapter call misses the record of its refusal. -/
def SlipsAfterLlm (resp : LLMResponse) (w : World Tok) : Prop :=
  SpendPasses O rq resp w.budget_enforcer ∧ StepPasses O rq resp w.loop_detector ∧
    Slips (O.guardrails.mask_pii resp.content)

theorem stage_after_llm (m : MaskResult) (token : Tok) (resp : LLMResponse) (w : World Tok) :
    Stage (SlipsAfterLlm O rq resp w) (after_llm O rq task_id m token resp) w := by
  unfold after_llm
  refine ((stage_watchdog_record_spend O rq task_id resp w).bind prefixed_stage (C := fun _ w₁ =>
    StepPasses O rq resp w₁.loop_detector ∧ Slips (O.guardrails.mask_pii resp.content)) ?_).congr
    prefixed_stage ?_
  · intro _ w₁ _
    refine ((stage_watchdog_loop_detect O rq task_id resp w₁).bind prefixed_stage (C := fun _ _ =>
      Slips (O.guardrails.mask_pii resp.content)) ?_).congr prefixed_stage ?_
    · intro _ w₂ _
      exact (stage_post_sanitize O rq task_id resp w₂).andThen prefixed_stage fun _ _ => Ends.pure _
    · rw [← watchdog_loop_detect_ok_iff O rq task_id resp w₁]
      simp only [false_or, exists_and_right]
  · unfold SlipsAfterLlm
    rw [← watchdog_record_spend_ok_iff O rq task_id resp w]
    constructor
    · rintro (hfalse | ⟨u, w₁, hrun, hstep, hslip⟩)
      · exact hfalse.elim
      · rw [watchdog_record_spend_loop O rq task_id hrun] at hstep
        exact ⟨⟨u, w₁, hrun⟩, hstep, hslip⟩
    · rintro ⟨⟨u, w₁, hrun⟩, hstep, hslip⟩
      rw [← watchdog_record_spend_loop O rq task_id hrun] at hstep
      exact .inr ⟨u, w₁, hrun, hstep, hslip⟩

/-- What follows the adapter call ends with the event of Stage 5. -/
theorem after_llm_last {m : MaskResult} {token : Tok} {resp : LLMResponse}
    {r : OrchestratorResult Tok} {w w' : World Tok}
    (h : after_llm O rq task_id m token resp w = .ok r w') :
    ∃ evs, Wrote evs w w' ∧ NoRefusal evs := by
  unfold after_llm at h
  obtain ⟨_, w₁, hspend, h₁⟩ := bind_eq_ok.mp h
  obtain ⟨_, w₂, hstep, h₂⟩ := bind_eq_ok.mp h₁
  obtain ⟨post_mask, w₃, hpost, h₃⟩ := bind_eq_ok.mp h₂
  cases h₃
  have hclean : Clean w w₂ := ((stage_watchdog_record_spend O rq task_id resp w).ok hspend).1.trans
    ((stage_watchdog_loop_detect O rq task_id resp w₁).ok hstep).1
  obtain ⟨evs, hw, hnone⟩ := hclean
  obtain ⟨evs', hw', hnone'⟩ := ((stage_post_sanitize O rq task_id resp w₂).ok hpost).1
  refine ⟨evs ++ evs', hw.trans hw', by rw [List.countP_append, hnone, hnone'], ?_⟩
  unfold post_sanitize at hpost
  rw [span_stage_eq_ok] at hpost
  obtain ⟨_, w₄, hguard, h₄⟩ := bind_eq_ok.mp hpost
  obtain ⟨_, rfl⟩ := guard_eq_ok.mp hguard
  cases h₄
  have hevs : evs' = [_] := (List.append_cancel_left hw').symm
  rw [hevs, List.getLast?_append_of_ne_nil _ (by simp)]
  exact ⟨_, _, _, _, _, rfl⟩

end

/-! ## Along the run -/

/-- A run that raised, after the answers in `h` and from `w` on, has no refusal record or two. -/
def Misrecorded (O : Orchestrator Tok) (rq : OrchestratorRequest Tok) (task_id : Uuid)
    (h : Answered Tok) (w : World Tok) : Prop :=
  match h with
  | [] => Slips (scrub_prompt O rq)
  | [⟨.evaluate _ _, .error e⟩] => controlled_exc e.kind = true
  | [⟨.evaluate _ _, .ok pr⟩] => pr.allowed = true ∧ pr.action ≠ "reject" ∧
      ∃ m, scrub_prompt O rq = .ok m ∧ SlipsBeforeLlm O rq task_id pr m w.session_mgr
  | [_, ⟨.complete _, .error e⟩] => controlled_exc e.kind = true
  | [_, ⟨.complete _, .ok resp⟩] => SlipsAfterLlm O rq resp w
  | _ => False

section
variable {O : Orchestrator Tok} {rq : OrchestratorRequest Tok} {task_id : Uuid} {w₀ w : World Tok}
  {h : Answered Tok} {α : Type}
  {env : (q : OrchCall Tok) → World Tok → Except Exc q.Answer → World Tok → Prop}

/-- The assertion at an await: nothing has been refused. -/
def AwaitClean (_ : Answered Tok) (w₀ : World Tok) (_ : OrchCall Tok) (w : World Tok) : Prop :=
  Clean w₀ w

/-- The assertion where a run raises. -/
def RaisesRecorded (O : Orchestrator Tok) (rq : OrchestratorRequest Tok) (task_id : Uuid)
    (h : Answered Tok) (w₀ : World Tok) (e : Exc) (w : World Tok) : Prop :=
  StageRaises (Misrecorded O rq task_id h w₀) e w₀ w

theorem safe_stage_error_recorded {D : Answered Tok → World Tok → α → World Tok → Prop} {B : Prop}
    {span task agent : String} {e : Exc} (hbody : BodyRaises B e w₀ w)
    (hb : B ↔ Misrecorded O rq task_id h w₀) :
    Co.Safe env AwaitClean D (RaisesRecorded O rq task_id) h w₀
      (Co.lift (stage_error span task agent e)) w :=
  Co.Safe.lift (fun _ _ hok => absurd hok stage_error_ne_ok)
    (fun _ _ herr => prefixed_stage.congr hb (hbody.stage_error herr))

theorem body_opa_unavailable (e : Exc) :
    Body (controlled_exc e.kind = true) (opa_unavailable rq task_id e) w := by
  unfold opa_unavailable
  split
  · rename_i hk
    exact (body_refused rfl).congr prefixed_body (by simp [hk, controlled_exc])
  · exact body_throw

theorem body_policy_decision (pr : PolicyResult) :
    Body False (policy_decision rq task_id pr) w := by
  unfold policy_decision
  split
  · exact (body_of_refused rfl rfl).congr prefixed_body (by simp [controlled_exc])
  · exact (body_log rfl).andThen prefixed_body fun _ _ => Ends.pure pr

/-- Stage 2. -/
theorem safe_policy_eval_recorded
    {D : Answered Tok → World Tok → PolicyResult → World Tok → Prop} (hc : Clean w₀ w)
    (hok : ∀ (pr : PolicyResult) w₁ w₂, pr.allowed = true → pr.action ≠ "reject" → Clean w₁ w₂ →
      OnlyAudit w₁ w₂ → D [⟨.evaluate "agent_access" (policy_input rq), .ok pr⟩] w₁ pr w₂) :
    Co.Safe env AwaitClean D (RaisesRecorded O rq task_id) [] w₀ (policy_eval rq task_id) w := by
  refine Co.Safe.tryCatch (Co.Safe.bind (Co.Safe.tryCatch (Co.Safe.call hc ?_ ?_)))
  · intro pr w₁ _
    refine Co.Safe.lift ?_ ?_
    · intro pr' w₂ hrun
      have hclean := ((body_policy_decision pr).ok hrun).1
      have hkeep := (onlyAudit_policy_decision pr).ok hrun
      obtain ⟨rfl, hallowed, hreject⟩ := policy_decision_ok hrun
      exact hok pr' w₁ w₂ hallowed hreject hclean hkeep
    · intro e w₂ hrun
      refine safe_stage_error_recorded ((body_policy_decision pr).error hrun) ?_
      refine iff_of_false not_false ?_
      rintro ⟨hallowed, hreject, -⟩
      unfold policy_decision at hrun
      rw [if_neg (by simp [hallowed, hreject])] at hrun
      cases hrun
  · intro e w₁ _
    refine Co.Safe.lift ?_ ?_
    · intro pr w₂ hrun
      exact (opa_unavailable_ok hrun).elim
    · intro e' w₂ hrun
      exact safe_stage_error_recorded ((body_opa_unavailable e).error hrun) Iff.rfl

/-- Stage 4. -/
theorem safe_llm_invoke_recorded {D : Answered Tok → World Tok → LLMResponse → World Tok → Prop}
    {pr : PolicyResult} {prompt : String} {token : Tok} {proof : Option Tok} (hc : Clean w₀ w)
    (hok : ∀ (resp : LLMResponse) w₁ w₂, Clean w₁ w₂ → OnlyAudit w₁ w₂ →
      D [⟨.evaluate "agent_access" (policy_input rq), .ok pr⟩,
        ⟨.complete (llm_request rq prompt token proof), .ok resp⟩] w₁ resp w₂) :
    Co.Safe env AwaitClean D (RaisesRecorded O rq task_id)
      [⟨.evaluate "agent_access" (policy_input rq), .ok pr⟩] w₀
      (llm_invoke rq task_id prompt token proof) w := by
  refine Co.Safe.tryCatch (Co.Safe.bind (Co.Safe.call hc ?_ ?_))
  · intro resp w₁ _
    refine Co.Safe.bind (Co.Safe.lift ?_ ?_)
    · intro _ w₂ hrun
      exact Co.Safe.pure (hok resp w₁ w₂ ((body_log rfl).ok hrun).1 ((onlyAudit_log _).ok hrun))
    · intro e w₂ hrun
      cases hrun
  · intro e w₁ _
    exact safe_stage_error_recorded (B := controlled_exc e.kind = true)
      (.inl ⟨Clean.refl w₁, Iff.rfl⟩) Iff.rfl

end

/-- The assertion where a run returns. -/
def ReturnsRecorded (_ : Answered Tok) (w₀ : World Tok) (_ : OrchestratorResult Tok)
    (w : World Tok) : Prop :=
  ∃ evs, Wrote evs w₀ w ∧ NoRefusal evs

theorem run_safe_recorded (O : Orchestrator Tok) (rq : OrchestratorRequest Tok) {task_id : Uuid}
    (htask : rq.task_id = some task_id) (w : World Tok)
    (env : (q : OrchCall Tok) → World Tok → Except Exc q.Answer → World Tok → Prop) :
    Co.Safe env AwaitClean ReturnsRecorded (RaisesRecorded O rq task_id) [] w (run O rq) w := by
  unfold run
  rw [htask]
  refine Co.Safe.bind (Co.Safe.lift ?_ ?_)
  · intro pre_mask w₁ hpre
    have hscrub : scrub_prompt O rq = .ok pre_mask := by
      obtain ⟨hcheck, hmask⟩ := pre_sanitize_ok hpre
      unfold scrub_prompt
      rw [hcheck]
      exact hmask
    refine Co.Safe.bind (safe_policy_eval_recorded
      ((stage_pre_sanitize O rq task_id w).ok hpre).1 ?_)
    intro pr w₂ w₃ hallowed hreject hclean hkeep
    have hstage := stage_before_llm O rq task_id pr pre_mask w₃
    rw [hkeep.1] at hstage
    refine Co.Safe.bind (Co.Safe.lift ?_ ?_)
    · rintro ⟨m, token, adapter_token, proof⟩ w₄ hbefore
      refine Co.Safe.bind (safe_llm_invoke_recorded (hclean.trans (hstage.ok hbefore).1) ?_)
      intro resp w₅ w₆ hclean' hkeep'
      have hend := stage_after_llm O rq task_id m token resp w₆
      refine Co.Safe.lift ?_ ?_
      · intro r w₇ hafter
        obtain ⟨evs, hw, hnone⟩ := hclean'
        obtain ⟨evs', hw', hend'⟩ := after_llm_last O rq task_id hafter
        exact ⟨evs ++ evs', hw.trans hw', hend'.append hnone⟩
      · intro e w₇ hafter
        refine prefixed_stage.congr ?_ (prefixed_stage.clean hclean' (hend.error hafter))
        show SlipsAfterLlm O rq resp w₆ ↔ SlipsAfterLlm O rq resp w₅
        unfold SlipsAfterLlm
        rw [hkeep'.2.1, hkeep'.2.2]
    · intro e w₄ hbefore
      refine prefixed_stage.congr ?_ (prefixed_stage.clean hclean (hstage.error hbefore))
      show SlipsBeforeLlm O rq task_id pr pre_mask w₂.session_mgr ↔ _ ∧ _ ∧ ∃ m, _
      rw [hscrub]
      constructor
      · exact fun hslip => ⟨hallowed, hreject, pre_mask, rfl, hslip⟩
      · rintro ⟨-, -, m, hm, hslip⟩
        cases hm
        exact hslip
  · intro e w' hrun
    exact (stage_pre_sanitize O rq task_id w).error hrun

/-- **When a refused request has exactly one record.**  In every run of a request with a task id,
whatever is answered and whatever happens to the components while the run is suspended. -/
theorem one_refusal_record_iff (O : Orchestrator Tok) (rq : OrchestratorRequest Tok)
    {task_id : Uuid} (htask : rq.task_id = some task_id) (w : World Tok)
    {segs : List (World Tok × World Tok)} {c : RunConf Tok}
    (hr : Co.Conf.Runs (fun _ _ => True) (fun _ _ _ => True) (run O rq) w segs c) :
    RefusalRecord segs c ↔
      ∀ e, c.point = .failed e → ¬Misrecorded O rq task_id c.hist c.seg := by
  have hsafe := run_safe_recorded O rq htask w
    (Co.awaitEnv (fun _ _ => True) (fun _ _ _ => True))
  have hgood := (Co.Conf.good_of_reachable hsafe hr.reachable).stopOk
  obtain ⟨before, rfl, hbefore⟩ := hr.split hsafe
  -- the segments before the last one have refused nothing
  have hnone : (emitted before).countP is_refusal = 0 := by
    refine List.countP_eq_zero.mpr ?_
    intro ev hev
    obtain ⟨seg, hseg, hmem⟩ := List.mem_flatMap.mp hev
    obtain ⟨_, _, evs, hw, hclean⟩ := hbefore seg hseg
    rw [hw.written] at hmem
    exact List.countP_eq_zero.mp hclean ev hmem
  have hemitted : ∀ {w₀ w₁ : World Tok} {evs : List AuditEvent}, Wrote evs w₀ w₁ →
      emitted (before ++ [(w₀, w₁)]) = emitted before ++ evs := by
    intro w₀ w₁ evs hw
    simp [emitted, hw.written]
  obtain ⟨hist, w₀, w₁, point, w₂⟩ := c
  unfold RefusalRecord
  cases point with
  | done r =>
      obtain ⟨evs, hw, hend⟩ := hgood
      refine iff_of_true ?_ (by simp)
      show NoRefusal (emitted (before ++ [(w₀, w₁)]))
      rw [hemitted hw]
      exact hend.append hnone
  | failed e =>
      obtain ⟨evs, hw, hone⟩ := hgood
      show OneRefusal (emitted (before ++ [(w₀, w₁)])) ↔ _
      rw [hemitted hw, oneRefusal_append_iff hnone, hone]
      constructor
      · exact fun hb _ _ => hb
      · exact fun hb => hb e rfl
  | waiting q k => simp

/-! ### A revoked token -/

/-- A token in time, with the identifier `jti-0`. -/
def revokedToken : SymToken where
  header := { typ := some "JWT", alg := some "HS256" }
  payload :=
    { jti := some "jti-0", sub := some "client", agent_type := some "general", iat := some 0,
      exp := some 900 }
  key := ({} : Settings).token_secret_key

def revokedRequest : OrchestratorRequest SymToken :=
  { plainRequest with session_token := some revokedToken }

/-- The world in which `jti-0` has been revoked. -/
def revokedWorld : World SymToken :=
  { plainWorld with session_mgr :=
    { plainWorld.session_mgr with
      revoked_jtis := fun jti => if jti = "jti-0" then some 900 else none } }

/-- The run of `revokedRequest`, until it raises. -/
def revokedRun : List (World SymToken × World SymToken) × RunConf SymToken :=
  Co.Conf.drive plainAnswers 1
    [(revokedWorld, ((run plainOrchestrator revokedRequest).resume revokedWorld).2)]
    (Co.Conf.start (run plainOrchestrator revokedRequest) revokedWorld)

theorem revokedRun_runs : Co.Conf.Runs (fun _ _ => True) (fun _ _ _ => True)
    (run plainOrchestrator revokedRequest) revokedWorld revokedRun.1 revokedRun.2 :=
  Co.Conf.Runs.start.drive plainAnswers (fun _ _ => trivial) 1

/-- The class a run raised. -/
def raised_kind (c : RunConf Tok) : Option ExcKind :=
  match c.point with
  | .failed e => some e.kind
  | _ => none

/-- The refusal of a revoked token is recorded twice. -/
theorem revoked_token_recorded_twice :
    Co.Conf.Runs (fun _ _ => True) (fun _ _ _ => True) (run plainOrchestrator revokedRequest)
        revokedWorld revokedRun.1 revokedRun.2 ∧
      revokedRequest.task_id = some ⟨"task-0"⟩ ∧
      raised_kind revokedRun.2 = some .PermissionError ∧
      (emitted revokedRun.1).countP is_refusal = 2 ∧ ¬RefusalRecord revokedRun.1 revokedRun.2 := by
  have hkind : raised_kind revokedRun.2 = some .PermissionError := by decide +kernel
  have htwo : (emitted revokedRun.1).countP is_refusal = 2 := by decide +kernel
  refine ⟨revokedRun_runs, rfl, hkind, htwo, ?_⟩
  intro hrecord
  unfold RefusalRecord at hrecord
  unfold raised_kind at hkind
  cases hpoint : revokedRun.2.point with
  | failed e =>
      rw [hpoint] at hrecord
      rw [hrecord.1] at htwo
      cases htwo
  | done _ | waiting _ _ =>
      rw [hpoint] at hkind
      cases hkind

theorem revokedRun_record_iff :
    revokedRequest.task_id = some ⟨"task-0"⟩ ∧
      (RefusalRecord revokedRun.1 revokedRun.2 ↔ ∀ e, revokedRun.2.point = .failed e →
        ¬Misrecorded plainOrchestrator revokedRequest ⟨"task-0"⟩ revokedRun.2.hist
          revokedRun.2.seg) :=
  ⟨rfl, one_refusal_record_iff plainOrchestrator revokedRequest rfl revokedWorld revokedRun_runs⟩

end AegisOs.Orchestrator
