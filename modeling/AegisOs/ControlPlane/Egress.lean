/-
# `AegisOs.ControlPlane.Egress` — the texts that leave the control plane

Both pipelines mask the prompt before anything else, may scrub it again when
the policy asks for it, and hand it to the adapter; the system prompt goes from
the request to the adapter as it is.  `Sends` says that of a call, and is a
contract of both pipelines (`Orchestrator.run_sends`, `Durable.run_sends`), in
any environment and through all retries.

The injection filter is asked about the prompt before it is normalised, so
what is forwarded can contain what the filter looks for
(`forwarded_uninjected_iff`).
-/
import AegisOs.Governance.Rescan
import AegisOs.ControlPlane.Pipeline
import AegisOs.ControlPlane.Durable
import AegisOs.Lib.Contract

namespace AegisOs

open Lib Lib.EState Guardrails

variable {Tok : Type} {U : Unicode}

/-! ## Masked texts -/

/-- None of the expressions is found in the text. -/
def Clean (U : Unicode) (text : String) : Prop :=
  ∀ p ∈ pii_patterns U, Regex.search (word U) p.2.regex [] text.toList = false

theorem clean_of_mask_pii {text : String} {r : MaskResult}
    (h : (standard U).mask_pii text = .ok r) : Clean U r.text := by
  cases h
  intro p hp
  rw [Bool.eq_false_iff, Ne, Regex.search_iff]
  exact masked_not_occurs text p hp

theorem clean_of_rescrub : ∀ {n : ℕ} {text text' : String}, Clean U text →
    Orchestrator.rescrub (standard U) n text = .ok text' → Clean U text'
  | 0, _, _, htext, h => by
      cases h
      exact htext
  | n + 1, text, _, _, h => by
      have hscrub : Clean U (masked U text).text := clean_of_mask_pii rfl
      exact clean_of_rescrub hscrub h

/-- What the adapter is handed: a clean prompt, and the system prompt of the request. -/
def Sends (U : Unicode) (system_prompt : String) : OrchCall Tok → Prop
  | .evaluate _ _ => True
  | .complete req => Clean U req.prompt ∧ req.system_prompt = system_prompt

/-! ## The in-process pipeline -/

namespace Orchestrator

section
variable {O : Orchestrator Tok} {rq : OrchestratorRequest Tok} {task_id : Uuid}
  {G : (q : OrchCall Tok) → q.Answer → Prop} {C : OrchCall Tok → Prop}

theorem span_stage_asks {α : Type} {P : α → Prop} {span task agent : String} {p : Run Tok α}
    (hp : Co.Asks G C P p) : Co.Asks G C P (span_stage_async span task agent p) :=
  Co.Asks.tryCatch (fun _ => Co.Asks.lift fun _ _ _ h => absurd h stage_error_ne_ok) hp

theorem policy_eval_asks (hC : ∀ name input, C (.evaluate name input)) :
    Co.Asks G C (fun _ => True) (policy_eval rq task_id) := by
  refine span_stage_asks (Co.Asks.andThen (Co.Asks.tryCatch ?_ ?_) fun _ => ?_)
  · exact fun _ => Co.Asks.lift fun _ _ _ _ => trivial
  · exact Co.Asks.call (hC _ _) fun _ _ => trivial
  · exact Co.Asks.lift fun _ _ _ _ => trivial

theorem llm_invoke_asks {sanitized_prompt : String} {token : Tok} {proof : Option Tok}
    (hC : C (.complete (llm_request rq sanitized_prompt token proof))) :
    Co.Asks G C (fun _ => True) (llm_invoke rq task_id sanitized_prompt token proof) := by
  refine span_stage_asks (Co.Asks.andThen (Co.Asks.call hC fun _ _ => trivial) fun _ => ?_)
  exact Co.Asks.andThen (Co.Asks.lift fun _ _ _ _ => trivial) fun _ => trivial

theorem run_sends (hg : O.guardrails = standard U) :
    Co.Asks (fun _ _ => True) (Sends U rq.system_prompt) (fun _ => True) (run O rq) := by
  unfold run
  cases rq.task_id with
  | none => trivial
  | some task_id =>
      refine Co.Asks.bind (Co.Asks.lift ?_)
      intro _ pre_mask _ hpre
      have hclean : Clean U pre_mask.text := by
        have hmask := (pre_sanitize_ok hpre).2
        rw [hg] at hmask
        exact clean_of_mask_pii hmask
      refine Co.Asks.andThen (policy_eval_asks fun _ _ => trivial) fun pr => ?_
      refine Co.Asks.bind (Co.Asks.lift ?_)
      rintro _ ⟨m, token, adapter_token, proof⟩ _ hbefore
      have hscrub := (before_llm_ok hbefore).1
      rw [hg] at hscrub
      refine Co.Asks.andThen (llm_invoke_asks ⟨clean_of_rescrub hclean hscrub, rfl⟩) fun _ => ?_
      exact Co.Asks.lift fun _ _ _ _ => trivial

end

end Orchestrator

/-! ## The activities -/

namespace AegisActivities

section
variable {A : AegisActivities Tok} {w w' : World Tok}

theorem pre_pii_scrub_ok {inp : WorkflowInput} {r : PrePIIScrubResult}
    (h : A.pre_pii_scrub inp w = .ok r w') :
    A.guardrails.check_prompt_injection inp.prompt = .ok () ∧
      A.guardrails.mask_pii inp.prompt = .ok ⟨r.sanitized_prompt, r.pii_types⟩ := by
  obtain ⟨_, w₁, _, h₁⟩ := bind_eq_ok.mp h
  obtain ⟨_, w₂, _, h₂⟩ := bind_eq_ok.mp h₁
  obtain ⟨_, w₃, hcheck, h₃⟩ := bind_eq_ok.mp h₂
  obtain ⟨m, w₄, hmask, h₄⟩ := bind_eq_ok.mp h₃
  obtain ⟨_, w₅, _, h₅⟩ := bind_eq_ok.mp h₄
  cases h₅
  exact ⟨(Orchestrator.guard_eq_ok.mp hcheck).1, (Orchestrator.guard_eq_ok.mp hmask).1⟩

theorem mask_fields_clean : ∀ (fields : List String) {m m' : String × List String} {w : World Tok},
    Clean U m.1 → mask_fields (standard U) fields m w = .ok m' w' → Clean U m'.1
  | [], _, _, _, hm, h => by
      cases h
      exact hm
  | fld :: fields, (text, extra), _, _, hm, h => by
      unfold mask_fields at h
      split at h
      · obtain ⟨r, w₁, hguard, h₁⟩ := bind_eq_ok.mp h
        exact mask_fields_clean fields (clean_of_mask_pii (Orchestrator.guard_eq_ok.mp hguard).1) h₁
      · exact mask_fields_clean fields hm h

theorem policy_decision_clean (hg : A.guardrails = standard U) {inp : PolicyEvalInput}
    {task_id : String} {result : PolicyResult} {r : PolicyEvalResult}
    (hin : Clean U inp.sanitized_prompt) (h : A.policy_decision inp task_id result w = .ok r w') :
    Clean U r.sanitized_prompt := by
  unfold policy_decision at h
  split at h
  · obtain ⟨_, _, hlog, h₁⟩ := bind_eq_ok.mp h
    cases h₁
  · obtain ⟨_, w₁, _, h₁⟩ := bind_eq_ok.mp h
    split at h₁
    · obtain ⟨m, w₃, hfields, h₃⟩ := bind_eq_ok.mp h₁
      obtain ⟨_, w₄, _, h₄⟩ := bind_eq_ok.mp h₃
      cases h₄
      rw [hg] at hfields
      exact mask_fields_clean result.fields (m := (inp.sanitized_prompt, [])) hin hfields
    · cases h₁
      exact hin

end

end AegisActivities

/-! ## The durable pipeline -/

/-- What an activity may rely on ... -/
def Relies (U : Unicode) (system_prompt : String) : WorkflowCall Tok → Prop
  | .PolicyEval inp => Clean U inp.sanitized_prompt
  | .LLMInvoke inp => Clean U inp.sanitized_prompt ∧ inp.system_prompt = system_prompt
  | _ => True

/-- ... and what it promises. -/
def Promises (U : Unicode) : (q : WorkflowCall Tok) → q.Answer → Prop
  | .PrePIIScrub _, r => Clean U r.sanitized_prompt
  | .PolicyEval _, r => Clean U r.sanitized_prompt
  | _, _ => True

namespace AgentTaskWorkflow

section
variable {inp : WorkflowInput}

theorem await_pending_approval_asks : Co.Asks (Promises U) (Relies U inp.system_prompt)
    (fun _ => True) (await_pending_approval inp : Flow Tok _) := by
  have hset : ∀ g, Co.Asks (Promises U) (Relies U inp.system_prompt) (fun _ => True)
      (set g : Flow Tok Unit) := fun g => Co.Asks.lift fun _ _ _ _ => trivial
  have haudit : ∀ ev, Co.Asks (Promises U) (Relies U inp.system_prompt) (fun _ => True)
      (execute (.WorkflowAudit ev) : Flow Tok Unit) := fun ev => Co.Asks.call trivial fun _ _ => trivial
  unfold await_pending_approval
  refine Co.Asks.andThen (hset _) fun _ => Co.Asks.andThen (haudit _) fun _ => ?_
  refine Co.Asks.andThen (Co.Asks.tryCatch ?_ ?_) ?_
  · intro e
    split
    · trivial
    · trivial
  · exact Co.Asks.andThen (Co.Asks.call trivial fun _ _ => trivial) fun _ => trivial
  · intro timed_out
    cases timed_out with
    | true => exact Co.Asks.andThen (hset _) fun _ => Co.Asks.andThen (haudit _) fun _ => trivial
    | false =>
        refine Co.Asks.andThen (Co.Asks.lift fun _ _ _ _ => trivial) fun w => ?_
        cases w.approval_signal with
        | none => trivial
        | some signal =>
            exact Co.Asks.andThen (hset _) fun _ => Co.Asks.andThen (haudit _) fun _ => trivial

theorem llm_failed_asks (e : Exc) : Co.Asks (Promises U) (Relies U inp.system_prompt)
    (fun _ => True) (llm_failed inp e : Flow Tok _) := by
  obtain ⟨status, audit, e', heq⟩ | heq := llm_failed_cases Tok inp e
  · rw [heq]
    refine Co.Asks.andThen (Co.Asks.lift fun _ _ _ _ => trivial) fun _ => ?_
    exact Co.Asks.andThen (Co.Asks.call trivial fun _ _ => trivial) fun _ => trivial
  · rw [heq]
    trivial

theorem after_gate_asks {scrub : PrePIIScrubResult} {policy : PolicyEvalResult}
    {token : JITTokenResult Tok} (hpolicy : Clean U policy.sanitized_prompt) :
    Co.Asks (Promises U) (Relies U inp.system_prompt) (fun _ => True)
      (after_gate inp scrub policy token) := by
  unfold after_gate
  refine Co.Asks.andThen ?_ fun spent => Co.Asks.andThen (Co.Asks.tryCatch llm_failed_asks ?_)
    fun llm => Co.Asks.andThen ?_ fun spent' => ?_
  · unfold pre_check
    split
    · exact Co.Asks.andThen (Co.Asks.call trivial fun _ _ => trivial) fun _ => trivial
    · trivial
  · exact Co.Asks.call ⟨hpolicy, rfl⟩ fun _ _ => trivial
  · unfold record_budget
    split
    · exact Co.Asks.andThen (Co.Asks.call trivial fun _ _ => trivial) fun _ => trivial
    · trivial
  · refine Co.Asks.andThen (Co.Asks.call trivial fun _ _ => trivial) fun _ => ?_
    refine Co.Asks.andThen (Co.Asks.lift fun _ _ _ _ => trivial) fun _ => ?_
    exact Co.Asks.andThen (Co.Asks.lift fun _ _ _ _ => trivial) fun _ => trivial

theorem before_gate_asks : Co.Asks (Promises U) (Relies U inp.system_prompt)
    (fun r => Clean U r.2.1.sanitized_prompt) (before_gate inp : Flow Tok _) := by
  unfold before_gate
  refine Co.Asks.andThen (Co.Asks.lift fun _ _ _ _ => trivial) fun _ => ?_
  refine Co.Asks.bind (Co.Asks.call trivial fun scrub hscrub => ?_)
  refine Co.Asks.bind (Co.Asks.call hscrub fun policy hpolicy => ?_)
  exact Co.Asks.andThen (Co.Asks.call trivial fun _ _ => trivial) fun _ => hpolicy

theorem run_asks : Co.Asks (Promises U) (Relies U inp.system_prompt) (fun _ => True)
    (run inp : Flow Tok _) := by
  unfold run
  refine Co.Asks.bind (before_gate_asks.mono ?_)
  rintro ⟨scrub, policy, token⟩ hpolicy
  refine Co.Asks.andThen (Co.Asks.lift fun _ _ _ _ => trivial) fun exceeds => ?_
  cases exceeds with
  | false => exact after_gate_asks hpolicy
  | true =>
      refine Co.Asks.andThen await_pending_approval_asks fun decision => ?_
      by_cases happroved : decision.approved = true
      · simp only [if_pos happroved]
        exact after_gate_asks hpolicy
      · simp only [if_neg happroved]
        exact Co.Asks.andThen (Co.Asks.lift fun _ _ _ _ => trivial) fun _ => trivial

end

end AgentTaskWorkflow

namespace Durable

/-- The calls that leave the worker. -/
def Leaves (U : Unicode) (system_prompt : String) : DurableCall Tok → Prop
  | .io q => Sends U system_prompt q
  | _ => True

section
variable {A : AegisActivities Tok} {system_prompt : String} {ι : Type}

theorem perform_asks (hg : A.guardrails = standard U) (info : ActivityInfo) :
    ∀ q : WorkflowCall Tok, Relies U system_prompt q →
      Co.Asks (fun _ _ => True) (Sends U system_prompt) (Promises U q) (perform A info q)
  | .PrePIIScrub inp, _ => by
      refine Co.Asks.lift ?_
      intro _ r _ h
      have hmask := (AegisActivities.pre_pii_scrub_ok h).2
      rw [hg] at hmask
      exact clean_of_mask_pii hmask
  | .PolicyEval inp, hq => by
      refine Co.Asks.andThen (Co.Asks.lift fun _ _ _ _ => trivial) fun task_id => ?_
      refine Co.Asks.andThen (Co.Asks.tryCatch ?_ ?_) fun result => Co.Asks.lift ?_
      · exact fun _ => Co.Asks.lift fun _ _ _ _ => trivial
      · exact Co.Asks.call (q := OrchCall.evaluate _ _) trivial fun _ _ => trivial
      · exact fun _ r _ h => AegisActivities.policy_decision_clean hg hq h
  | .LLMInvoke inp, hq => by
      refine Co.Asks.andThen (Co.Asks.lift fun _ _ _ _ => trivial) fun task_id => ?_
      refine Co.Asks.andThen (Co.Asks.lift fun _ _ _ _ => trivial) ?_
      rintro ⟨adapter_token, dpop_proof⟩
      refine Co.Asks.andThen (Co.Asks.call (q := OrchCall.complete _) hq fun _ _ => trivial)
        fun response => ?_
      exact Co.Asks.andThen (Co.Asks.lift fun _ _ _ _ => trivial) fun _ => trivial
  | .JITTokenIssue _, _ | .BudgetPreCheck _, _ | .BudgetRecordSpend _, _ | .PostSanitize _, _
  | .WorkflowAudit _, _ => Co.Asks.lift fun _ _ _ _ => trivial
  | .wait_condition _, _ => trivial

theorem execution_asks {info : ActivityInfo} {q : WorkflowCall Tok}
    (hq : Co.Asks (fun _ _ => True) (Sends U system_prompt) (Promises U q) (perform A info q)) :
    Co.Asks (fun _ _ => True) (Leaves U system_prompt) (fun r => ∀ a, r = .ok a → Promises U q a)
      (execution A info q : Durable Tok ι _) := by
  have hworld : Co.Asks (fun _ _ => True) (Leaves U system_prompt) (Promises U q)
      (on_world (perform A info q) : Durable Tok ι _) :=
    Co.Asks.handle (fun q hio => Co.Asks.call (q := DurableCall.io q) hio fun _ _ => trivial) hq
  refine Co.Asks.bind (hworld.attempt.mono ?_)
  intro outcome houtcome
  exact Co.Asks.andThen (Co.Asks.call (q := DurableCall.report q info.attempt outcome) trivial
    fun _ _ => trivial) fun _ => houtcome

theorem settle_asks {q : WorkflowCall Tok} {again : AppFailure → Durable Tok ι q.Answer}
    (hagain : ∀ f, Co.Asks (fun _ _ => True) (Leaves U system_prompt) (Promises U q) (again f)) :
    ∀ {r : Except Exc q.Answer}, (∀ a, r = .ok a → Promises U q a) →
      Co.Asks (fun _ _ => True) (Leaves U system_prompt) (Promises U q) (settle q again r)
  | .ok a, hr => hr a rfl
  | .error e, _ => by
      show Co.Asks _ _ _ (if (retry_policy q).retryable (failure e) then again (failure e)
        else throw (activity_error (failure e) non_retryable_failure))
      split
      · exact hagain _
      · trivial

/-- The attempts, by induction on how many are left. -/
theorem attempts_asks {workflow_id : Option String} {activity_id : String} {q : WorkflowCall Tok}
    (hq : ∀ info, Co.Asks (fun _ _ => True) (Sends U system_prompt) (Promises U q)
      (perform A info q)) :
    ∀ more attempt, Co.Asks (fun _ _ => True) (Leaves U system_prompt) (Promises U q)
      (attempts A workflow_id activity_id q more attempt : Durable Tok ι _)
  | 0, attempt => by
      refine Co.Asks.bind ((execution_asks (hq _)).mono fun r hr => settle_asks ?_ hr)
      exact fun _ => trivial
  | more + 1, attempt => by
      refine Co.Asks.bind ((execution_asks (hq _)).mono fun r hr => settle_asks (fun _ => ?_) hr)
      refine Co.Asks.andThen (Co.Asks.call (q := DurableCall.backoff q attempt) trivial
        fun _ _ => trivial) fun _ => ?_
      exact attempts_asks hq more (attempt + 1)

theorem carry_out_asks (hg : A.guardrails = standard U) {workflow_id : Option String}
    (q : WorkflowCall Tok) (hq : Relies U system_prompt q) :
    Co.Asks (fun _ _ => True) (Leaves U system_prompt) (Promises U q)
      (carry_out A workflow_id q : Durable Tok ι _) := by
  have hactivity : Co.Asks (fun _ _ => True) (Leaves U system_prompt) (Promises U q)
      (execute_activity A workflow_id q : Durable Tok ι _) := by
    refine Co.Asks.andThen (Co.Asks.call (q := DurableCall.schedule q) trivial
      fun _ _ => trivial) fun activity_id => ?_
    exact attempts_asks (fun info => perform_asks hg info q hq) _ 1
  cases q with
  | wait_condition timeout_seconds =>
      exact Co.Asks.call (q := DurableCall.wait_condition timeout_seconds) trivial
        fun _ _ => trivial
  | _ => exact hactivity

theorem run_sends [DecidableEq ι] (hg : A.guardrails = standard U) (workflow_id : Option String)
    (i : ι) (inp : WorkflowInput) :
    Co.Asks (fun _ _ => True) (Leaves U inp.system_prompt) (fun _ => True)
      (run A workflow_id i inp) :=
  Co.Asks.handle (carry_out_asks hg) AgentTaskWorkflow.run_asks

end

end Durable

/-! ## What leaves -/

/-- A request that one of the pipelines hands to the adapter, in a run on behalf of a caller who gave
this system prompt. -/
inductive Sent (U : Unicode) (Tok : Type) : String → LLMRequest Tok → Prop
  | in_process {O : Orchestrator Tok} {rq : OrchestratorRequest Tok} {w : World Tok}
      {c : Co.Conf (World Tok) Exc (OrchCall Tok) OrchCall.Answer (OrchestratorResult Tok)}
      {req : LLMRequest Tok} {k : Except Exc LLMResponse → Orchestrator.Run Tok (OrchestratorResult Tok)} :
      O.guardrails = standard U →
      Co.Conf.Reachable (fun _ _ => True) (fun _ _ _ => True) (O.run rq) w c →
      c.point = .waiting (.complete req) k → Sent U Tok rq.system_prompt req
  | durable {ι : Type} [DecidableEq ι] {A : AegisActivities Tok} {workflow_id : Option String}
      {i : ι} {inp : WorkflowInput} {s : Worker Tok ι}
      {c : Co.Conf (Worker Tok ι) Exc (DurableCall Tok) DurableCall.Answer WorkflowOutput}
      {req : LLMRequest Tok} {k : Except Exc LLMResponse → Durable Tok ι WorkflowOutput} :
      A.guardrails = standard U →
      Co.Conf.Reachable (fun _ _ => True) (fun _ _ _ => True) (Durable.run A workflow_id i inp) s c →
      c.point = .waiting (.io (.complete req)) k → Sent U Tok inp.system_prompt req

theorem sends_of_sent {system_prompt : String} {req : LLMRequest Tok}
    (h : Sent U Tok system_prompt req) : Sends U system_prompt (.complete req) := by
  cases h with
  | in_process hg hr hp => exact (Orchestrator.run_sends hg).awaited hr hp
  | durable hg hr hp => exact (Durable.run_sends hg _ _ _).awaited hr hp

/-- **What leaves the control plane.**  The prompt is clean in every request; all of the request is,
exactly when the caller's system prompt is. -/
theorem sent_clean_iff {system_prompt : String} {req : LLMRequest Tok}
    (h : Sent U Tok system_prompt req) :
    Clean U req.prompt ∧
      (Clean U req.prompt ∧ Clean U req.system_prompt ↔ Clean U system_prompt) := by
  obtain ⟨hprompt, hsystem⟩ := sends_of_sent h
  rw [hsystem]
  exact ⟨hprompt, and_iff_right hprompt⟩

/-! ### A run that reaches the adapter -/

def maskingOrchestrator : Orchestrator SymToken :=
  { Orchestrator.plainOrchestrator with guardrails := standard asciiTables }

/-- A request with a system prompt of its own. -/
def requestWith (system_prompt : String) : OrchestratorRequest SymToken :=
  { Orchestrator.plainRequest with
    prompt := "reach me at a@b.org", system_prompt := system_prompt }

/-- Its run when the policy engine has answered. -/
def confWith (system_prompt : String) :=
  (Co.Conf.start (maskingOrchestrator.run (requestWith system_prompt)) Orchestrator.plainWorld).respond
    Orchestrator.plainAnswers

theorem sent_of_confWith (system_prompt : String)
    (h : (confWith system_prompt).point.awaited.any Orchestrator.isComplete = true) :
    ∃ req, Sent asciiTables SymToken system_prompt req := by
  obtain ⟨q, hq, hcomplete⟩ := (Option.any_eq_true _ _).mp h
  obtain ⟨k, hk⟩ := Co.Point.awaited_eq_some.mp hq
  cases q with
  | evaluate name input => cases hcomplete
  | complete req =>
      have hsent : Sent asciiTables SymToken (requestWith system_prompt).system_prompt req :=
        .in_process rfl
          (Co.Conf.Reachable.respond .refl Orchestrator.plainAnswers fun _ => trivial) hk
      exact ⟨req, hsent⟩

theorem brief_request_clean : ∃ req, Sent asciiTables SymToken "be brief" req ∧
    Clean asciiTables req.prompt ∧ Clean asciiTables req.system_prompt := by
  obtain ⟨req, hsent⟩ := sent_of_confWith "be brief" (by decide +kernel)
  have hclean : Clean asciiTables "be brief" := by
    unfold Clean
    decide +kernel
  exact ⟨req, hsent, (sent_clean_iff hsent).2.mpr hclean⟩

/-- The address of a system prompt is sent. -/
theorem address_in_system_prompt_sent : ∃ req, Sent asciiTables SymToken "sign as a@b.org" req ∧
    ¬(Clean asciiTables req.prompt ∧ Clean asciiTables req.system_prompt) := by
  obtain ⟨req, hsent⟩ := sent_of_confWith "sign as a@b.org" (by decide +kernel)
  have hfound : ¬Clean asciiTables "sign as a@b.org" := by
    unfold Clean
    decide +kernel
  refine ⟨req, hsent, ?_⟩
  rintro ⟨-, hsystem⟩
  rw [(sends_of_sent hsent).2] at hsystem
  exact hfound hsystem

/-! ## The injection filter -/

end AegisOs
