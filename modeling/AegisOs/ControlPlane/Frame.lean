/-
# `AegisOs.ControlPlane.Frame` — what the stages leave alone

A frame condition is a preorder on worlds, such as "the registry of budget
sessions is as it was".  A stage keeps one as soon as each call it makes of a
component does, and an entry in the audit log too.  `Frame` collects these
conditions; its lemmas go through the stages of `Orchestrator.run` once, for
every such preorder.
-/
import AegisOs.ControlPlane.Pipeline

namespace AegisOs.Orchestrator

open Lib Lib.EState

variable {Tok : Type}

/-- The calls of components that a run makes before the adapter has answered all keep `P`. -/
structure PreFrame (P : World Tok → World Tok → Prop) : Prop where
  refl : ∀ w, P w w
  trans : ∀ w₁ w₂ w₃, P w₁ w₂ → P w₂ w₃ → P w₁ w₃
  audit : ∀ w w', OnlyAudit w w' → P w w'
  validate_token : ∀ (E : Env Tok) token, Keeps P (on_session_mgr (validate_token E token))
  is_expired : ∀ claims, Keeps P (on_session_mgr (is_expired claims))
  issue_token : ∀ (E : Env Tok) a, Keeps P (on_session_mgr (issue_token E a))
  generate_dpop_key_pair : Keeps P (on_session_mgr generate_dpop_key_pair)
  issue_dpop_proof : ∀ (E : Env Tok) pem jwk method url token nonce,
    Keeps P (on_session_mgr (issue_dpop_proof E pem jwk method url token nonce))
  check_budget : ∀ id, Keeps P (on_budget (BudgetEnforcer.check_budget id))

/-- A stage does what its body does, up to the audit log. -/
theorem keeps_span_stage {α : Type} {P : World Tok → World Tok → Prop}
    (hP : ∀ a b c, P a b → OnlyAudit b c → P a c) {span task agent : String} {m : WM Tok α}
    (hm : Keeps P m) : Keeps P (span_stage span task agent m) := by
  refine Keeps.catching hP hm ?_
  intro e g hg
  cases hg
  exact onlyAudit_stage_error _ _ _ e

namespace PreFrame

variable {P : World Tok → World Tok → Prop} (F : PreFrame P)
include F

theorem log (event : AuditEvent) : Keeps P (AegisOs.log event) :=
  (onlyAudit_log event).mono F.audit

theorem guard {α : Type} (x : Except Exc α) : Keeps P (AegisOs.guard x) := Keeps.ofExcept F.refl x

theorem log_throw {α : Type} (event : AuditEvent) (e : Exc) :
    Keeps P (do AegisOs.log event; throw e : WM Tok α) :=
  Keeps.bind F.trans (F.log event) fun _ => Keeps.throw F.refl e

theorem span_stage {α : Type} {span task agent : String} {m : WM Tok α} (hm : Keeps P m) :
    Keeps P (Orchestrator.span_stage span task agent m) :=
  keeps_span_stage (fun a b c h h' => F.trans a b c h (F.audit b c h')) hm

section
variable (O : Orchestrator Tok) (rq : OrchestratorRequest Tok) (task_id : Uuid)

theorem pre_sanitize : Keeps P (pre_sanitize O rq task_id) := by
  refine F.span_stage ?_
  refine Keeps.bind F.trans (F.guard _) fun _ => ?_
  refine Keeps.bind F.trans (F.guard _) fun _ => ?_
  refine Keeps.bind F.trans (F.log _) fun _ => ?_
  exact Keeps.pure F.refl _

theorem policy_eval : Co.Segments P (policy_eval rq task_id) := by
  have hlift : ∀ {α : Type} {m : WM Tok α}, Keeps OnlyAudit m →
      Co.Segments P (Co.lift m : Run Tok α) := fun hm => Co.Segments.lift F.trans (hm.mono F.audit)
  refine Co.Segments.tryCatch (Co.Segments.bind (Co.Segments.tryCatch ?_ ?_) ?_) ?_
  · exact Co.Segments.call F.refl _
  · exact fun e => hlift (onlyAudit_opa_unavailable e)
  · exact fun pr => hlift (onlyAudit_policy_decision pr)
  · exact fun e => hlift (onlyAudit_stage_error _ _ _ e)

theorem mask_fields (g : Guardrails) (fields : List String) :
    ∀ m, Keeps P (mask_fields g fields m : WM Tok MaskResult) := by
  induction fields with
  | nil => exact fun m => Keeps.pure F.refl m
  | cons field fields ih =>
      intro m
      unfold Orchestrator.mask_fields
      refine Keeps.ite ?_ (ih m)
      exact Keeps.bind F.trans (F.guard _) fun _ => ih _

theorem policy_mask (pr : PolicyResult) (m : MaskResult) :
    Keeps P (policy_mask O rq task_id pr m) := by
  refine Keeps.ite (F.span_stage ?_) (Keeps.pure F.refl m)
  refine Keeps.bind F.trans (F.mask_fields _ _ m) fun _ => ?_
  refine Keeps.bind F.trans (F.log _) fun _ => ?_
  exact Keeps.pure F.refl _

theorem use_session_token (token : Tok) : Keeps P (use_session_token O rq task_id token) := by
  refine Keeps.bind F.trans ?_ fun claims => ?_
  · exact Keeps.catching F.trans (F.validate_token _ _) fun _ _ =>
      clause_ite (F.log_throw _ _) (clause_ite (F.log_throw _ _) nofun)
  · refine Keeps.bind F.trans (F.is_expired claims) fun b => ?_
    have hend : Keeps P (do
        AegisOs.log
          (.stage_event "token.validated" .allow "jit-token-issue" task_id.text rq.agent_type [])
        return token : WM Tok Tok) :=
      Keeps.bind F.trans (F.log _) fun _ => Keeps.pure F.refl _
    refine Keeps.ite (Keeps.bind F.trans (F.log_throw _ _) fun _ => ?_) ?_
    · exact Keeps.ite (Keeps.bind F.trans (F.log_throw _ _) fun _ => hend) hend
    · exact Keeps.ite (Keeps.bind F.trans (F.log_throw _ _) fun _ => hend) hend

theorem issue_session_token : Keeps P (issue_session_token O rq task_id) := by
  refine Keeps.bind F.trans (F.issue_token _ _) fun _ => ?_
  refine Keeps.bind F.trans (F.validate_token _ _) fun _ => ?_
  refine Keeps.bind F.trans (F.log _) fun _ => ?_
  exact Keeps.pure F.refl _

theorem protect_outbound (prompt : String) (token : Tok) :
    Keeps P (protect_outbound O rq task_id prompt token) := by
  unfold Orchestrator.protect_outbound
  split
  · exact Keeps.throw F.refl _
  · refine Keeps.bind F.trans F.generate_dpop_key_pair fun _ => ?_
    refine Keeps.bind F.trans (F.issue_token _ _) fun _ => ?_
    refine Keeps.bind F.trans (F.issue_dpop_proof _ _ _ _ _ _ _) fun _ => ?_
    refine Keeps.bind F.trans (F.validate_token _ _) fun _ => ?_
    refine Keeps.bind F.trans (F.log _) fun _ => ?_
    exact Keeps.pure F.refl _

theorem session_token : Keeps P (session_token O rq task_id) := by
  unfold Orchestrator.session_token
  split
  · exact F.use_session_token O rq task_id _
  · exact F.issue_session_token O rq task_id

theorem adapter_credentials (prompt : String) (token : Tok) :
    Keeps P (adapter_credentials O rq task_id prompt token) := by
  refine Keeps.ite ?_ (Keeps.pure F.refl _)
  exact Keeps.bind F.trans (F.protect_outbound O rq task_id prompt token) fun _ => Keeps.pure F.refl _

theorem jit_token_issue (prompt : String) : Keeps P (jit_token_issue O rq task_id prompt) := by
  rw [jit_token_issue_steps]
  exact F.span_stage (Keeps.bind F.trans (F.session_token O rq task_id)
    (F.adapter_credentials O rq task_id prompt))

theorem watchdog_pre_llm : Keeps P (watchdog_pre_llm O rq task_id) := by
  unfold Orchestrator.watchdog_pre_llm
  split
  · exact Keeps.pure F.refl ()
  · refine F.span_stage ?_
    refine Keeps.bind F.trans ?_ fun _ => F.log _
    exact Keeps.catching F.trans (F.check_budget _) fun _ _ => clause_ite (F.log_throw _ _) nofun

theorem before_llm (pr : PolicyResult) (m : MaskResult) :
    Keeps P (before_llm O rq task_id pr m) := by
  refine Keeps.bind F.trans (F.policy_mask O rq task_id pr m) fun m' => ?_
  refine Keeps.bind F.trans (F.jit_token_issue O rq task_id m'.text) fun _ => ?_
  refine Keeps.bind F.trans (F.watchdog_pre_llm O rq task_id) fun _ => ?_
  exact Keeps.pure F.refl _

theorem llm_invoke (prompt : String) (token : Tok) (proof : Option Tok) :
    Co.Segments P (llm_invoke rq task_id prompt token proof) := by
  refine Co.Segments.tryCatch (Co.Segments.bind (Co.Segments.call F.refl _) fun resp => ?_) ?_
  · exact Co.Segments.bind (Co.Segments.lift F.trans (F.log _)) fun _ => Co.Segments.pure resp
  · exact fun e => Co.Segments.lift F.trans ((onlyAudit_stage_error _ _ _ e).mono F.audit)

theorem post_sanitize (resp : LLMResponse) : Keeps P (post_sanitize O rq task_id resp) := by
  refine F.span_stage ?_
  refine Keeps.bind F.trans (F.guard _) fun _ => ?_
  refine Keeps.bind F.trans (F.log _) fun _ => ?_
  exact Keeps.pure F.refl _

end

end PreFrame

/-- The calls of components that the stages make, the debit apart, all keep `P`. -/
structure Frame (P : World Tok → World Tok → Prop) : Prop where
  refl : ∀ w, P w w
  trans : ∀ w₁ w₂ w₃, P w₁ w₂ → P w₂ w₃ → P w₁ w₃
  audit : ∀ w w', OnlyAudit w w' → P w w'
  validate_token : ∀ (E : Env Tok) token, Keeps P (on_session_mgr (validate_token E token))
  is_expired : ∀ claims, Keeps P (on_session_mgr (is_expired claims))
  issue_token : ∀ (E : Env Tok) a, Keeps P (on_session_mgr (issue_token E a))
  generate_dpop_key_pair : Keeps P (on_session_mgr generate_dpop_key_pair)
  issue_dpop_proof : ∀ (E : Env Tok) pem jwk method url token nonce,
    Keeps P (on_session_mgr (issue_dpop_proof E pem jwk method url token nonce))
  check_budget : ∀ id, Keeps P (on_budget (BudgetEnforcer.check_budget id))
  loop : ∀ {α : Type} (m : LD α), Keeps P (on_loop m)

namespace Frame

variable {P : World Tok → World Tok → Prop} (F : Frame P)
include F

theorem pre : PreFrame P :=
  { refl := F.refl
    trans := F.trans
    audit := F.audit
    validate_token := F.validate_token
    is_expired := F.is_expired
    issue_token := F.issue_token
    generate_dpop_key_pair := F.generate_dpop_key_pair
    issue_dpop_proof := F.issue_dpop_proof
    check_budget := F.check_budget }

theorem log (event : AuditEvent) : Keeps P (AegisOs.log event) := F.pre.log event

theorem log_throw {α : Type} (event : AuditEvent) (e : Exc) :
    Keeps P (do AegisOs.log event; throw e : WM Tok α) := F.pre.log_throw event e

section
variable (O : Orchestrator Tok) (rq : OrchestratorRequest Tok) (task_id : Uuid)

theorem pre_sanitize : Keeps P (pre_sanitize O rq task_id) := F.pre.pre_sanitize O rq task_id

theorem before_llm (pr : PolicyResult) (m : MaskResult) :
    Keeps P (before_llm O rq task_id pr m) := F.pre.before_llm O rq task_id pr m

theorem watchdog_loop_detect (resp : LLMResponse) :
    Keeps P (watchdog_loop_detect O rq task_id resp) := by
  unfold Orchestrator.watchdog_loop_detect
  split
  · exact Keeps.pure F.refl ()
  · refine F.pre.span_stage ?_
    refine Keeps.bind F.trans ?_ fun _ => F.log _
    refine Keeps.catching F.trans (F.loop _) ?_
    intro e g hg
    split at hg
    · cases hg
      exact F.log_throw _ _
    · cases hg

/-- What follows the adapter call does what the debit does. -/
theorem after_llm {S : World Tok → World Tok → Prop} (hS : ∀ w₁ w₂ w₃, S w₁ w₂ → P w₂ w₃ → S w₁ w₃)
    {resp : LLMResponse} (hspend : Keeps S (watchdog_record_spend O rq task_id resp))
    (m : MaskResult) (token : Tok) : Keeps S (after_llm O rq task_id m token resp) := by
  refine Keeps.bind hS hspend fun _ => ?_
  refine Keeps.bind F.trans (F.watchdog_loop_detect O rq task_id resp) fun _ => ?_
  refine Keeps.bind F.trans (F.pre.post_sanitize O rq task_id resp) fun _ => ?_
  exact Keeps.pure F.refl _

/-- The debit, in its stage. -/
theorem watchdog_record_spend {S : World Tok → World Tok → Prop}
    (hS : ∀ w₁ w₂ w₃, S w₁ w₂ → P w₂ w₃ → S w₁ w₃) (hrefl : budget_session O rq = none → ∀ w, S w w)
    {resp : LLMResponse} (hspend : ∀ id, budget_session O rq = some id →
      Keeps S (on_budget (BudgetEnforcer.record_spend id
        (Decimal.mul resp.tokens_used rq.cost_per_token) none))) :
    Keeps S (watchdog_record_spend O rq task_id resp) := by
  unfold Orchestrator.watchdog_record_spend
  cases hid : budget_session O rq with
  | none => exact Keeps.pure (hrefl hid) ()
  | some id =>
      refine keeps_span_stage (fun a b c h h' => hS a b c h (F.audit b c h')) ?_
      refine Keeps.bind hS ?_ fun _ => F.log _
      exact Keeps.catching hS (hspend id hid) fun _ _ => clause_ite (F.log_throw _ _) nofun

end

/-- **The run keeps what its calls keep**, the debit included. -/
theorem run (hspend : ∀ id amount, Keeps P (on_budget (BudgetEnforcer.record_spend id amount none)))
    (O : Orchestrator Tok) (rq : OrchestratorRequest Tok) : Co.Segments P (run O rq) := by
  unfold Orchestrator.run
  cases rq.task_id with
  | none => exact Co.Segments.throw _
  | some task_id =>
      refine Co.Segments.bind (Co.Segments.lift F.trans (F.pre_sanitize O rq task_id)) fun m => ?_
      refine Co.Segments.bind (F.pre.policy_eval rq task_id) fun pr => ?_
      refine Co.Segments.bind
        (Co.Segments.lift F.trans (F.before_llm O rq task_id pr m)) fun ⟨m', token, at', proof⟩ => ?_
      refine Co.Segments.bind (F.pre.llm_invoke rq task_id m'.text at' proof) fun resp => ?_
      refine Co.Segments.lift F.trans (F.after_llm O rq task_id F.trans ?_ m' token)
      exact F.watchdog_record_spend O rq task_id F.trans (fun _ => F.refl) fun id _ => hspend id _

end Frame

end AegisOs.Orchestrator
