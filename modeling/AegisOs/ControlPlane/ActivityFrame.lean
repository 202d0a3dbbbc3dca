/-
# `AegisOs.ControlPlane.ActivityFrame` — what the activities leave alone

A frame condition is a preorder on worlds, as in `ControlPlane.Frame`.  Which
activities keep it is a matter of the calls it allows:

    `Onlooker`    the budget enforcer, and routine entries in the audit log
    `Bystander`   every entry in the audit log
    `Issuing`     the session manager's calls for new tokens

The lemmas go through the activities once, for every such preorder.
-/
import AegisOs.ControlPlane.Activities

namespace AegisOs

open Lib Lib.EState

variable {Tok : Type}

/-- An entry that does not tell how a task began or ended. -/
def AuditEvent.routine : AuditEvent → Bool
  | .lifecycle_event _ event_type _ _ _ _ _ _ =>
      decide (event_type ∈ [.RETRIED, .PENDING_APPROVAL, .APPROVED])
  | _ => true

/-! ## Activities that do not concern tokens -/

/-- A preorder on worlds kept by routine entries in the audit log and by the budget enforcer. -/
structure Onlooker (P : World Tok → World Tok → Prop) : Prop where
  refl : ∀ w, P w w
  trans : ∀ w₁ w₂ w₃, P w₁ w₂ → P w₂ w₃ → P w₁ w₃
  log : ∀ event : AuditEvent, event.routine = true → Keeps P (AegisOs.log event)
  budget : ∀ {α : Type} (m : BE α), Keeps P (on_budget m)

namespace Onlooker

variable {P : World Tok → World Tok → Prop} (B : Onlooker P)
include B

theorem guard {α : Type} (x : Except Exc α) : Keeps P (AegisOs.guard x) := Keeps.ofExcept B.refl x

theorem log_throw {α : Type} (event : AuditEvent) (hr : event.routine = true) (e : Exc) :
    Keeps P (do AegisOs.log event; throw e : WM Tok α) :=
  Keeps.bind B.trans (B.log event hr) fun _ => Keeps.throw B.refl e

theorem read {α : Type} (l : Lit α) (kind : ExcKind) : Keeps P (l.read kind : WM Tok α) := by
  unfold Lit.read
  cases l.val with
  | none => exact Keeps.throw B.refl _
  | some a => exact Keeps.pure B.refl a

theorem require_task_id (task_id stage agent_type : String) :
    Keeps P (AegisActivities.require_task_id task_id stage agent_type) := by
  refine Keeps.ite ?_ (Keeps.pure B.refl _)
  exact Keeps.bind B.trans (B.log _ rfl) fun _ => Keeps.throw B.refl _

theorem mask_fields (g : Guardrails) (fields : List String) :
    ∀ m, Keeps P (AegisActivities.mask_fields g fields m) := by
  induction fields with
  | nil => exact fun m => Keeps.pure B.refl m
  | cons fld fields ih =>
      rintro ⟨text, extra⟩
      unfold AegisActivities.mask_fields
      refine Keeps.ite ?_ (ih _)
      exact Keeps.bind B.trans (B.guard _) fun _ => ih _

theorem opa_unavailable (task_id agent_type : String) (e : Exc) :
    Keeps P (AegisActivities.opa_unavailable task_id agent_type e) := by
  refine Keeps.ite ?_ (Keeps.throw B.refl e)
  exact B.log_throw _ rfl _

theorem policy_decision (A : AegisActivities Tok) (inp : PolicyEvalInput) (task_id : String)
    (result : PolicyResult) : Keeps P (A.policy_decision inp task_id result) := by
  refine Keeps.ite (B.log_throw _ rfl _) ?_
  refine Keeps.bind B.trans (B.log _ rfl) fun _ => ?_
  refine Keeps.ite ?_ (Keeps.pure B.refl _)
  refine Keeps.bind B.trans (B.mask_fields _ _ _) fun m => ?_
  exact Keeps.bind B.trans (B.log _ rfl) fun _ => Keeps.pure B.refl _

theorem policy_eval (A : AegisActivities Tok) (inp : PolicyEvalInput) :
    Co.Segments P (A.policy_eval inp) := by
  refine Co.Segments.bind (Co.Segments.lift B.trans (B.require_task_id _ _ _)) fun task_id => ?_
  refine Co.Segments.bind (Co.Segments.tryCatch ?_ ?_) ?_
  · exact Co.Segments.call B.refl _
  · exact fun e => Co.Segments.lift B.trans (B.opa_unavailable _ _ e)
  · exact fun result => Co.Segments.lift B.trans (B.policy_decision A inp task_id result)

theorem restore_budget_session (bid : Lit Uuid) (agent_type : String) (limit : Lit ℚ)
    (history : List BudgetHistoryEntry) :
    Keeps P (AegisActivities.restore_budget_session bid agent_type limit history) := by
  refine Keeps.bind B.trans (B.read _ _) fun id => ?_
  refine Keeps.bind B.trans (B.read _ _) fun limit => ?_
  exact Keeps.bind B.trans (B.budget _) fun _ => Keeps.pure B.refl _

/-- The two budget activities: a body, and the clause that refuses. -/
theorem budget_refused {α : Type} {m : WM Tok α} (hm : Keeps P m) (event stage task_id agent_type : String)
    (bid : Lit Uuid) :
    Keeps P (catching m (AegisActivities.budget_refused event stage task_id agent_type bid)) :=
  Keeps.catching B.trans hm fun _ _ => clause_ite (B.log_throw _ rfl _) nofun

theorem budget_pre_check (inp : BudgetPreCheckInput) :
    Keeps P (AegisActivities.budget_pre_check inp) := by
  refine Keeps.bind B.trans (B.require_task_id _ _ _) fun task_id => B.budget_refused ?_ _ _ _ _ _
  refine Keeps.bind B.trans (B.restore_budget_session _ _ _ _) fun restored => ?_
  refine Keeps.bind B.trans (B.budget _) fun _ => ?_
  exact Keeps.bind B.trans (B.log _ rfl) fun _ => Keeps.pure B.refl _

theorem budget_record_spend (info : ActivityInfo) (inp : BudgetRecordInput) :
    Keeps P (AegisActivities.budget_record_spend info inp) := by
  refine Keeps.bind B.trans (B.require_task_id _ _ _) fun task_id => B.budget_refused ?_ _ _ _ _ _
  refine Keeps.bind B.trans (B.restore_budget_session _ _ _ _) fun restored => ?_
  refine Keeps.bind B.trans (B.read _ _) fun cost => ?_
  refine Keeps.bind B.trans (B.budget _) fun session => ?_
  exact Keeps.bind B.trans (B.log _ rfl) fun _ => Keeps.pure B.refl _

end Onlooker

/-! ## Activities that record how a task begins and ends -/

/-- A preorder on worlds kept by the audit log and by the budget enforcer. -/
structure Bystander (P : World Tok → World Tok → Prop) : Prop where
  refl : ∀ w, P w w
  trans : ∀ w₁ w₂ w₃, P w₁ w₂ → P w₂ w₃ → P w₁ w₃
  audit : ∀ w w', OnlyAudit w w' → P w w'
  budget : ∀ {α : Type} (m : BE α), Keeps P (on_budget m)

namespace Bystander

variable {P : World Tok → World Tok → Prop} (B : Bystander P)
include B

theorem log (event : AuditEvent) : Keeps P (AegisOs.log event) :=
  (onlyAudit_log event).mono B.audit

theorem onlooker : Onlooker P := ⟨B.refl, B.trans, fun event _ => B.log event, B.budget⟩

theorem pre_pii_scrub (A : AegisActivities Tok) (inp : WorkflowInput) : Keeps P (A.pre_pii_scrub inp) := by
  refine Keeps.bind B.trans (B.onlooker.require_task_id _ _ _) fun task_id => ?_
  refine Keeps.bind B.trans (B.log _) fun _ => ?_
  refine Keeps.bind B.trans (B.onlooker.guard _) fun _ => ?_
  refine Keeps.bind B.trans (B.onlooker.guard _) fun mask_result => ?_
  refine Keeps.bind B.trans (B.log _) fun _ => ?_
  exact Keeps.pure B.refl _

theorem post_sanitize (A : AegisActivities Tok) (inp : PostSanitizeInput) :
    Keeps P (A.post_sanitize inp) := by
  refine Keeps.bind B.trans (B.onlooker.require_task_id _ _ _) fun task_id => ?_
  refine Keeps.bind B.trans (B.onlooker.guard _) fun mask_result => ?_
  refine Keeps.bind B.trans (B.log _) fun _ => ?_
  exact Keeps.bind B.trans (B.log _) fun _ => Keeps.pure B.refl _

theorem record_event (inp : WorkflowAuditInput) : Keeps P (AegisActivities.record_event inp) := by
  unfold AegisActivities.record_event
  split
  · exact B.log _
  · split <;> exact B.log _

end Bystander

/-! ## Activities that issue tokens -/

/-- An onlooker's preorder that issuing and checking tokens in one environment keeps too. -/
structure IssuingWith (E : Env Tok) (P : World Tok → World Tok → Prop) : Prop extends Onlooker P where
  issue_token : ∀ a, Keeps P (on_session_mgr (issue_token E a))
  validate_token : ∀ token, Keeps P (on_session_mgr (validate_token E token))
  generate_dpop_key_pair : Keeps P (on_session_mgr generate_dpop_key_pair)
  issue_dpop_proof : ∀ pem jwk method url token nonce,
    Keeps P (on_session_mgr (issue_dpop_proof E pem jwk method url token nonce))

namespace IssuingWith

variable {P : World Tok → World Tok → Prop} {A : AegisActivities Tok} (B : IssuingWith A.env P)
include B

theorem jit_token_issue (inp : JITTokenInput) : Keeps P (A.jit_token_issue inp) := by
  refine Keeps.bind B.trans (B.require_task_id _ _ _) fun task_id => ?_
  have hrest : ∀ keys : Option (String × Jwk), Keeps P (do
      let token ← on_session_mgr (AegisOs.issue_token A.env
        { agent_type := inp.agent_type
          requester_id := inp.requester_id
          session_id := inp.session_id
          allowed_actions := inp.allowed_actions
          role := inp.role
          rotation_key := inp.rotation_key })
      let claims ← on_session_mgr (AegisOs.validate_token A.env token)
      AegisOs.log (.stage_event "token.issued" .allow "jit-token-issue" task_id inp.agent_type
        [("jti", .str claims.jti)])
      return (⟨token, claims.jti, keys.map (·.1), keys.map (·.2)⟩ : JITTokenResult Tok)) := by
    intro keys
    refine Keeps.bind B.trans (B.issue_token _) fun token => ?_
    refine Keeps.bind B.trans (B.validate_token _) fun claims => ?_
    exact Keeps.bind B.trans (B.log _ rfl) fun _ => Keeps.pure B.refl _
  refine Keeps.ite ?_ (hrest none)
  exact Keeps.bind B.trans B.generate_dpop_key_pair fun keys => hrest (some keys)

theorem reissue_token (info : ActivityInfo) (inp : LLMInvokeInput Tok) (task_id : String) :
    Keeps P (A.reissue_token info inp task_id) := by
  refine Keeps.bind B.trans (B.issue_token _) fun token => ?_
  refine Keeps.bind B.trans (B.validate_token _) fun claims => ?_
  refine Keeps.bind B.trans (B.log _ rfl) fun _ => ?_
  refine Keeps.bind B.trans (B.log _ rfl) fun _ => ?_
  exact Keeps.bind B.trans (B.log _ rfl) fun _ => Keeps.pure B.refl _

theorem protect_outbound (inp : LLMInvokeInput Tok) (task_id : String) (token : Tok) :
    Keeps P (A.protect_outbound inp task_id token) := by
  unfold AegisActivities.protect_outbound
  cases inp.protected_private_key_pem with
  | none => exact Keeps.throw B.refl _
  | some pem =>
      cases inp.protected_public_jwk with
      | none => exact Keeps.throw B.refl _
      | some jwk =>
          dsimp only
          cases A.adapter.outbound_request_binding (AegisActivities.llm_request inp token none) with
          | none => exact Keeps.throw B.refl _
          | some binding =>
              refine Keeps.bind B.trans (B.issue_token _) fun adapter_token => ?_
              refine Keeps.bind B.trans (B.issue_dpop_proof _ _ _ _ _ _) fun proof => ?_
              refine Keeps.bind B.trans (B.validate_token _) fun claims => ?_
              exact Keeps.bind B.trans (B.log _ rfl) fun _ => Keeps.pure B.refl _

theorem llm_credentials (info : ActivityInfo) (inp : LLMInvokeInput Tok) (task_id : String) :
    Keeps P (A.llm_credentials info inp task_id) := by
  have hrest : ∀ token, Keeps P
      (if inp.protect_outbound_request then A.protect_outbound inp task_id token
        else pure (token, none)) :=
    fun token => Keeps.ite (B.protect_outbound inp task_id token) (Keeps.pure B.refl _)
  refine Keeps.ite ?_ (hrest inp.token)
  exact Keeps.bind B.trans (B.reissue_token info inp task_id) hrest

theorem llm_invoke (info : ActivityInfo) (inp : LLMInvokeInput Tok) :
    Co.Segments P (A.llm_invoke info inp) := by
  refine Co.Segments.bind (Co.Segments.lift B.trans (B.require_task_id _ _ _)) fun task_id => ?_
  refine Co.Segments.bind (Co.Segments.lift B.trans (B.llm_credentials info inp task_id))
    fun ⟨token, proof⟩ => ?_
  refine Co.Segments.bind (Co.Segments.call B.refl _) fun response => ?_
  refine Co.Segments.bind (Co.Segments.lift B.trans (B.log _ rfl)) fun _ => ?_
  exact Co.Segments.pure _

end IssuingWith

/-- An onlooker's preorder that issuing and checking tokens keeps, whatever the environment. -/
structure Issuing (P : World Tok → World Tok → Prop) : Prop extends Onlooker P where
  issue_token : ∀ (E : Env Tok) a, Keeps P (on_session_mgr (issue_token E a))
  validate_token : ∀ (E : Env Tok) token, Keeps P (on_session_mgr (validate_token E token))
  generate_dpop_key_pair : Keeps P (on_session_mgr generate_dpop_key_pair)
  issue_dpop_proof : ∀ (E : Env Tok) pem jwk method url token nonce,
    Keeps P (on_session_mgr (issue_dpop_proof E pem jwk method url token nonce))

namespace Issuing

variable {P : World Tok → World Tok → Prop} (B : Issuing P) {A : AegisActivities Tok}
include B

theorem issuing_with (E : Env Tok) : IssuingWith E P where
  toOnlooker := B.toOnlooker
  issue_token := B.issue_token E
  validate_token := B.validate_token E
  generate_dpop_key_pair := B.generate_dpop_key_pair
  issue_dpop_proof := B.issue_dpop_proof E

theorem jit_token_issue (inp : JITTokenInput) : Keeps P (A.jit_token_issue inp) :=
  (B.issuing_with A.env).jit_token_issue inp

theorem llm_credentials (info : ActivityInfo) (inp : LLMInvokeInput Tok) (task_id : String) :
    Keeps P (A.llm_credentials info inp task_id) :=
  (B.issuing_with A.env).llm_credentials info inp task_id

theorem llm_invoke (info : ActivityInfo) (inp : LLMInvokeInput Tok) :
    Co.Segments P (A.llm_invoke info inp) :=
  (B.issuing_with A.env).llm_invoke info inp

end Issuing

end AegisOs
