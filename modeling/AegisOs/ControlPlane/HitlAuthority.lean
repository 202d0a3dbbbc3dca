/-
# `AegisOs.ControlPlane.HitlAuthority` — who may decide at the approval gate

A decision is signalled by a request to one of two endpoints.  Between the
request and the signal stand the body, the header, the token, the session of
the workflow and the policy; `Authorised` collects what all of them together
demand.  The policy is the repository's own, so its part can be said outright:
the role of the token is `admin`.

`handler` is an endpoint as the web framework runs it: a path or body that
does not parse is answered 422, and an exception that is not an
`HTTPException` is answered 500.
-/
import AegisOs.ControlPlane.Hitl
import AegisOs.ControlPlane.Pipeline

namespace AegisOs.Hitl

open Lib Lib.EState

variable {Tok : Type}

/-! ## Requests as they come in -/

/-- The status of the response an exception is answered with. -/
def http_status (e : Exc) : ℕ :=
  match e.kind with
  | .HTTPException status_code => status_code
  | _ => 500

/-- A request to an endpoint: `none` is one the framework cannot parse, and without controls the
router has not been configured. -/
def handler (controls : Option (Env Tok)) (name : SignalName) (rq : Option (HitlRequest Tok)) :
    Run Tok ApprovalDecisionResponse :=
  match rq, controls with
  | none, _ => throw ⟨.HTTPException 422, "Unprocessable Entity"⟩
  | some _, none => throw ⟨.other "RuntimeError",
      "HITL controls have not been configured. Call configure_hitl_controls() during app startup."⟩
  | some rq, some E => endpoint name E rq

abbrev Answers : Type := Co.Hist Exc HitlCall HitlCall.Answer

abbrev RequestConf (Tok : Type) : Type :=
  Co.Conf (World Tok) Exc HitlCall HitlCall.Answer ApprovalDecisionResponse

/-- What the awaits may be answered with: the Temporal client anything, but for an HTTP response of
its own, and the policy engine what OPA replies with the repository's policy. -/
def Replies : (q : HitlCall) → Except Exc q.Answer → World Tok → Prop
  | .temporal _, r, _ => ∀ e, r = .error e → ∀ status, e.kind ≠ .HTTPException status
  | .evaluate policy_name input, r, _ => ∃ opa_url reply, Serves policy_name input reply ∧
      r = PolicyEngine.evaluate opa_url policy_name reply

/-- The calls a request has made, the one it waits for included. -/
def calls (c : RequestConf Tok) : List HitlCall := c.hist.map (·.1) ++ c.point.awaited.toList

/-- The approval service has been asked for a decision: it is what calls Temporal behind the policy
engine. -/
def Invoked (c : RequestConf Tok) : Prop :=
  ∃ before policy_name input behind q,
    calls c = before ++ .evaluate policy_name input :: behind ∧ .temporal q ∈ behind

/-- A signal has been sent, or is being sent. -/
def Signals (c : RequestConf Tok) : Prop :=
  ∃ workflow_id name payload, .temporal (.signal workflow_id name payload) ∈ calls c

/-- Everything that entitles a request, made in the world `w` and answered `h`, to its decision. -/
structure Authorised (E : Env Tok) (name : SignalName) (rq : HitlRequest Tok) (w : World Tok)
    (h : Answers) (claims : TokenClaims) : Prop where
  body : ∃ approver_id reason, parse_approval_request rq = .ok ⟨approver_id, reason⟩
  token : ∃ header s, rq.authorization = some header ∧ header.scheme.toLower = "bearer" ∧
    E.jose.compact header.token ≠ "" ∧ validate_token E header.token w.session_mgr = .ok claims s
  scope : "hitl:" ++ name.action ∈ claims.allowed_actions
  session : ∃ snapshot, h.head? = some ⟨.temporal (.query rq.task_id.text), .ok snapshot⟩ ∧
    ∀ token_session_id workflow_session_id, claims.session_id = some token_session_id →
      snapshot.session_id = some workflow_session_id → token_session_id = workflow_session_id
  role : claims.role = some "admin"

/-- A request that is entitled to its decision. -/
def Entitled (controls : Option (Env Tok)) (name : SignalName) (rq : Option (HitlRequest Tok))
    (w : World Tok) (h : Answers) : Prop :=
  ∃ E r claims, controls = some E ∧ rq = some r ∧ Authorised E name r w h claims

/-! ## What the checks establish -/

section
variable {E : Env Tok} {task_id : Uuid} {action : String} {token : Tok} {w w' : World Tok}
  {claims : TokenClaims}

theorem extract_bearer_token_ok {authorization : Option (AuthorizationHeader Tok)}
    (h : extract_bearer_token E authorization = .ok token) :
    ∃ header, authorization = some header ∧ header.scheme.toLower = "bearer" ∧
      E.jose.compact header.token ≠ "" ∧ header.token = token := by
  cases authorization with
  | none => cases h
  | some header =>
      simp only [extract_bearer_token] at h
      split at h
      · cases h
      · rename_i hheader
        cases h
        push Not at hheader
        exact ⟨header, rfl, hheader.1, hheader.2, rfl⟩

theorem refuse_ne_ok {α : Type} {event : String} {extra : List (String × Field)} {status : ℕ}
    {detail : Text} {a : α} : refuse event task_id action extra status detail w ≠ .ok a w' := by
  intro h
  cases h

theorem refuse_error {α : Type} {event : String} {extra : List (String × Field)} {status : ℕ}
    {detail : Text} {e : Exc}
    (h : refuse (α := α) event task_id action extra status detail w = .error e w') :
    e.kind = .HTTPException status := by
  cases h
  rfl

theorem token_refused_neverReturns {α : Type} {e : Exc} {g : WM Tok α}
    (hg : token_refused task_id action e = some g) : NeverReturns g := by
  have hrefuse : ∀ event extra status detail,
      NeverReturns (refuse event task_id action extra status detail : WM Tok α) :=
    fun _ _ _ _ _ _ _ => refuse_ne_ok
  exact .clause (hrefuse _ _ _ _) (.clause (hrefuse _ _ _ _) (.clause (hrefuse _ _ _ _)
    (.clause (hrefuse _ _ _ _) .no_clause))) hg

theorem checked_claims_valid (h : checked_claims E task_id action token w = .ok claims w') :
    (∃ s, validate_token E token w.session_mgr = .ok claims s) ∧
      "hitl:" ++ action ∈ claims.allowed_actions := by
  have hcheck := (catching_eq_ok_iff_body fun _ _ => token_refused_neverReturns).mp h
  obtain ⟨s, hs, -⟩ := Orchestrator.on_session_mgr_eq_ok.mp hcheck
  obtain ⟨c', s₁, hv, h₁⟩ := bind_eq_ok.mp hs
  obtain ⟨_, s₂, hallowed, h₂⟩ := bind_eq_ok.mp h₁
  cases h₂
  unfold ensure_action_allowed at hallowed
  split at hallowed
  · rename_i hmem
    exact ⟨⟨s₁, hv⟩, hmem⟩
  · cases hallowed

/-- The request is answered with an HTTP error. -/
abbrev HttpError (e : Exc) : Prop := 400 ≤ http_status e

theorem httpError_of_ne {e : Exc} (h : ∀ status, e.kind ≠ .HTTPException status) : HttpError e := by
  unfold HttpError http_status
  split
  · rename_i status hk
    exact absurd hk (h status)
  · decide

theorem httpError_of_eq {e : Exc} {status : ℕ} (h : e.kind = .HTTPException status)
    (hle : 400 ≤ status) : HttpError e := by
  unfold HttpError http_status
  rw [h]
  exact hle

theorem parse_approval_request_error {rq : HitlRequest Tok} {e : Exc}
    (h : parse_approval_request rq = .error e) : HttpError e := by
  unfold parse_approval_request at h
  split at h
  · cases h
  · cases h
    exact httpError_of_eq rfl (by decide)

theorem extract_bearer_token_error {authorization : Option (AuthorizationHeader Tok)} {e : Exc}
    (h : extract_bearer_token E authorization = .error e) : HttpError e := by
  cases authorization with
  | none =>
      cases h
      exact httpError_of_eq rfl (by decide)
  | some header =>
      simp only [extract_bearer_token] at h
      split at h
      · cases h
        exact httpError_of_eq rfl (by decide)
      · cases h

theorem checked_claims_error {e : Exc} (h : checked_claims E task_id action token w = .error e w') :
    HttpError e := by
  rcases catching_eq_error h with ⟨e₁, w₁, g, _, hg, hrun⟩ | ⟨hraise, hg⟩
  · unfold token_refused at hg
    split_ifs at hg <;> cases hg <;> exact httpError_of_eq (refuse_error hrun) (by decide)
  · -- what the clauses let through is none of the framework's own
    refine httpError_of_ne ?_
    intro status hk
    obtain ⟨s, hs, -⟩ := zoom_eq_error.mp hraise
    rcases bind_eq_error.mp hs with hv | ⟨c, s₁, hv, h₁⟩
    · rcases validate_token_error hv with ⟨hk', _⟩ | ⟨hk', _⟩ | hk'
      · rw [hk] at hk'
        cases hk'
      · rw [hk] at hk'
        cases hk'
      · rw [hk] at hk'
        simp at hk'
    · unfold ensure_action_allowed at h₁
      split at h₁
      · cases h₁
      · cases h₁
        cases hk

theorem check_session_ok {snapshot : ApprovalStatusSnapshot} {u : Unit}
    (h : check_session task_id action claims snapshot w = .ok u w') :
    ∀ token_session_id workflow_session_id, claims.session_id = some token_session_id →
      snapshot.session_id = some workflow_session_id → token_session_id = workflow_session_id := by
  intro a b ha hb
  unfold check_session at h
  rw [ha, hb] at h
  by_contra hne
  simp only [if_pos hne] at h
  exact refuse_ne_ok h

theorem check_session_error {snapshot : ApprovalStatusSnapshot} {e : Exc}
    (h : check_session task_id action claims snapshot w = .error e w') : HttpError e := by
  unfold check_session at h
  cases ha : claims.session_id with
  | none =>
      simp only [ha] at h
      cases h
  | some a =>
      cases hb : snapshot.session_id with
      | none =>
          simp only [ha, hb] at h
          cases h
      | some b =>
          simp only [ha, hb] at h
          split at h
          · exact httpError_of_eq (refuse_error h) (by decide)
          · cases h

theorem check_policy_ok {result : PolicyResult} {u : Unit}
    (h : check_policy task_id action claims result w = .ok u w') : result.allowed = true := by
  unfold check_policy at h
  split at h
  · exact absurd h refuse_ne_ok
  · rename_i hallowed
    simpa using hallowed

theorem check_policy_error {result : PolicyResult} {e : Exc}
    (h : check_policy task_id action claims result w = .error e w') : HttpError e := by
  unfold check_policy at h
  split at h
  · exact httpError_of_eq (refuse_error h) (by decide)
  · cases h

end

/-! ## Along a request -/

/-- Calls that decide nothing: the query of the snapshot, and the policy engine behind it. -/
def Harmless (qs : List HitlCall) : Prop :=
  qs = [] ∨ (∃ workflow_id, qs = [.temporal (.query workflow_id)]) ∨
    ∃ workflow_id policy_name input,
      qs = [.temporal (.query workflow_id), .evaluate policy_name input]

section
variable {E : Env Tok} {name : SignalName} {rq : HitlRequest Tok} {w : World Tok}

/-- The request is entitled to its decision, by the answers so far. -/
def Granted (E : Env Tok) (name : SignalName) (rq : HitlRequest Tok) (w : World Tok)
    (h : Answers) : Prop :=
  ∃ claims, Authorised E name rq w h claims

theorem Granted.append {h : Answers} (hg : Granted E name rq w h)
    (x : Σ q : HitlCall, Except Exc q.Answer) : Granted E name rq w (h ++ [x]) := by
  obtain ⟨claims, ha⟩ := hg
  obtain ⟨snapshot, hhead, hsame⟩ := ha.session
  refine ⟨claims, { ha with session := ⟨snapshot, ?_, hsame⟩ }⟩
  rw [List.head?_append, hhead]
  rfl

/-- The assertion at an await. -/
def AwaitAuthorised (E : Env Tok) (name : SignalName) (rq : HitlRequest Tok) (w : World Tok)
    (h : Answers) (_ : World Tok) (q : HitlCall) (_ : World Tok) : Prop :=
  Granted E name rq w h ∨ Harmless (h.map (·.1) ++ [q])

/-- The assertion where a request fails. -/
def FailsWithError (E : Env Tok) (name : SignalName) (rq : HitlRequest Tok) (w : World Tok)
    (h : Answers) (_ : World Tok) (e : Exc) (_ : World Tok) : Prop :=
  HttpError e ∧ (Granted E name rq w h ∨ Harmless (h.map (·.1)))

/-- What may happen to a request while it waits. -/
abbrev Waits (q : HitlCall) (s : World Tok) (r : Except Exc q.Answer) (s' : World Tok) : Prop :=
  Co.awaitEnv (fun _ _ => True) Replies q s r s'

/-- A call of the Temporal client, made by the service. -/
theorem safe_temporal {C : Answers → World Tok → HitlCall → World Tok → Prop} {q : TemporalCall}
    {D : Answers → World Tok → q.Answer → World Tok → Prop}
    {X : Answers → World Tok → Exc → World Tok → Prop} {h : Answers} {w₀ w₁ : World Tok}
    (hc : C h w₀ (.temporal q) w₁)
    (hok : ∀ a w₂, D (h ++ [⟨.temporal q, .ok a⟩]) w₂ a w₂)
    (herr : ∀ e w₂, (∀ status, e.kind ≠ .HTTPException status) →
      X (h ++ [⟨.temporal q, .error e⟩]) w₂ e w₂) :
    Co.Safe Waits C D X h w₀ (service (Co.call q)) w₁ :=
  Co.Safe.handle_call (Co.Safe.call hc (fun a w₂ _ => hok a w₂)
    fun e w₂ henv => herr e w₂ (henv.2 e rfl))

theorem safe_get_snapshot {C : Answers → World Tok → HitlCall → World Tok → Prop}
    {D : Answers → World Tok → ApprovalStatusSnapshot → World Tok → Prop}
    {X : Answers → World Tok → Exc → World Tok → Prop} {h : Answers} {w₀ w₁ : World Tok}
    {task_id : Uuid} (hc : C h w₀ (.temporal (.query task_id.text)) w₁)
    (hok : ∀ snapshot w₂, D (h ++ [⟨.temporal (.query task_id.text), .ok snapshot⟩]) w₂ snapshot w₂)
    (herr : ∀ e e' w₂, e'.kind = .PendingApprovalNotFoundError →
      X (h ++ [⟨.temporal (.query task_id.text), .error e⟩]) w₂ e' w₂) :
    Co.Safe Waits C D X h w₀ (service (TaskApprovalService.get_snapshot task_id)) w₁ := by
  refine Co.Safe.handle_tryCatch (safe_temporal (q := .query task_id.text) hc ?_ ?_)
  · exact fun snapshot w₂ => hok snapshot w₂
  · exact fun e w₂ _ => herr e _ w₂ rfl

/-- What the service does with a granted request stays granted, and its exceptions are not HTTP
responses. -/
theorem safe_signal_decision {approved : Bool} {status : PendingApprovalState} {task_id : Uuid}
    {approver_id reason : String} {name' : SignalName} {h : Answers} {w₀ w₁ : World Tok}
    (hg : Granted E name rq w h) :
    Co.Safe Waits (AwaitAuthorised E name rq w) (fun h _ _ _ => Granted E name rq w h)
      (fun h _ e _ => Granted E name rq w h ∧ ∀ status, e.kind ≠ .HTTPException status) h w₀
      (service (TaskApprovalService.signal_decision name' approved status task_id approver_id reason))
      w₁ := by
  refine Co.Safe.handle_bind (Co.Safe.handle_bind (safe_get_snapshot (.inl hg) ?_ ?_))
  · intro snapshot w₂
    have hg' := hg.append ⟨.temporal (.query task_id.text), .ok snapshot⟩
    by_cases hp : snapshot.approval_state ≠ PendingApprovalState.AWAITING_APPROVAL.value
    · rw [if_pos hp]
      exact ⟨hg', by simp⟩
    · rw [if_neg hp]
      refine Co.Safe.handle_bind (safe_temporal
        (q := .signal task_id.text name' ⟨approver_id, reason, approved⟩) (.inl hg') ?_ ?_)
      · exact fun u w₃ => hg'.append _
      · exact fun e w₃ hk => ⟨hg'.append _, hk⟩
  · intro e e' w₂ hk
    exact ⟨hg.append _, by simp [hk]⟩

theorem safe_approval_failed {α : Type} {D : Answers → World Tok → α → World Tok → Prop}
    {h : Answers} {w₀ w₁ : World Tok} {task_id : Uuid} {e : Exc} (he : HttpError e)
    (hs : Granted E name rq w h ∨ Harmless (h.map (·.1))) :
    Co.Safe Waits (AwaitAuthorised E name rq w) D (FailsWithError E name rq w) h w₀
      (approval_failed task_id e) w₁ := by
  unfold approval_failed
  split_ifs
  · exact Co.Safe.throw ⟨httpError_of_eq rfl (by decide), hs⟩
  · exact Co.Safe.throw ⟨httpError_of_eq rfl (by decide), hs⟩
  · exact Co.Safe.throw ⟨he, hs⟩

/-- The policy lets nobody but an administrator decide. -/
theorem role_of_allowed {claims : TokenClaims} {snapshot : ApprovalStatusSnapshot}
    {opa_url : String} {reply : OpaReply} {result : PolicyResult}
    (hs : Serves "agent_access" (policy_input name.action claims snapshot) reply)
    (h : PolicyEngine.evaluate opa_url "agent_access" reply = .ok result)
    (hallowed : result.allowed = true) : claims.role = some "admin" := by
  rw [evaluate_allowed hs h] at hallowed
  refine ((AgentAccess.allow_decision_iff _ rfl ?_).mp hallowed).2
  cases name with
  | approve => exact .inl rfl
  | deny => exact .inr rfl

/-- What has been found out about a request when the token has been checked. -/
structure Checked (E : Env Tok) (name : SignalName) (rq : HitlRequest Tok) (w : World Tok)
    (claims : TokenClaims) : Prop where
  body : ∃ approver_id reason, parse_approval_request rq = .ok ⟨approver_id, reason⟩
  token : ∃ header s, rq.authorization = some header ∧ header.scheme.toLower = "bearer" ∧
    E.jose.compact header.token ≠ "" ∧ validate_token E header.token w.session_mgr = .ok claims s
  scope : "hitl:" ++ name.action ∈ claims.allowed_actions

theorem safe_authorize_claims {claims : TokenClaims} {w₀ w₁ : World Tok}
    {D : Answers → World Tok → PolicyInput × String → World Tok → Prop}
    {X : Answers → World Tok → Exc → World Tok → Prop} (hchecked : Checked E name rq w claims)
    (hok : ∀ h w₂ a w₃, Granted E name rq w h → D h w₂ a w₃)
    (herr : ∀ h w₂ e w₃, HttpError e → Harmless (h.map (·.1)) → X h w₂ e w₃) :
    Co.Safe Waits (AwaitAuthorised E name rq w) D X [] w₀
      (authorize_claims rq.task_id name.action claims) w₁ := by
  have hquery : ∀ r, Harmless (([⟨.temporal (.query rq.task_id.text), r⟩] : Answers).map (·.1)) :=
    fun r => .inr (.inl ⟨_, rfl⟩)
  refine Co.Safe.bind (safe_get_snapshot (.inr (.inr (.inl ⟨_, rfl⟩))) ?_ ?_)
  · intro snapshot w₂
    refine Co.Safe.bind (Co.Safe.lift ?_ ?_)
    · intro _ w₃ hsession
      refine Co.Safe.bind (Co.Safe.call (.inr (.inr (.inr ⟨_, _, _, rfl⟩))) ?_ ?_)
      · rintro result w₄ ⟨-, opa_url, reply, hserves, hresult⟩
        refine Co.Safe.bind (Co.Safe.lift ?_ ?_)
        · intro _ w₅ hpolicy
          refine Co.Safe.pure (hok _ _ _ _ ⟨claims, ?_⟩)
          exact
            { body := hchecked.body
              token := hchecked.token
              scope := hchecked.scope
              session := ⟨snapshot, rfl, check_session_ok hsession⟩
              role := role_of_allowed hserves hresult.symm (check_policy_ok hpolicy) }
        · intro e w₅ hpolicy
          exact herr _ _ _ _ (check_policy_error hpolicy) (.inr (.inr ⟨_, _, _, rfl⟩))
      · rintro e w₄ ⟨-, opa_url, reply, hserves, hresult⟩
        exact herr _ _ _ _ (httpError_of_ne (evaluate_error_kind hserves hresult.symm))
          (.inr (.inr ⟨_, _, _, rfl⟩))
    · intro e w₃ hsession
      exact herr _ _ _ _ (check_session_error hsession) (hquery _)
  · intro e e' w₂ hk
    exact herr _ _ _ _ (httpError_of_ne (by simp [hk])) (hquery _)

theorem decide_task_safe (name' : SignalName) (approved : Bool) (status : PendingApprovalState) :
    Co.Safe Waits (AwaitAuthorised E name rq w) (fun h _ _ _ => Granted E name rq w h)
      (FailsWithError E name rq w) [] w
      (decide_task name (TaskApprovalService.signal_decision name' approved status) E rq) w := by
  refine Co.Safe.bind (Co.Safe.lift ?_ ?_)
  · intro request w₁ hparse
    obtain ⟨hbody, rfl⟩ := Orchestrator.guard_eq_ok.mp hparse
    refine Co.Safe.bind (Co.Safe.tryCatch (Co.Safe.bind (Co.Safe.bind (Co.Safe.lift ?_ ?_))))
    · intro token w₂ hextract
      obtain ⟨htoken, rfl⟩ := Orchestrator.guard_eq_ok.mp hextract
      obtain ⟨header, hheader, hscheme, hne, rfl⟩ := extract_bearer_token_ok htoken
      refine Co.Safe.bind (Co.Safe.lift ?_ ?_)
      · intro claims w₃ hclaims
        obtain ⟨⟨s, hvalid⟩, hscope⟩ := checked_claims_valid hclaims
        refine safe_authorize_claims ⟨⟨_, _, hbody⟩, ⟨header, s, hheader, hscheme, hne, hvalid⟩,
          hscope⟩ ?_ ?_
        · intro h w₄ _ w₅ hg
          refine (safe_signal_decision hg).mono (fun _ _ _ _ hc => hc) ?_ ?_
          · intro h' w₆ result w₇ hg'
            refine Co.Safe.bind (Co.Safe.lift ?_ ?_)
            · exact fun _ _ _ => Co.Safe.pure hg'
            · intro e w₈ htime
              cases htime
          · intro h' w₆ e w₇ hg'
            exact safe_approval_failed (httpError_of_ne hg'.2) (.inl hg'.1)
        · intro h w₄ e w₅ he hs
          exact safe_approval_failed he (.inr hs)
      · intro e w₃ hclaims
        exact safe_approval_failed (checked_claims_error hclaims) (.inr (.inl rfl))
    · intro e w₂ hextract
      obtain ⟨htoken, rfl⟩ := Orchestrator.guard_eq_error.mp hextract
      exact safe_approval_failed (extract_bearer_token_error htoken) (.inr (.inl rfl))
  · intro e w₁ hparse
    obtain ⟨hbody, rfl⟩ := Orchestrator.guard_eq_error.mp hparse
    exact ⟨parse_approval_request_error hbody, .inr (.inl rfl)⟩

theorem endpoint_safe :
    Co.Safe Waits (AwaitAuthorised E name rq w) (fun h _ _ _ => Granted E name rq w h)
      (FailsWithError E name rq w) [] w (endpoint name E rq) w := by
  cases name with
  | approve => exact decide_task_safe .approve true .APPROVED
  | deny => exact decide_task_safe .deny false .DENIED

end

theorem Harmless.not_behind {qs : List HitlCall} (h : Harmless qs) {before behind : List HitlCall}
    {policy_name : String} {input : PolicyInput} {q : TemporalCall}
    (hqs : qs = before ++ .evaluate policy_name input :: behind) : .temporal q ∉ behind := by
  intro hmem
  -- the policy engine would be asked first or second, with a call behind it
  rcases h with rfl | ⟨_, rfl⟩ | ⟨_, _, _, rfl⟩
  · simp at hqs
  · rcases before with _ | ⟨_, before⟩
    · cases hqs
    · simp at hqs
  · rcases before with _ | ⟨_, _ | ⟨_, before⟩⟩
    · cases hqs
    · cases hqs
      cases hmem
    · simp at hqs

theorem Harmless.not_signal {qs : List HitlCall} (h : Harmless qs) {workflow_id : String}
    {name : SignalName} {payload : ApprovalSignalPayload} :
    .temporal (.signal workflow_id name payload) ∉ qs := by
  rcases h with rfl | ⟨_, rfl⟩ | ⟨_, _, _, rfl⟩ <;> simp

theorem Harmless.length_le {qs : List HitlCall} (h : Harmless qs) : qs.length ≤ 2 := by
  rcases h with rfl | ⟨_, rfl⟩ | ⟨_, _, _, rfl⟩ <;> simp

/-- Where a request is: entitled to its decision, or it has decided nothing and, once it has ended,
has been answered with an error. -/
theorem handler_cases (controls : Option (Env Tok)) (name : SignalName)
    (rq : Option (HitlRequest Tok)) (w : World Tok) {c : RequestConf Tok}
    (hr : Co.Conf.Reachable (fun _ _ => True) Replies (handler controls name rq) w c) :
    Entitled controls name rq w c.hist ∨
      Harmless (calls c) ∧ (c.point.awaited = none → ∃ e, c.point = .failed e ∧ HttpError e) := by
  have hsafe : Co.Safe Waits
      (fun h _ q _ => Entitled controls name rq w h ∨ Harmless (h.map (·.1) ++ [q]))
      (fun h _ _ _ => Entitled controls name rq w h)
      (fun h _ e _ => HttpError e ∧ (Entitled controls name rq w h ∨ Harmless (h.map (·.1))))
      [] w (handler controls name rq) w := by
    cases rq with
    | none => exact ⟨httpError_of_eq rfl (by decide), .inr (.inl rfl)⟩
    | some r =>
        cases controls with
        | none => exact ⟨httpError_of_ne (by simp), .inr (.inl rfl)⟩
        | some E =>
            have hgranted : ∀ {h : Answers}, Granted E name r w h →
                Entitled (some E) name (some r) w h :=
              fun ⟨claims, ha⟩ => ⟨E, r, claims, rfl, rfl, ha⟩
            exact endpoint_safe.mono (fun _ _ _ _ hc => hc.imp_left hgranted)
              (fun _ _ _ _ hd => hgranted hd)
              (fun _ _ _ _ hx => ⟨hx.1, hx.2.imp_left hgranted⟩)
  have hgood := (Co.Conf.good_of_reachable hsafe hr).stopOk
  obtain ⟨hist, w₀, w₁, point, w₂⟩ := c
  cases point with
  | done r => exact .inl hgood
  | failed e =>
      refine hgood.2.imp_right ?_
      intro hharmless
      refine ⟨?_, fun _ => ⟨e, rfl, hgood.1⟩⟩
      simpa [calls, Co.Point.awaited] using hharmless
  | waiting q k =>
      refine hgood.1.imp_right ?_
      intro hharmless
      exact ⟨hharmless, fun hnone => by cases hnone⟩

/-- **A decision is signalled only when fully authorised.** -/
theorem decision_only_authorised (controls : Option (Env Tok)) (name : SignalName)
    (rq : Option (HitlRequest Tok)) (w : World Tok) {c : RequestConf Tok}
    (hr : Co.Conf.Reachable (fun _ _ => True) Replies (handler controls name rq) w c) :
    (Invoked c → Entitled controls name rq w c.hist) ∧
      (¬Entitled controls name rq w c.hist →
        ¬Signals c ∧ (calls c).length ≤ 2 ∧
          (c.point.awaited = none → ∃ e, c.point = .failed e ∧ HttpError e)) := by
  rcases handler_cases controls name rq w hr with hentitled | ⟨hharmless, hend⟩
  · exact ⟨fun _ => hentitled, fun hno => absurd hentitled hno⟩
  · refine ⟨?_, fun _ => ⟨?_, hharmless.length_le, hend⟩⟩
    · rintro ⟨before, policy_name, input, behind, q, hcalls, hmem⟩
      exact absurd hmem (hharmless.not_behind hcalls)
    · rintro ⟨workflow_id, name', payload, hmem⟩
      exact hharmless.not_signal hmem

/-! ### An administrator approves -/

/-- A token of an administrator, in time and scoped for approvals. -/
def adminToken : SymToken where
  header := { typ := some "JWT", alg := some "HS256" }
  payload :=
    { jti := some "jti-0", sub := some "alice", agent_type := some "general",
      allowed_actions := ["hitl:approve"], role := some "admin", iat := some 0, exp := some 900 }
  key := ({} : Settings).token_secret_key

def adminRequest : HitlRequest SymToken where
  task_id := ⟨"task-0"⟩
  authorization := some ⟨"Bearer", adminToken⟩
  approver_id := some "alice"
  reason := some "checked"

/-- A workflow that awaits approval, and an engine that asks OPA. -/
def servedAnswers : (q : HitlCall) → Except Exc q.Answer
  | .temporal (.query _) => .ok
      ({ task_id := "task-0", session_id := some "session-0", agent_type := "finance",
         workflow_status := WorkflowStatus.HUMAN_INTERVENTION_REQUIRED.value,
         approval_state := PendingApprovalState.AWAITING_APPROVAL.value } : ApprovalStatusSnapshot)
  | .temporal (.signal _ _ _) => .ok ()
  | .evaluate policy_name input => PolicyEngine.evaluate "http://localhost:8181" policy_name
      (.response 200 (some (AgentAccess.document input)))

theorem servedAnswers_replies (q : HitlCall) (w : World SymToken) :
    Replies q (servedAnswers q) w := by
  cases q with
  | temporal t =>
      intro e he
      cases t <;> cases he
  | evaluate policy_name input =>
      exact ⟨"http://localhost:8181", .response 200 (some (AgentAccess.document input)),
        fun _ _ _ => rfl, rfl⟩

/-- The request when it sends its signal. -/
def adminConf : RequestConf SymToken :=
  (Co.Conf.respond servedAnswers)^[3]
    (Co.Conf.start (handler (some (symbolicEnv {})) .approve (some adminRequest))
      Orchestrator.plainWorld)

theorem adminConf_reachable : Co.Conf.Reachable (fun _ _ => True) Replies
    (handler (some (symbolicEnv {})) .approve (some adminRequest)) Orchestrator.plainWorld
    adminConf :=
  Co.Conf.Reachable.responds .refl servedAnswers servedAnswers_replies 3

theorem adminConf_authorised :
    Invoked adminConf ∧ Signals adminConf ∧
      Entitled (some (symbolicEnv {})) .approve (some adminRequest) Orchestrator.plainWorld
        adminConf.hist := by
  have hcalls : calls adminConf = [.temporal (.query "task-0"), .evaluate "agent_access"
      { agent_type := "finance", requester_id := "alice", action := "approve",
        resource := "workflow:pending_approval", principal_role := some "admin" },
      .temporal (.query "task-0"),
      .temporal (.signal "task-0" .approve ⟨"alice", "checked", true⟩)] := by decide +kernel
  have hinvoked : Invoked adminConf :=
    ⟨[.temporal (.query "task-0")], _, _, [.temporal (.query "task-0"), _], .query "task-0", hcalls,
      List.mem_cons_self⟩
  refine ⟨hinvoked, ⟨"task-0", .approve, ⟨"alice", "checked", true⟩, by simp [hcalls]⟩, ?_⟩
  exact (decision_only_authorised _ _ _ _ adminConf_reachable).1 hinvoked

end AegisOs.Hitl
