/-
# `AegisOs.ControlPlane.TokenIssue` — what the activities do to the session manager

Most activities leave the session manager alone, by the frame lemmas of
`ControlPlane.ActivityFrame` (`SameMgr`).

The two that issue tokens, `JITTokenIssue` and `LLMInvoke`, are read off once, as
the calls of the manager an execution that returned has made
(`jit_token_issue_calls`, `reissue_token_calls`, `protect_outbound_calls`).  They
are then described in the terms of `Governance.Rotation`: which key holds the token
they return, and at which of the readings they take it was issued (`own_issue`).
-/
import AegisOs.Governance.Rotation
import AegisOs.ControlPlane.ActivityFrame

namespace AegisOs

open Lib Lib.EState

variable {Tok : Type}

/-! ## Activities that do not concern tokens -/

/-- The session manager is as it was. -/
def SameMgr (w w' : World Tok) : Prop := w'.session_mgr = w.session_mgr

theorem sameMgr_bystander : Bystander (@SameMgr Tok) where
  refl := fun _ => rfl
  trans := fun _ _ _ h₁ h₂ => Eq.trans h₂ h₁
  audit := fun _ _ h => h.1
  budget := fun _ => Keeps.zoom (R := fun _ _ => True) (fun _ => trivial) fun _ _ _ => rfl

/-! ## The activities that issue tokens -/

/-- Tokens have been issued under keys of `Keys` only. -/
def MgrEvolves (Keys : Set String) (w w' : World Tok) : Prop :=
  Evolves Keys w.session_mgr w'.session_mgr

section
variable {Keys : Set String}

theorem mgrEvolves_of_same {w w' : World Tok} (h : SameMgr w w') : MgrEvolves Keys w w' := by
  unfold MgrEvolves
  rw [h]
  exact .refl _

theorem MgrEvolves.trans {Keys : Set String} (w₁ w₂ w₃ : World Tok) (h₁ : MgrEvolves Keys w₁ w₂)
    (h₂ : MgrEvolves Keys w₂ w₃) : MgrEvolves Keys w₁ w₃ := Evolves.trans h₁ h₂

theorem mgrEvolves_bystander : Bystander (@MgrEvolves Tok Keys) where
  refl := fun _ => .refl _
  trans := MgrEvolves.trans
  audit := fun _ _ h => mgrEvolves_of_same h.1
  budget := fun m => (sameMgr_bystander.budget m).mono fun _ _ => mgrEvolves_of_same

theorem mgrEvolves_on_session_mgr {α : Type} {m : SM Tok α} (hm : Keeps (Evolves Keys) m) :
    Keeps (MgrEvolves Keys) (on_session_mgr m) :=
  Keeps.zoom hm fun _ _ h => h

end

theorem mgrEvolves_issuing : Issuing (@MgrEvolves Tok Set.univ) where
  toOnlooker := mgrEvolves_bystander.onlooker
  issue_token := fun E a => mgrEvolves_on_session_mgr
    ((Evolves.issue_token E a).mono fun _ _ h => h.mono (Set.subset_univ _))
  validate_token := fun E token => mgrEvolves_on_session_mgr (Evolves.validate_token E token)
  generate_dpop_key_pair := mgrEvolves_on_session_mgr Evolves.generate_dpop_key_pair
  issue_dpop_proof := fun _ _ _ _ _ _ _ => mgrEvolves_on_session_mgr (Evolves.issue_dpop_proof _ _ _ _ _ _ _)

/-- Issue, perhaps do something else with the manager, and validate. -/
theorem issue_validated {E : Env Tok} (hJ : E.jose.Encodes) {a : IssueArgs} {key : String}
    (hexp : a.expires_in_seconds = none) (hk : a.rotation_key = some key) {token : Tok}
    {c : TokenClaims} {s s₁ s₂ s₃ : SessionManager Tok} (hf : FreshIds s)
    (hi : issue_token E a s = .ok token s₁) (he : Evolves ∅ s₁ s₂)
    (hv : validate_token E token s₂ = .ok c s₃) :
    FreshIds s₃ ∧ ∃ jti, TokenOf E token jti (s.reading 0) ∧ Held key jti s₃ := by
  have hf₁ : FreshIds s₁ := hf.evolves ((Evolves.issue_token E a).ok hi)
  have he₃ : Evolves ∅ s₁ s₃ := he.trans ((Evolves.validate_token E token).ok hv)
  have hheld : Held key (s.uuid4 s.uuids_drawn) s₁ := by
    rw [(issue_token_eq_ok hi).1]
    exact held_issued hf hk
  refine ⟨hf₁.evolves he₃, _, tokenOf_issued hJ hexp hi ⟨s₂, c, s₃, hv⟩, ?_⟩
  exact hheld.evolves hf₁ he₃ (Set.notMem_empty key)

section
variable {A : AegisActivities Tok} {w w' : World Tok}

theorem require_task_id_ok {task_id stage agent_type id : String}
    (h : AegisActivities.require_task_id task_id stage agent_type w = .ok id w') :
    w'.session_mgr = w.session_mgr :=
  (sameMgr_bystander.onlooker.require_task_id task_id stage agent_type).ok h

/-! ### The calls they make

What an execution that returned has asked of the manager, in order. -/

/-- What `JITTokenIssue` issues a token for. -/
def jit_args (inp : JITTokenInput) : IssueArgs where
  agent_type := inp.agent_type
  requester_id := inp.requester_id
  session_id := inp.session_id
  allowed_actions := inp.allowed_actions
  role := inp.role
  rotation_key := inp.rotation_key

/-- What a retry issues a token for. -/
def retry_args (inp : LLMInvokeInput Tok) : IssueArgs where
  agent_type := inp.agent_type
  requester_id := inp.requester_id
  session_id := inp.session_id
  allowed_actions := inp.allowed_actions
  role := inp.role
  rotation_key := inp.rotation_key

/-- What the protected part issues a token for. -/
def outbound_args (inp : LLMInvokeInput Tok) (task_id : String) (jwk : Jwk) : IssueArgs where
  agent_type := inp.agent_type
  requester_id := inp.requester_id
  task_id := some task_id
  session_id := inp.session_id
  allowed_actions := ["llm.invoke"]
  role := inp.role
  rotation_key := some ("scheduler-adapter:" ++ task_id)
  confirmation_jwk := some jwk

/-- `JITTokenIssue` makes a key pair or none, issues a token and validates it. -/
theorem jit_token_issue_calls {inp : JITTokenInput} {r : JITTokenResult Tok}
    (h : A.jit_token_issue inp w = .ok r w') :
    ∃ s s₁ claims,
      (s = w.session_mgr ∨ ∃ keys, generate_dpop_key_pair w.session_mgr = .ok keys s) ∧
      issue_token A.env (jit_args inp) s = .ok r.token s₁ ∧
      validate_token A.env r.token s₁ = .ok claims w'.session_mgr := by
  obtain ⟨task_id, w₁, htask, h⟩ := bind_eq_ok.mp h
  -- what follows the key pair
  have hrest : ∀ (keys : Option (String × Jwk)) (w₂ : World Tok), (do
      let token ← on_session_mgr (issue_token A.env (jit_args inp))
      let claims ← on_session_mgr (validate_token A.env token)
      log (.stage_event "token.issued" .allow "jit-token-issue" task_id inp.agent_type
        [("jti", .str claims.jti)])
      return (⟨token, claims.jti, keys.map Prod.fst, keys.map Prod.snd⟩ : JITTokenResult Tok)) w₂ =
        .ok r w' →
      ∃ s₁ claims, issue_token A.env (jit_args inp) w₂.session_mgr = .ok r.token s₁ ∧
        validate_token A.env r.token s₁ = .ok claims w'.session_mgr := by
    intro keys w₂ h
    obtain ⟨token, w₃, hissue, h⟩ := bind_eq_ok.mp h
    obtain ⟨claims, w₄, hvalid, h⟩ := bind_eq_ok.mp h
    obtain ⟨_, w₅, hlog, h⟩ := bind_eq_ok.mp h
    obtain ⟨s₁, hs₁, rfl⟩ := zoom_eq_ok.mp hissue
    obtain ⟨s₂, hs₂, rfl⟩ := zoom_eq_ok.mp hvalid
    cases hlog
    cases h
    exact ⟨s₁, claims, hs₁, hs₂⟩
  rw [← require_task_id_ok htask]
  split at h
  · obtain ⟨keys, w₂, hpair, h⟩ := bind_eq_ok.mp h
    obtain ⟨s, hs, rfl⟩ := zoom_eq_ok.mp hpair
    obtain ⟨s₁, claims, hissue, hvalid⟩ := hrest (some keys) _ h
    exact ⟨s, s₁, claims, .inr ⟨keys, hs⟩, hissue, hvalid⟩
  · obtain ⟨s₁, claims, hissue, hvalid⟩ := hrest none w₁ h
    exact ⟨_, s₁, claims, .inl rfl, hissue, hvalid⟩

/-- A retry issues a token and validates it. -/
theorem reissue_token_calls {info : ActivityInfo} {inp : LLMInvokeInput Tok} {task_id : String}
    {token : Tok} (h : A.reissue_token info inp task_id w = .ok token w') :
    ∃ s₁ claims, issue_token A.env (retry_args inp) w.session_mgr = .ok token s₁ ∧
      validate_token A.env token s₁ = .ok claims w'.session_mgr := by
  obtain ⟨token', w₁, hissue, h⟩ := bind_eq_ok.mp h
  obtain ⟨claims, w₂, hvalid, h⟩ := bind_eq_ok.mp h
  obtain ⟨_, w₃, hlog₁, h⟩ := bind_eq_ok.mp h
  obtain ⟨_, w₄, hlog₂, h⟩ := bind_eq_ok.mp h
  obtain ⟨_, w₅, hlog₃, h⟩ := bind_eq_ok.mp h
  obtain ⟨s₁, hs₁, rfl⟩ := zoom_eq_ok.mp hissue
  obtain ⟨s₂, hs₂, rfl⟩ := zoom_eq_ok.mp hvalid
  cases hlog₁
  cases hlog₂
  cases hlog₃
  cases h
  exact ⟨s₁, claims, hs₁, hs₂⟩

/-- The protected part issues a token for the task's key, makes a proof for it with that key, bound
to the adapter's endpoint, and validates the token. -/
theorem protect_outbound_calls {inp : LLMInvokeInput Tok} {task_id : String}
    {token adapter_token : Tok} {proof : Option Tok}
    (h : A.protect_outbound inp task_id token w = .ok (adapter_token, proof) w') :
    ∃ pem jwk http_method http_url dpop_proof s₁ s₂ claims,
      inp.protected_private_key_pem = some pem ∧ inp.protected_public_jwk = some jwk ∧
      A.adapter.outbound_request_binding (AegisActivities.llm_request inp token none) =
        some (http_method, http_url) ∧
      issue_token A.env (outbound_args inp task_id jwk) w.session_mgr = .ok adapter_token s₁ ∧
      issue_dpop_proof A.env pem jwk http_method http_url (some adapter_token) none s₁ =
        .ok dpop_proof s₂ ∧
      validate_token A.env adapter_token s₂ = .ok claims w'.session_mgr ∧
      proof = some dpop_proof := by
  unfold AegisActivities.protect_outbound at h
  cases hpem : inp.protected_private_key_pem with
  | none =>
      rw [hpem] at h
      cases h
  | some pem =>
      cases hjwk : inp.protected_public_jwk with
      | none =>
          rw [hpem, hjwk] at h
          cases h
      | some jwk =>
          rw [hpem, hjwk] at h
          dsimp only at h
          cases hbinding : A.adapter.outbound_request_binding
              (AegisActivities.llm_request inp token none) with
          | none =>
              rw [hbinding] at h
              cases h
          | some binding =>
              rw [hbinding] at h
              obtain ⟨token', w₁, hissue, h⟩ := bind_eq_ok.mp h
              obtain ⟨dpop_proof, w₂, hproof, h⟩ := bind_eq_ok.mp h
              obtain ⟨claims, w₃, hvalid, h⟩ := bind_eq_ok.mp h
              obtain ⟨_, w₄, hlog, h⟩ := bind_eq_ok.mp h
              obtain ⟨s₁, hs₁, rfl⟩ := zoom_eq_ok.mp hissue
              obtain ⟨s₂, hs₂, rfl⟩ := zoom_eq_ok.mp hproof
              obtain ⟨s₃, hs₃, rfl⟩ := zoom_eq_ok.mp hvalid
              cases hlog
              cases h
              exact ⟨pem, jwk, _, _, dpop_proof, s₁, s₂, claims, rfl, rfl, rfl, hs₁, hs₂, hs₃, rfl⟩

/-! ### The tokens they return -/

/-- `JITTokenIssue` returns a token issued at the first reading it takes. -/
theorem jit_token_issue_ok (hJ : A.env.jose.Encodes) {inp : JITTokenInput} {key : String}
    (hk : inp.rotation_key = some key) {r : JITTokenResult Tok} (hf : FreshIds w.session_mgr)
    (h : A.jit_token_issue inp w = .ok r w') :
    FreshIds w'.session_mgr ∧
      ∃ jti, TokenOf A.env r.token jti (w.session_mgr.reading 0) ∧ Held key jti w'.session_mgr := by
  obtain ⟨s, s₁, claims, hkeys, hissue, hvalid⟩ := jit_token_issue_calls h
  have hs : FreshIds s ∧ s.reading 0 = w.session_mgr.reading 0 := by
    rcases hkeys with rfl | ⟨keys, hpair⟩
    · exact ⟨hf, rfl⟩
    · have he : Evolves ∅ w.session_mgr s := Evolves.generate_dpop_key_pair.ok hpair
      refine ⟨hf.evolves he, ?_⟩
      cases hpair
      rfl
  rw [← hs.2]
  exact issue_validated hJ rfl hk hs.1 hissue (.refl _) hvalid

/-- A retry issues its token at the first reading it takes, and takes five. -/
theorem reissue_token_ok (hJ : A.env.jose.Encodes) {info : ActivityInfo} {inp : LLMInvokeInput Tok}
    {task_id key jti₀ : String} (hk : inp.rotation_key = some key) {token : Tok}
    (hf : FreshIds w.session_mgr) (hprev : w.session_mgr.rotation_index key = some jti₀)
    (h : A.reissue_token info inp task_id w = .ok token w') :
    FreshIds w'.session_mgr ∧
      (∃ jti, TokenOf A.env token jti (w.session_mgr.reading 0) ∧ Held key jti w'.session_mgr) ∧
      w'.session_mgr.reading 0 = w.session_mgr.reading 5 := by
  obtain ⟨s₁, claims, hissue, hvalid⟩ := reissue_token_calls h
  obtain ⟨hf', hheld⟩ := issue_validated hJ rfl hk hf hissue (.refl _) hvalid
  refine ⟨hf', hheld, ?_⟩
  rw [validate_token_reading hvalid, (issue_token_eq_ok hissue).1, SessionManager.issued_reading]
  have hsome : (w.session_mgr.previous (retry_args inp)).isSome = true := by
    simp [SessionManager.previous, retry_args, hk, hprev]
  rw [if_pos hsome]

/-- A protected execution issues its token at the first reading the protected part takes. -/
theorem protect_outbound_ok (hJ : A.env.jose.Encodes) {inp : LLMInvokeInput Tok} {task_id : String}
    {token adapter_token : Tok} {proof : Option Tok} (hf : FreshIds w.session_mgr)
    (h : A.protect_outbound inp task_id token w = .ok (adapter_token, proof) w') :
    ∃ key jti, TokenOf A.env adapter_token jti (w.session_mgr.reading 0) ∧
      Held key jti w'.session_mgr := by
  obtain ⟨pem, jwk, _, _, _, s₁, s₂, claims, -, -, -, hissue, hproof, hvalid, -⟩ :=
    protect_outbound_calls h
  exact ⟨_, (issue_validated hJ rfl rfl hf hissue
    ((Evolves.issue_dpop_proof _ _ _ _ _ _ _).ok hproof) hvalid).2⟩

/-- The reading, of those it takes, at which an execution of `LLMInvoke` issues the token it
presents; `none` when that is the token it was given. -/
def own_issue : (protect_outbound_request retry : Bool) → Option ℕ
  | false, false => none
  | false, true => some 0
  | true, false => some 0
  | true, true => some 5

/-- What an execution of `LLMInvoke` presents. -/
theorem llm_credentials_ok (hJ : A.env.jose.Encodes) {info : ActivityInfo}
    {inp : LLMInvokeInput Tok} {task_id key jti₀ : String} (hk : inp.rotation_key = some key)
    {token : Tok} {proof : Option Tok} (hf : FreshIds w.session_mgr)
    (hprev : w.session_mgr.rotation_index key = some jti₀)
    (h : A.llm_credentials info inp task_id w = .ok (token, proof) w') :
    match own_issue inp.protect_outbound_request (decide (1 < info.attempt)) with
    | none => token = inp.token ∧ w'.session_mgr = w.session_mgr
    | some k => ∃ key jti, TokenOf A.env token jti (w.session_mgr.reading k) ∧
        Held key jti w'.session_mgr := by
  unfold AegisActivities.llm_credentials at h
  by_cases hretry : 1 < info.attempt
  · rw [if_pos hretry] at h
    obtain ⟨token', w₁, hfirst, h⟩ := bind_eq_ok.mp h
    obtain ⟨hf₁, ⟨jti, htoken, hheld⟩, hread⟩ := reissue_token_ok hJ hk hf hprev hfirst
    rw [decide_eq_true hretry]
    cases hp : inp.protect_outbound_request with
    | false =>
        rw [hp] at h
        cases h
        exact ⟨key, jti, htoken, hheld⟩
    | true =>
        rw [hp] at h
        have hprotected := protect_outbound_ok hJ hf₁ h
        rw [hread] at hprotected
        exact hprotected
  · rw [if_neg hretry] at h
    rw [decide_eq_false hretry]
    cases hp : inp.protect_outbound_request with
    | false =>
        rw [hp] at h
        cases h
        exact ⟨rfl, rfl⟩
    | true =>
        rw [hp] at h
        exact protect_outbound_ok hJ hf h

end

end AegisOs
