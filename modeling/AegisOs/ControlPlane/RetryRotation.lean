/-
# `AegisOs.ControlPlane.RetryRotation` — the credentials of a retried task

A task gets its first bearer token from `JITTokenIssue` and the next ones from the
retries of `LLMInvoke`, all under one rotation key; in a protected flow every
attempt also issues a token bound to the task's key, under a second rotation key,
and a proof for it.  The two chains go on side by side, across activities,
attempts that fail half way, and whatever else happens on the manager.

**The run.**  `Deliveries` are the executions of `JITTokenIssue`, `Attempts` those
of `LLMInvoke` behind them, each up to its call of the adapter.  Both keep a
record: the credentials issued, newest first, and the requests presented.
Between any two executions the manager may be called by others (`Elsewhere`).

`Inv` is what holds of the record: its identifiers are distinct and drawn, and
each token is the one its rotation key has, or dead.  One issue adds a token and
leaves the older ones of its key dead (`Inv.issue`); so what an attempt presents
is the only one of its kind that may still be alive (`retry_rotation`).
-/
import AegisOs.Governance.Supersession
import AegisOs.ControlPlane.TokenLife

namespace AegisOs

open Lib Lib.EState AgentTaskWorkflow

variable {Tok : Type}

/-! ## The inputs `run` builds -/

/-- The rotation key of a task's bearer tokens. -/
def bearer_key (inp : WorkflowInput) : String := "llm:" ++ inp.task_id

/-- The rotation key of its tokens for the adapter. -/
def adapter_key (inp : WorkflowInput) : String := "scheduler-adapter:" ++ inp.task_id

/-- The input of `JITTokenIssue`; that of `LLMInvoke` is `llm_input`. -/
def jit_input (inp : WorkflowInput) : JITTokenInput where
  agent_type := inp.agent_type
  requester_id := inp.requester_id
  task_id := inp.task_id
  protect_outbound_request := inp.protect_outbound_request
  session_id := inp.session_id
  allowed_actions := ["llm:complete"]
  rotation_key := some (bearer_key inp)

/-- What the bearer tokens are issued for, by either activity. -/
def bearer_args (inp : WorkflowInput) : IssueArgs where
  agent_type := inp.agent_type
  requester_id := inp.requester_id
  session_id := inp.session_id
  allowed_actions := ["llm:complete"]
  rotation_key := some (bearer_key inp)

/-- What the tokens for the adapter are issued for. -/
def adapter_args (inp : WorkflowInput) (jwk : Jwk) : IssueArgs where
  agent_type := inp.agent_type
  requester_id := inp.requester_id
  task_id := some inp.task_id
  session_id := inp.session_id
  allowed_actions := ["llm.invoke"]
  rotation_key := some (adapter_key inp)
  confirmation_jwk := some jwk

theorem before_gate_jit_input (inp : WorkflowInput) : (before_gate inp : Flow Tok _) = (do
    set (begin_run inp)
    let scrub : PrePIIScrubResult ← execute (.PrePIIScrub inp)
    let policy : PolicyEvalResult ← execute (.PolicyEval
      ⟨inp.task_id, scrub.sanitized_prompt, inp.agent_type, inp.requester_id, inp.model⟩)
    let token : JITTokenResult Tok ← execute (.JITTokenIssue (jit_input inp))
    return (scrub, policy, token)) := rfl

/-! ## Credentials -/

/-- What is issued for a task. -/
inductive Credential (Tok : Type) where
  | bearer (tok : Tok)
  | adapter (tok : Tok)
  | proof (tok : Tok)

namespace Credential

def token : Credential Tok → Tok
  | .bearer tok | .adapter tok | .proof tok => tok

/-- The rotation key it is issued under. -/
def key (inp : WorkflowInput) : Credential Tok → Option String
  | .bearer _ => some (bearer_key inp)
  | .adapter _ => some (adapter_key inp)
  | .proof _ => none

/-- What it says: the claims of a task's credential, with the key of the `JITTokenIssue` result `r`. -/
def Describes (E : Env Tok) (inp : WorkflowInput) (r : JITTokenResult Tok) : Credential Tok → Prop
  | .bearer token => ∃ p, E.jose.get_unverified_claims token = some p ∧
      p.agent_type = some inp.agent_type ∧ p.sub = some inp.requester_id ∧
      p.session_id = inp.session_id ∧ p.allowed_actions = ["llm:complete"] ∧ p.role = none ∧
      p.cnf = none
  | .adapter token => ∃ p jwk jkt, E.jose.get_unverified_claims token = some p ∧
      p.agent_type = some inp.agent_type ∧ p.sub = some inp.requester_id ∧
      p.session_id = inp.session_id ∧ p.allowed_actions = ["llm.invoke"] ∧ p.role = none ∧
      r.protected_public_jwk = some jwk ∧ public_jwk_thumbprint E.crypto jwk = .ok jkt ∧
      p.cnf = some (some jkt)
  | .proof _ => True

end Credential

/-- The token is dead until `t`. -/
def Superseded (E : Env Tok) (t : ℚ) (token : Tok) (s : SessionManager Tok) : Prop :=
  ∃ jti, jti_of E token = some jti ∧ Dead t jti s

/-- See the header. -/
structure Inv (E : Env Tok) (inp : WorkflowInput) (t : ℚ) (all : List (Credential Tok))
    (s : SessionManager Tok) : Prop where
  injective : Function.Injective s.uuid4
  deadline : t ≤ s.reading 0 + E.settings.token_expiry_seconds
  known : ∀ c ∈ all, ∃ jti, jti_of E c.token = some jti ∧ Used jti s ∧
    ∀ key, c.key inp = some key → Current key jti s ∨ Dead t jti s
  distinct : (all.map fun c => jti_of E c.token).Nodup

section
variable {E : Env Tok} {inp : WorkflowInput} {t : ℚ} {all : List (Credential Tok)}
  {s s' : SessionManager Tok} {token : Tok}

theorem Superseded.proceeds (h : Superseded E t token s) (hp : Proceeds E s s')
    (ht : t ≤ s.reading 0 + E.settings.token_expiry_seconds) : Superseded E t token s' := by
  obtain ⟨jti, hj, hdead⟩ := h
  exact ⟨jti, hj, hp.dead ht hdead⟩

theorem Inv.proceeds (h : Inv E inp t all s) (hp : Proceeds E s s') : Inv E inp t all s' where
  injective := by
    rw [hp.supply]
    exact h.injective
  deadline := hp.deadline h.deadline
  known := by
    intro c hc
    obtain ⟨jti, hj, hused, hkey⟩ := h.known c hc
    refine ⟨jti, hj, hp.used hused, fun key hk => ?_⟩
    rcases hkey key hk with hcurrent | hdead
    · exact hp.current h.deadline hcurrent
    · exact .inr (hp.dead h.deadline hdead)
  distinct := h.distinct

/-- A credential with the identifier drawn next is a new one. -/
theorem Inv.cons (h : Inv E inp t all s) {c : Credential Tok} (hp : Proceeds E s s')
    (hj : jti_of E c.token = some (s.uuid4 s.uuids_drawn)) (hdrawn : s.uuids_drawn < s'.uuids_drawn)
    (hkey : ∀ key, c.key inp = some key → Current key (s.uuid4 s.uuids_drawn) s') :
    Inv E inp t (c :: all) s' := by
  have h' := h.proceeds hp
  refine ⟨h'.injective, h'.deadline, ?_, ?_⟩
  · intro c' hc'
    rcases List.mem_cons.mp hc' with rfl | hc'
    · exact ⟨_, hj, ⟨_, hdrawn, by rw [hp.supply]⟩, fun key hk => .inl (hkey key hk)⟩
    · exact h'.known c' hc'
  · rw [List.map_cons, List.nodup_cons]
    refine ⟨fun hmem => ?_, h.distinct⟩
    obtain ⟨c', hc', heq⟩ := List.mem_map.mp hmem
    obtain ⟨jti, hj', ⟨n, hn, hjti⟩, -⟩ := h.known c' hc'
    rw [hj', hj, Option.some.injEq, ← hjti] at heq
    exact absurd (h.injective heq) hn.ne

/-- **One issue.**  The new token joins the record, and the older ones of its key are dead. -/
theorem Inv.issue (hJ : E.jose.Carries) (h : Inv E inp t all s) {a : IssueArgs} {key : String}
    {c : Credential Tok} (hi : issue_token E a s = .ok c.token s') (hk : a.rotation_key = some key)
    (hc : c.key inp = some key) :
    Inv E inp t (c :: all) s' ∧
      ∀ c' ∈ all, c'.key inp = some key → Superseded E t c'.token s' := by
  obtain ⟨hdead, hcurrent, hdrawn⟩ := issue_supersedes hi hk h.deadline
  obtain ⟨cnf, -, hclaims⟩ := issued_carries hJ hi
  have hp : Proceeds E s s' := (Proceeds.issue_token a).ok hi
  constructor
  · refine h.cons hp ?_ (by omega) ?_
    · rw [jti_of, hclaims]
      rfl
    · intro key' hk'
      rw [hc] at hk'
      cases hk'
      exact hcurrent
  · intro c' hc' hkey
    obtain ⟨jti, hj, -, hbound⟩ := h.known c' hc'
    rcases hbound key hkey with hcur | hd
    · exact ⟨jti, hj, hdead jti hcur⟩
    · exact ⟨jti, hj, hp.dead h.deadline hd⟩

/-- One proof: it is for the token it was asked for. -/
theorem Inv.prove (hJ : E.jose.Carries) (h : Inv E inp t all s) {pem : String} {jwk : Jwk}
    {method url : String} {proof : Tok}
    (hi : issue_dpop_proof E pem jwk method url (some token) none s = .ok proof s') :
    Inv E inp t (.proof proof :: all) s' ∧ ∃ p, E.jose.get_unverified_claims proof = some p ∧
      p.ath = some (access_token_hash E token) := by
  obtain ⟨hdrawn, p, hclaims, hjti, hath⟩ := proof_carries hJ hi
  refine ⟨?_, p, hclaims, hath⟩
  refine h.cons ((Proceeds.issue_dpop_proof pem jwk method url (some token) none).ok hi) ?_
    (by omega) ?_
  · show (E.jose.get_unverified_claims proof).bind _ = _
    rw [hclaims, Option.bind_some, hjti]
  · intro key hk
    cases hk

end

/-! ## The executions -/

section
variable {A : AegisActivities Tok} {inp : WorkflowInput} {prompt : String} {r : JITTokenResult Tok}
  {info : ActivityInfo} {task_id : String} {t : ℚ} {all : List (Credential Tok)}
  {w w' : World Tok} {token adapter_token : Tok} {proof : Option Tok}

/-- `Proceeds`, of the session manager of a worker. -/
def Advances (A : AegisActivities Tok) (w w' : World Tok) : Prop :=
  Proceeds A.env w.session_mgr w'.session_mgr

theorem advances_on_session_mgr {α : Type} {m : SM Tok α} (hm : Keeps (Proceeds A.env) m) :
    Keeps (Advances A) (on_session_mgr m) :=
  Keeps.zoom hm fun _ _ h => h

theorem advances_of_same {w w' : World Tok} (h : SameMgr w w') : Advances A w w' := by
  unfold Advances
  rw [h]
  exact .refl _

theorem advances_issuing : IssuingWith A.env (Advances A) where
  refl := fun _ => .refl _
  trans := fun _ _ _ => Proceeds.trans _ _ _
  log := fun event hr => (sameMgr_bystander.onlooker.log event hr).mono fun _ _ => advances_of_same
  budget := fun m => (sameMgr_bystander.budget m).mono fun _ _ => advances_of_same
  issue_token := fun a => advances_on_session_mgr (Proceeds.issue_token a)
  validate_token := fun token => advances_on_session_mgr (Proceeds.validate_token token)
  generate_dpop_key_pair := advances_on_session_mgr Proceeds.generate_dpop_key_pair
  issue_dpop_proof := fun _ _ _ _ _ _ => advances_on_session_mgr (Proceeds.issue_dpop_proof _ _ _ _ _ _)

/-- What an issue for the bearer token puts into it. -/
theorem describes_bearer (hJ : A.env.jose.Carries) {s s' : SessionManager Tok}
    (h : issue_token A.env (bearer_args inp) s = .ok token s') :
    (Credential.bearer token).Describes A.env inp r := by
  obtain ⟨cnf, hcnf, hclaims⟩ := issued_carries hJ h
  cases hcnf
  exact ⟨_, hclaims, rfl, rfl, rfl, rfl, rfl, rfl⟩

theorem describes_adapter (hJ : A.env.jose.Carries) {s s' : SessionManager Tok} {jwk : Jwk}
    (hjwk : r.protected_public_jwk = some jwk)
    (h : issue_token A.env (adapter_args inp jwk) s = .ok token s') :
    (Credential.adapter token).Describes A.env inp r := by
  obtain ⟨cnf, hcnf, hclaims⟩ := issued_carries hJ h
  obtain ⟨jkt, hjkt, rfl⟩ := except_map_eq_ok hcnf
  exact ⟨_, jwk, jkt, hclaims, rfl, rfl, rfl, rfl, rfl, hjwk, hjkt, rfl⟩

/-- `JITTokenIssue` issues one bearer token, and returns it. -/
theorem jit_token_issue_inv (hJ : A.env.jose.Carries) (hi : Inv A.env inp t all w.session_mgr)
    (h : A.jit_token_issue (jit_input inp) w = .ok r w') :
    Inv A.env inp t (.bearer r.token :: all) w'.session_mgr ∧
      ∀ r', (Credential.bearer r.token).Describes A.env inp r' := by
  obtain ⟨s, s₁, claims, hkeys, hissue, hvalid⟩ := jit_token_issue_calls h
  have hbefore : Inv A.env inp t all s := by
    rcases hkeys with rfl | ⟨keys, hpair⟩
    · exact hi
    · exact hi.proceeds (Proceeds.generate_dpop_key_pair.ok hpair)
  have hissued := (hbefore.issue hJ (c := .bearer r.token) hissue rfl rfl).1
  exact ⟨hissued.proceeds ((Proceeds.validate_token _).ok hvalid), fun r' => describes_bearer hJ hissue⟩

/-- A retry issues one bearer token; the older ones are dead. -/
theorem reissue_token_inv (hJ : A.env.jose.Carries) (hi : Inv A.env inp t all w.session_mgr)
    (h : A.reissue_token info (llm_input inp prompt r) task_id w = .ok token w') :
    Inv A.env inp t (.bearer token :: all) w'.session_mgr ∧
      (∀ c ∈ all, c.key inp = some (bearer_key inp) →
        Superseded A.env t c.token w'.session_mgr) ∧
      (Credential.bearer token).Describes A.env inp r := by
  obtain ⟨s₁, claims, hissue, hvalid⟩ := reissue_token_calls h
  have hafter : Proceeds A.env s₁ w'.session_mgr := (Proceeds.validate_token token).ok hvalid
  obtain ⟨hissued, hold⟩ := hi.issue hJ (c := .bearer token) (a := bearer_args inp) hissue rfl rfl
  exact ⟨hissued.proceeds hafter,
    fun c hc hkey => (hold c hc hkey).proceeds hafter hissued.deadline, describes_bearer hJ hissue⟩

/-- The protected part issues one token for the adapter and a proof for it; the older ones are
dead. -/
theorem protect_outbound_inv (hJ : A.env.jose.Carries) (hi : Inv A.env inp t all w.session_mgr)
    (h : A.protect_outbound (llm_input inp prompt r) inp.task_id token w =
      .ok (adapter_token, proof) w') :
    ∃ pr p, proof = some pr ∧
      Inv A.env inp t (.proof pr :: .adapter adapter_token :: all) w'.session_mgr ∧
      (∀ c ∈ all, c.key inp = some (adapter_key inp) →
        Superseded A.env t c.token w'.session_mgr) ∧
      (Credential.adapter adapter_token).Describes A.env inp r ∧
      A.env.jose.get_unverified_claims pr = some p ∧
      p.ath = some (access_token_hash A.env adapter_token) := by
  obtain ⟨pem, jwk, http_method, http_url, pr, s₁, s₂, claims, -, hjwk, -, hissue, hproof, hvalid,
    rfl⟩ := protect_outbound_calls h
  have hprove : Proceeds A.env s₁ s₂ := (Proceeds.issue_dpop_proof _ _ _ _ _ _).ok hproof
  have hafter : Proceeds A.env s₂ w'.session_mgr := (Proceeds.validate_token adapter_token).ok hvalid
  obtain ⟨hissued, hold⟩ := hi.issue hJ (c := .adapter adapter_token) (a := adapter_args inp jwk)
    hissue rfl rfl
  obtain ⟨hproved, p, hclaims, hath⟩ := hissued.prove hJ hproof
  refine ⟨pr, p, rfl, hproved.proceeds hafter, fun c hc hkey => ?_, describes_adapter hJ hjwk hissue,
    hclaims, hath⟩
  exact ((hold c hc hkey).proceeds hprove hissued.deadline).proceeds hafter hproved.deadline

end

/-! ## The run of a task -/

/-- What others may ask of the manager; the control plane makes no other calls. -/
inductive Elsewhere (E : Env Tok) : SessionManager Tok → SessionManager Tok → Prop
  | same (s) : Elsewhere E s s
  | issue_token (a s) : Elsewhere E s (after (issue_token E a s))
  | validate_token (token s) : Elsewhere E s (after (validate_token E token s))
  | is_expired (claims s) : Elsewhere E s (after (is_expired claims s))
  | generate_dpop_key_pair (s) : Elsewhere E s (after (generate_dpop_key_pair s))
  | issue_dpop_proof (pem jwk method url token nonce s) :
      Elsewhere E s (after (issue_dpop_proof E pem jwk method url token nonce s))
  | validate_sender_constrained_token (token dpop_proof method url nonce now s) : Elsewhere E s
      (after (validate_sender_constrained_token E token dpop_proof method url nonce now s))

theorem Elsewhere.proceeds {E : Env Tok} {s s' : SessionManager Tok} (h : Elsewhere E s s') :
    Proceeds E s s' := by
  cases h with
  | same s => exact .refl s
  | issue_token a s => exact Proceeds.issue_token a s
  | validate_token token s => exact Proceeds.validate_token token s
  | is_expired claims s =>
      have L := @Proceeds.lookup Tok E
      exact Keeps.bind L.trans L.time (fun _ => Keeps.pure L.refl _) s
  | generate_dpop_key_pair s => exact Proceeds.generate_dpop_key_pair s
  | issue_dpop_proof pem jwk method url token nonce s =>
      exact Proceeds.issue_dpop_proof pem jwk method url token nonce s
  | validate_sender_constrained_token token dpop_proof method url nonce now s =>
      exact proceeds_validate_sender_constrained_token token dpop_proof method url nonce now s

/-- Executions of `JITTokenIssue`, from `w₀` on: what they returned, the last one first. -/
inductive Deliveries (A : AegisActivities Tok) (inp : WorkflowInput) (w₀ : World Tok) :
    List (JITTokenResult Tok) → World Tok → Prop
  | start : Deliveries A inp w₀ [] w₀
  | elsewhere {rs w w'} : Deliveries A inp w₀ rs w →
      Elsewhere A.env w.session_mgr w'.session_mgr → Deliveries A inp w₀ rs w'
  | returned {rs r w w'} : Deliveries A inp w₀ rs w →
      A.jit_token_issue (jit_input inp) w = .ok r w' → Deliveries A inp w₀ (r :: rs) w'
  | raised {rs e w w'} : Deliveries A inp w₀ rs w →
      A.jit_token_issue (jit_input inp) w = .error e w' → Deliveries A inp w₀ rs w'

/-- The bearer token an execution of `LLMInvoke` issues itself, if it does. -/
def reissued (A : AegisActivities Tok) (info : ActivityInfo) (li : LLMInvokeInput Tok)
    (w : World Tok) : List (Credential Tok) :=
  if li.task_id ≠ "" ∧ 1 < info.attempt then
    match A.reissue_token info li li.task_id w with
    | .ok token _ => [.bearer token]
    | .error _ _ => []
  else []

/-- What is issued for a protected request. -/
def protecting (req : LLMRequest Tok) : List (Credential Tok) :=
  match req.aegis_dpop_proof with
  | some proof => [.proof proof, .adapter req.aegis_token]
  | none => []

/-- Executions of `LLMInvoke`, from `w₁` on, each up to its call of the adapter: how many, what they
issued, and what they presented, the last first. -/
inductive Attempts (A : AegisActivities Tok) (li : LLMInvokeInput Tok) (w₁ : World Tok) :
    ℕ → List (Credential Tok) → List (LLMRequest Tok) → World Tok → Prop
  | start : Attempts A li w₁ 0 [] [] w₁
  | elsewhere {n cs shown w w'} : Attempts A li w₁ n cs shown w →
      Elsewhere A.env w.session_mgr w'.session_mgr → Attempts A li w₁ n cs shown w'
  | presents {n cs shown info req k w w'} : Attempts A li w₁ n cs shown w → info.attempt = n + 1 →
      (A.llm_invoke info li).resume w = (.waiting (.complete req) k, w') →
      Attempts A li w₁ (n + 1) (protecting req ++ reissued A info li w ++ cs) (req :: shown) w'
  | fails {n cs shown info e w w'} : Attempts A li w₁ n cs shown w → info.attempt = n + 1 →
      (A.llm_invoke info li).resume w = (.failed e, w') →
      Attempts A li w₁ (n + 1) (reissued A info li w ++ cs) shown w'

/-- The credentials the deliveries issued. -/
def bearers (rs : List (JITTokenResult Tok)) : List (Credential Tok) :=
  rs.map fun r => .bearer r.token

section
variable {A : AegisActivities Tok} {inp : WorkflowInput} {prompt : String} {r : JITTokenResult Tok}
  {rs : List (JITTokenResult Tok)} {info : ActivityInfo} {t : ℚ} {all : List (Credential Tok)}
  {w₀ w₁ w w' : World Tok} {n : ℕ} {cs : List (Credential Tok)} {shown : List (LLMRequest Tok)}
  {req : LLMRequest Tok}

/-- A credential of the request is on record, and the proof is for the token presented. -/
def Recorded (E : Env Tok) (inp : WorkflowInput) (all : List (Credential Tok))
    (req : LLMRequest Tok) : Prop :=
  match req.aegis_dpop_proof with
  | none => inp.protect_outbound_request = false ∧ .bearer req.aegis_token ∈ all
  | some proof => inp.protect_outbound_request = true ∧ .adapter req.aegis_token ∈ all ∧
      .proof proof ∈ all ∧ ∃ p, E.jose.get_unverified_claims proof = some p ∧
        p.ath = some (access_token_hash E req.aegis_token)

theorem deliveries_inv (hJ : A.env.jose.Carries) (hids : Function.Injective w₀.session_mgr.uuid4)
    (h : Deliveries A inp w₀ rs w) :
    Inv A.env inp (w₀.session_mgr.reading 0 + A.env.settings.token_expiry_seconds) (bearers rs)
        w.session_mgr ∧
      ∀ c ∈ bearers rs, ∀ r', c.Describes A.env inp r' := by
  induction h with
  | start =>
      refine ⟨⟨hids, le_rfl, ?_, List.nodup_nil⟩, ?_⟩
      · exact fun c hc => absurd hc List.not_mem_nil
      · exact fun c hc => absurd hc List.not_mem_nil
  | elsewhere _ he ih => exact ⟨ih.1.proceeds he.proceeds, ih.2⟩
  | returned _ hrun ih =>
      obtain ⟨hinv, hdescribes⟩ := jit_token_issue_inv hJ ih.1 hrun
      refine ⟨hinv, fun c hc => ?_⟩
      rcases List.mem_cons.mp hc with rfl | hc
      · exact hdescribes
      · exact ih.2 c hc
  | raised _ hrun ih =>
      exact ⟨ih.1.proceeds ((advances_issuing.jit_token_issue (jit_input inp)).error hrun), ih.2⟩

/-! ### One attempt -/

/-- An execution that gets to the adapter has made its credentials. -/
theorem llm_invoke_waits {li : LLMInvokeInput Tok}
    {k : Except Exc (OrchCall.Answer (.complete req)) → Orchestrator.Run Tok LLMInvokeResult}
    (h : (A.llm_invoke info li).resume w = (.waiting (.complete req) k, w')) :
    li.task_id ≠ "" ∧ ∃ token proof, A.llm_credentials info li li.task_id w = .ok (token, proof) w' ∧
      req = AegisActivities.llm_request li token proof := by
  by_cases htask : li.task_id = ""
  · obtain ⟨e, w₁, herror⟩ : ∃ e w₁, AegisActivities.require_task_id li.task_id "llm-invoke"
        li.agent_type w = .error e w₁ := by
      unfold AegisActivities.require_task_id
      rw [if_pos htask]
      exact ⟨_, _, rfl⟩
    have hrun := (Co.resume_lift_bind_error herror).symm.trans h
    cases hrun
  · refine ⟨htask, ?_⟩
    have hrun := (Co.resume_lift_bind (AegisActivities.require_task_id_run htask w)).symm.trans h
    cases hc : A.llm_credentials info li li.task_id w with
    | error e w₁ =>
        have hfail := (Co.resume_lift_bind_error hc).symm.trans hrun
        cases hfail
    | ok credentials w₁ =>
        obtain ⟨token, proof⟩ := credentials
        have hawait := (Co.resume_lift_bind hc).symm.trans hrun
        cases hawait
        exact ⟨token, proof, rfl, rfl⟩

/-- One that does not has raised before, or while making them. -/
theorem llm_invoke_raises {li : LLMInvokeInput Tok} {e : Exc}
    (h : (A.llm_invoke info li).resume w = (.failed e, w')) :
    (li.task_id = "" ∧ Advances A w w') ∨
      (li.task_id ≠ "" ∧ A.llm_credentials info li li.task_id w = .error e w') := by
  by_cases htask : li.task_id = ""
  · refine .inl ⟨htask, ?_⟩
    have hkeep := (advances_issuing (A := A)).require_task_id li.task_id "llm-invoke" li.agent_type
    cases hr : AegisActivities.require_task_id li.task_id "llm-invoke" li.agent_type w with
    | ok task_id w₁ =>
        unfold AegisActivities.require_task_id at hr
        rw [if_pos htask] at hr
        cases hr
    | error e' w₁ =>
        have hrun := (Co.resume_lift_bind_error hr).symm.trans h
        cases hrun
        exact hkeep.error hr
  · refine .inr ⟨htask, ?_⟩
    have hrun := (Co.resume_lift_bind (AegisActivities.require_task_id_run htask w)).symm.trans h
    cases hc : A.llm_credentials info li li.task_id w with
    | error e w₁ =>
        have hfail := (Co.resume_lift_bind_error hc).symm.trans hrun
        cases hfail
        rfl
    | ok credentials w₁ =>
        obtain ⟨token, proof⟩ := credentials
        have hawait := (Co.resume_lift_bind hc).symm.trans hrun
        cases hawait

theorem reissued_of_ok (li : LLMInvokeInput Tok) {token : Tok} (htask : li.task_id ≠ "")
    (hretry : 1 < info.attempt) (h : A.reissue_token info li li.task_id w = .ok token w') :
    reissued A info li w = [.bearer token] := by
  rw [reissued, if_pos ⟨htask, hretry⟩, h]

theorem reissued_of_error (li : LLMInvokeInput Tok) {e : Exc} (htask : li.task_id ≠ "")
    (hretry : 1 < info.attempt) (h : A.reissue_token info li li.task_id w = .error e w') :
    reissued A info li w = [] := by
  rw [reissued, if_pos ⟨htask, hretry⟩, h]

theorem advances_protecting {li : LLMInvokeInput Tok} {task_id : String} (token : Tok) :
    Keeps (Advances A) (if inp.protect_outbound_request then A.protect_outbound li task_id token
      else pure (token, none)) :=
  Keeps.ite (advances_issuing.protect_outbound _ _ _) (Keeps.pure advances_issuing.refl _)

/-- The rotation key of what the attempts present. -/
def shown_key (inp : WorkflowInput) : String :=
  if inp.protect_outbound_request then adapter_key inp else bearer_key inp

/-- The second half of the credentials, for a bearer token on record. -/
theorem protecting_inv {token token' : Tok} {proof : Option Tok} (hJ : A.env.jose.Carries)
    (hi : Inv A.env inp t all w.session_mgr) (hmem : .bearer token ∈ all)
    (hreq : req = AegisActivities.llm_request (llm_input inp prompt r) token' proof)
    (h : (if inp.protect_outbound_request then
        A.protect_outbound (llm_input inp prompt r) inp.task_id token
      else pure (token, none) : WM Tok (Tok × Option Tok)) w = .ok (token', proof) w') :
    Inv A.env inp t (protecting req ++ all) w'.session_mgr ∧
      Recorded A.env inp (protecting req ++ all) req ∧
      (∀ c ∈ protecting req, c.Describes A.env inp r) ∧
      (inp.protect_outbound_request = true → .adapter req.aegis_token ∈ protecting req ∧
        ∀ c ∈ all, c.key inp = some (adapter_key inp) →
          Superseded A.env t c.token w'.session_mgr) ∧
      (inp.protect_outbound_request = false → req.aegis_token = token) := by
  subst hreq
  cases hp : inp.protect_outbound_request with
  | false =>
      rw [hp] at h
      cases h
      refine ⟨hi, ⟨hp, hmem⟩, ?_, ?_⟩
      · exact fun c hc => absurd hc List.not_mem_nil
      · refine ⟨fun htrue => ?_, fun _ => rfl⟩
        cases htrue
  | true =>
      rw [hp] at h
      obtain ⟨pr, p, rfl, hinv, hold, hdescribes, hclaims, hath⟩ := protect_outbound_inv hJ hi h
      have hadapter : .adapter token' ∈ protecting
          (AegisActivities.llm_request (llm_input inp prompt r) token' (some pr)) :=
        List.mem_cons_of_mem _ List.mem_cons_self
      refine ⟨hinv, ⟨hp, List.mem_append_left _ hadapter, List.mem_cons_self, p, hclaims, hath⟩, ?_,
        fun _ => ⟨hadapter, hold⟩, fun hfalse => ?_⟩
      · intro c hc
        rcases List.mem_cons.mp hc with rfl | hc
        · trivial
        · rw [List.mem_singleton.mp hc]
          exact hdescribes
      · cases hfalse

/-- What an execution presents, it has on record; a retry, or a protected execution, leaves every
older token of the kind dead. -/
theorem llm_credentials_inv {token : Tok} {proof : Option Tok} (hJ : A.env.jose.Carries)
    (hi : Inv A.env inp t all w.session_mgr) (hfirst : .bearer r.token ∈ all) (htask : inp.task_id ≠ "")
    (hreq : req = AegisActivities.llm_request (llm_input inp prompt r) token proof)
    (h : A.llm_credentials info (llm_input inp prompt r) inp.task_id w = .ok (token, proof) w') :
    Inv A.env inp t (protecting req ++ (reissued A info (llm_input inp prompt r) w ++ all))
        w'.session_mgr ∧
      Recorded A.env inp (protecting req ++ (reissued A info (llm_input inp prompt r) w ++ all)) req ∧
      (∀ c ∈ protecting req ++ reissued A info (llm_input inp prompt r) w,
        c.Describes A.env inp r) ∧
      (1 < info.attempt ∨ inp.protect_outbound_request = true →
        (∃ c ∈ protecting req ++ reissued A info (llm_input inp prompt r) w,
          c.token = req.aegis_token) ∧
        ∀ c ∈ all, c.key inp = some (shown_key inp) →
          Superseded A.env t c.token w'.session_mgr) := by
  unfold AegisActivities.llm_credentials at h
  by_cases hretry : 1 < info.attempt
  · rw [if_pos hretry] at h
    obtain ⟨token₁, w₁, hreissue, h⟩ := bind_eq_ok.mp h
    have hrecord := reissued_of_ok (llm_input inp prompt r) htask hretry hreissue
    obtain ⟨hinv, hold, hdescribes⟩ := reissue_token_inv hJ hi hreissue
    obtain ⟨hinv', hrecorded, hnew, hadapter, hplain⟩ :=
      protecting_inv hJ hinv List.mem_cons_self hreq h
    rw [hrecord]
    refine ⟨hinv', hrecorded, ?_, fun _ => ⟨?_, fun c hc hkey => ?_⟩⟩
    · intro c hc
      rcases List.mem_append.mp hc with hc | hc
      · exact hnew c hc
      · rw [List.mem_singleton.mp hc]
        exact hdescribes
    · cases hp : inp.protect_outbound_request with
      | true => exact ⟨_, List.mem_append_left _ (hadapter hp).1, rfl⟩
      | false =>
          exact ⟨_, List.mem_append_right _ List.mem_cons_self, (hplain hp).symm⟩
    · have hadvance := (advances_protecting token₁).ok h
      cases hp : inp.protect_outbound_request with
      | true =>
          rw [shown_key, hp] at hkey
          exact (hadapter hp).2 c (List.mem_cons_of_mem _ hc) hkey
      | false =>
          rw [shown_key, hp] at hkey
          exact (hold c hc hkey).proceeds hadvance hinv.deadline
  · rw [if_neg hretry] at h
    have hrecord : reissued A info (llm_input inp prompt r) w = [] :=
      if_neg fun hboth => hretry hboth.2
    obtain ⟨hinv', hrecorded, hnew, hadapter, -⟩ := protecting_inv hJ hi hfirst hreq h
    rw [hrecord, List.append_nil]
    refine ⟨hinv', hrecorded, hnew, fun hor => ?_⟩
    have hp := hor.resolve_left hretry
    refine ⟨⟨_, (hadapter hp).1, rfl⟩, fun c hc hkey => ?_⟩
    rw [shown_key, hp] at hkey
    exact (hadapter hp).2 c hc hkey

/-- An execution that raises may have issued a token before. -/
theorem llm_invoke_raises_inv {e : Exc} (hJ : A.env.jose.Carries)
    (hi : Inv A.env inp t all w.session_mgr)
    (h : (A.llm_invoke info (llm_input inp prompt r)).resume w = (.failed e, w')) :
    Inv A.env inp t (reissued A info (llm_input inp prompt r) w ++ all) w'.session_mgr ∧
      Advances A w w' ∧ ∀ c ∈ reissued A info (llm_input inp prompt r) w, c.Describes A.env inp r := by
  rcases llm_invoke_raises h with ⟨htask, hadvance⟩ | ⟨htask, herror⟩
  · have hrecord : reissued A info (llm_input inp prompt r) w = [] :=
      if_neg fun hboth => hboth.1 htask
    rw [hrecord]
    exact ⟨hi.proceeds hadvance, hadvance, fun c hc => absurd hc List.not_mem_nil⟩
  · have hadvance : Advances A w w' := (advances_issuing.llm_credentials _ _ _).error herror
    unfold AegisActivities.llm_credentials at herror
    by_cases hretry : 1 < info.attempt
    · rw [if_pos hretry] at herror
      cases hr : A.reissue_token info (llm_input inp prompt r) inp.task_id w with
      | error e' w₁ =>
          have hrecord := reissued_of_error (llm_input inp prompt r) htask hretry hr
          rw [hrecord]
          exact ⟨hi.proceeds hadvance, hadvance, fun c hc => absurd hc List.not_mem_nil⟩
      | ok token w₁ =>
          have hrecord := reissued_of_ok (llm_input inp prompt r) htask hretry hr
          obtain ⟨hinv, -, hdescribes⟩ := reissue_token_inv hJ hi hr
          have hrest := (bind_ok hr).symm.trans herror
          rw [hrecord]
          refine ⟨hinv.proceeds ((advances_protecting token).error hrest), hadvance, fun c hc => ?_⟩
          rw [List.mem_singleton.mp hc]
          exact hdescribes
    · have hrecord : reissued A info (llm_input inp prompt r) w = [] :=
        if_neg fun hboth => hretry hboth.2
      rw [hrecord]
      exact ⟨hi.proceeds hadvance, hadvance, fun c hc => absurd hc List.not_mem_nil⟩

/-! ### Any number of attempts -/

theorem Recorded.mono {E : Env Tok} {all' : List (Credential Tok)} (h : Recorded E inp all req)
    (hsub : all ⊆ all') : Recorded E inp all' req := by
  unfold Recorded at h ⊢
  cases hp : req.aegis_dpop_proof with
  | none =>
      rw [hp] at h
      exact ⟨h.1, hsub h.2⟩
  | some proof =>
      rw [hp] at h
      exact ⟨h.1, hsub h.2.1, hsub h.2.2.1, h.2.2.2⟩

/-- What is presented is one of the credentials of its key. -/
theorem Recorded.credential {E : Env Tok} (h : Recorded E inp all req) :
    ∃ c ∈ all, c.token = req.aegis_token ∧ c.key inp = some (shown_key inp) := by
  unfold Recorded at h
  cases hp : req.aegis_dpop_proof with
  | none =>
      rw [hp] at h
      refine ⟨_, h.2, rfl, ?_⟩
      rw [shown_key, h.1]
      rfl
  | some proof =>
      rw [hp] at h
      refine ⟨_, h.2.1, rfl, ?_⟩
      rw [shown_key, h.1]
      rfl

/-- What holds after any number of attempts. -/
structure Progress (A : AegisActivities Tok) (inp : WorkflowInput) (r : JITTokenResult Tok) (t : ℚ)
    (issued : List (Credential Tok)) (n : ℕ) (cs : List (Credential Tok))
    (shown : List (LLMRequest Tok)) (w : World Tok) : Prop where
  inv : Inv A.env inp t (cs ++ issued) w.session_mgr
  describes : ∀ c ∈ cs, c.Describes A.env inp r
  none_yet : n = 0 → shown = []
  recorded : ∀ req ∈ shown, Recorded A.env inp (cs ++ issued) req
  distinct : (shown.map (·.aegis_token)).Nodup
  dead : ∀ req ∈ shown.tail, Superseded A.env t req.aegis_token w.session_mgr

theorem Progress.presents {li : LLMInvokeInput Tok} {issued : List (Credential Tok)}
    {k : Except Exc (OrchCall.Answer (.complete req)) → Orchestrator.Run Tok LLMInvokeResult}
    (hJ : A.env.jose.Carries) (hli : li = llm_input inp prompt r) (hfirst : .bearer r.token ∈ issued)
    (hp : Progress A inp r t issued n cs shown w) (hn : info.attempt = n + 1)
    (hrun : (A.llm_invoke info li).resume w = (.waiting (.complete req) k, w')) :
    Progress A inp r t issued (n + 1) (protecting req ++ reissued A info li w ++ cs) (req :: shown)
      w' := by
  subst hli
  obtain ⟨htask, token, proof, hcred, hreq⟩ := llm_invoke_waits hrun
  obtain ⟨hinv, hrecorded, hdescribes, hfresh⟩ :=
    llm_credentials_inv hJ hp.inv (List.mem_append_right _ hfirst) htask hreq hcred
  -- only the first attempt may present a token it has not issued, and nothing was presented before
  have hearlier : ∀ req' ∈ shown, 1 < info.attempt := by
    intro req' hmem
    rcases Nat.eq_zero_or_pos n with h0 | hpos
    · rw [hp.none_yet h0] at hmem
      cases hmem
    · omega
  have hassoc : protecting req ++ reissued A info (llm_input inp prompt r) w ++ cs ++ issued =
      protecting req ++ (reissued A info (llm_input inp prompt r) w ++ (cs ++ issued)) := by
    simp only [List.append_assoc]
  constructor
  · rwa [hassoc]
  · intro c hc
    rcases List.mem_append.mp hc with hc | hc
    · exact hdescribes c hc
    · exact hp.describes c hc
  · exact fun h0 => absurd h0 (Nat.succ_ne_zero n)
  · intro req' hmem
    rw [hassoc]
    rcases List.mem_cons.mp hmem with rfl | hmem
    · exact hrecorded
    · refine (hp.recorded req' hmem).mono fun c hc => ?_
      exact List.mem_append_right _ (List.mem_append_right _ hc)
  · rw [List.map_cons, List.nodup_cons]
    refine ⟨fun hmem => ?_, hp.distinct⟩
    obtain ⟨req', hmem', htoken⟩ := List.mem_map.mp hmem
    obtain ⟨⟨c, hc, hct⟩, -⟩ := hfresh (.inl (hearlier req' hmem'))
    obtain ⟨c', hc', hct', -⟩ := (hp.recorded req' hmem').credential
    have hnodup := hinv.distinct
    rw [← List.append_assoc, List.map_append, List.nodup_append] at hnodup
    refine hnodup.2.2 _ (List.mem_map.mpr ⟨c, hc, rfl⟩) _ (List.mem_map.mpr ⟨c', hc', rfl⟩) ?_
    rw [hct, hct', htoken]
  · intro req' hmem
    obtain ⟨c, hc, hct, hkey⟩ := (hp.recorded req' hmem).credential
    rw [← hct]
    exact (hfresh (.inl (hearlier req' hmem))).2 c hc hkey

theorem attempts_progress {li : LLMInvokeInput Tok} {issued : List (Credential Tok)}
    (hJ : A.env.jose.Carries) (hli : li = llm_input inp prompt r) (hfirst : .bearer r.token ∈ issued)
    (hinv : Inv A.env inp t issued w₁.session_mgr) (h : Attempts A li w₁ n cs shown w) :
    Progress A inp r t issued n cs shown w := by
  induction h with
  | start =>
      refine ⟨hinv, ?_, fun _ => rfl, ?_, List.nodup_nil, ?_⟩
      · exact fun c hc => absurd hc List.not_mem_nil
      · exact fun req hmem => absurd hmem List.not_mem_nil
      · exact fun req hmem => absurd hmem List.not_mem_nil
  | elsewhere _ he ih =>
      exact ⟨ih.inv.proceeds he.proceeds, ih.describes, ih.none_yet, ih.recorded, ih.distinct,
        fun req hmem => (ih.dead req hmem).proceeds he.proceeds ih.inv.deadline⟩
  | presents _ hn hrun ih => exact ih.presents hJ hli hfirst hn hrun
  | fails _ hn hrun ih =>
      subst hli
      obtain ⟨hinv', hadvance, hdescribes⟩ := llm_invoke_raises_inv hJ ih.inv hrun
      refine ⟨?_, ?_, fun h0 => absurd h0 (Nat.succ_ne_zero _), ?_, ih.distinct,
        fun req hmem => (ih.dead req hmem).proceeds hadvance ih.inv.deadline⟩
      · rwa [List.append_assoc]
      · intro c hc
        rcases List.mem_append.mp hc with hc | hc
        · exact hdescribes c hc
        · exact ih.describes c hc
      · intro req hmem
        rw [List.append_assoc]
        exact (ih.recorded req hmem).mono fun c hc => List.mem_append_right _ hc

/-- **Retry rotation.**  After any deliveries of `JITTokenIssue` and any attempts of `LLMInvoke` for
a task, within one lifetime: no two credentials share an identifier; every token presented before
the last one is refused; the tokens of a kind say the same; and what was presented is on record,
with a proof for that very token if the flow is protected. -/
theorem retry_rotation (A : AegisActivities Tok) (inp : WorkflowInput) (prompt : String)
    (hcarries : A.env.jose.Carries) (hreads : A.env.jose.Reads)
    (hids : Function.Injective w₀.session_mgr.uuid4) (hd : Deliveries A inp w₀ rs w₁) (hr : r ∈ rs)
    (ha : Attempts A (llm_input inp prompt r) w₁ n cs shown w)
    (htime : w.session_mgr.reading 2 <
      w₀.session_mgr.reading 0 + A.env.settings.token_expiry_seconds) :
    (((cs ++ bearers rs).map fun c => jti_of A.env c.token).Nodup ∧
      ((cs ++ bearers rs).map (·.token)).Nodup ∧ (shown.map (·.aegis_token)).Nodup) ∧
    (∀ req ∈ shown.tail, ¬Accepts A.env req.aegis_token w.session_mgr) ∧
    (∀ c ∈ cs ++ bearers rs, c.Describes A.env inp r) ∧
    ∀ req ∈ shown, Recorded A.env inp (cs ++ bearers rs) req := by
  obtain ⟨hinv, hdescribes⟩ := deliveries_inv hcarries hids hd
  have hp := attempts_progress hcarries rfl (List.mem_map.mpr ⟨r, hr, rfl⟩) hinv ha
  refine ⟨⟨hp.inv.distinct, ?_, hp.distinct⟩, ?_, ?_, hp.recorded⟩
  · refine List.Nodup.of_map (jti_of A.env) ?_
    rw [List.map_map]
    exact hp.inv.distinct
  · intro req hmem
    obtain ⟨jti, hj, hdead⟩ := hp.dead req hmem
    exact hdead.not_accepts hreads hj htime
  · intro c hc
    rcases List.mem_append.mp hc with hc | hc
    · exact hp.describes c hc
    · exact hdescribes c hc r

end

/-! ### A protected task, retried once -/

def retriedActivities : AegisActivities SymToken where
  env := symbolicEnv {}
  guardrails := Orchestrator.plainGuardrails
  adapter := {
    provider_name := "openai"
    outbound_request_binding := fun _ => some ("POST", "https://api.openai.com/v1/chat/completions") }

def retriedInput : WorkflowInput where
  task_id := "task-0"
  prompt := "hello"
  agent_type := "general"
  requester_id := "client"
  protect_outbound_request := true

def retriedWorld : World SymToken where
  session_mgr := {
    SessionManager.fresh (.in_memory fun _ => none) (.still 0) Durable.lateIds with
    key_pairs := fun _ => ("pem", [("kty", "RSA"), ("e", "AQAB"), ("n", "xjlC")]) }
  budget_enforcer := ⟨fun _ => none, []⟩
  loop_detector := LoopDetector.init {} none none []
  audit := []

def retriedAttempt (r : JITTokenResult SymToken) (attempt : ℕ) :
    Orchestrator.Run SymToken LLMInvokeResult :=
  retriedActivities.llm_invoke ⟨some "task-0", "7", attempt⟩ (llm_input retriedInput "hello" r)

/-- `JITTokenIssue` returns, both attempts get to the adapter, and no time has passed. -/
def retriedTwice : Bool :=
  match retriedActivities.jit_token_issue (jit_input retriedInput) retriedWorld with
  | .error _ _ => false
  | .ok r w₁ =>
      match (retriedAttempt r 1).resume w₁ with
      | (.waiting (.complete _) _, w₂) =>
          match (retriedAttempt r 2).resume w₂ with
          | (.waiting (.complete _) _, w₃) =>
              decide (w₃.session_mgr.reading 2 < retriedWorld.session_mgr.reading 0 +
                retriedActivities.env.settings.token_expiry_seconds)
          | _ => false
      | _ => false

theorem retriedTwice_run : ∃ r w₁ cs second first w,
    Deliveries retriedActivities retriedInput retriedWorld [r] w₁ ∧
    Attempts retriedActivities (llm_input retriedInput "hello" r) w₁ 2 cs [second, first] w ∧
    w.session_mgr.reading 2 < retriedWorld.session_mgr.reading 0 +
      retriedActivities.env.settings.token_expiry_seconds := by
  have hrun : retriedTwice = true := by decide +kernel
  unfold retriedTwice at hrun
  split at hrun
  · cases hrun
  rename_i r w₁ hissue
  split at hrun
  · rename_i first k₁ w₂ hfirst
    split at hrun
    · rename_i second k₂ w₃ hsecond
      exact ⟨r, w₁, _, second, first, w₃, .returned .start hissue,
        .presents (.presents .start rfl hfirst) rfl hsecond, of_decide_eq_true hrun⟩
    · cases hrun
  · cases hrun

/-- The second attempt presents another token, and the first one is refused. -/
theorem retried_task_rotates : ∃ r w₁ cs, ∃ second first : LLMRequest SymToken, ∃ w,
    Deliveries retriedActivities retriedInput retriedWorld [r] w₁ ∧
    Attempts retriedActivities (llm_input retriedInput "hello" r) w₁ 2 cs [second, first] w ∧
    second.aegis_token ≠ first.aegis_token ∧
    ¬Accepts retriedActivities.env first.aegis_token w.session_mgr := by
  obtain ⟨r, w₁, cs, second, first, w, hd, ha, htime⟩ := retriedTwice_run
  obtain ⟨⟨-, -, hdistinct⟩, hdead, -⟩ := retry_rotation retriedActivities retriedInput "hello"
    symbolicJose_carries symbolicJose_reads Durable.lateIds_injective hd List.mem_cons_self ha htime
  refine ⟨r, w₁, cs, second, first, w, hd, ha, ?_, hdead first List.mem_cons_self⟩
  intro heq
  rw [List.map_cons, List.map_cons, heq] at hdistinct
  exact (List.nodup_cons.mp hdistinct).1 List.mem_cons_self

end AegisOs
