/-
# `AegisOs.Governance.SessionMgr` — issuing, validating and revoking tokens

`session_mgr.py`, method by method.  A method is an `EStateM` computation on
the manager: what it did before it raised stays done, as in the source.

**What is a parameter.**  `Env` collects what lies outside the repository.
`Jose` is python-jose: parsing and signing are opaque, and the only check
written out here is the one on the time claims of `jwt.decode`, which compares
whole seconds.  `Crypto` is described in `Governance.Jwk`.  Tokens are of an
arbitrary type `Tok`, the compact texts jose produces; `compact` is the text.

**The world a manager reads.**  Every `time.time()`, inside this module or
inside jose, takes the next reading of the clock; every `uuid4()` takes the
next element of a supply, and every generated key pair likewise.
`proof_uses` is a history variable: the pairs (bound key, token) whose
sender-constrained validation has returned.  No method reads it.
-/
import AegisOs.Governance.Jwk
import AegisOs.Governance.ReplayStore

namespace AegisOs

open Lib

/-! ## What jose handles -/

/-- The header of a JWT; `jwk` is present only when it is an object. -/
structure JwtHeader where
  typ : Option String := none
  alg : Option String := none
  jwk : Option Jwk := none
  deriving DecidableEq

/-- The claims of a JWT.  An absent claim is `none`; `cnf` may be an object without `jkt`. -/
structure Payload where
  jti : Option String := none
  sub : Option String := none
  agent_type : Option String := none
  session_id : Option String := none
  task_id : Option String := none
  allowed_actions : List String := []
  role : Option String := none
  iat : Option ℚ := none
  exp : Option ℚ := none
  nbf : Option ℚ := none
  metadata : List (String × String) := []
  cnf : Option (Option String) := none
  htm : Option String := none
  htu : Option String := none
  ath : Option String := none
  nonce : Option String := none
  deriving DecidableEq

/-- python-jose. -/
structure Jose (Tok : Type) where
  compact : Tok → String
  get_unverified_header : Tok → Option JwtHeader
  get_unverified_claims : Tok → Option Payload
  /-- The signature check of `jwt.decode`: token, key, algorithm. -/
  verify : Tok → String → String → Option Payload
  /-- `jwt.encode`: header, claims, key. -/
  encode : JwtHeader → Payload → String → Option Tok

/-- Everything outside the repository that the governance code calls. -/
structure Env (Tok : Type) where
  settings : Settings
  jose : Jose Tok
  crypto : Crypto
  /-- `str.upper`. -/
  upper : String → String

/-! ## The manager -/

structure SessionManager (Tok : Type) where
  revoked_jtis : String → Option ℚ
  rotation_index : String → Option String
  replay_store : ReplayStore
  clock : Clock
  uuid4 : ℕ → String
  uuids_drawn : ℕ
  key_pairs : ℕ → String × Jwk
  keys_drawn : ℕ
  proof_uses : List (String × Tok)

/-- `TokenClaims`; `cnf` is its `jkt`. -/
structure TokenClaims where
  jti : String
  sub : String
  agent_type : String
  session_id : Option String
  task_id : Option String
  allowed_actions : List String
  role : Option String
  issued_at : ℚ
  expires_at : ℚ
  metadata : List (String × String)
  cnf : Option String

/-- `DPoPProofClaims`. -/
structure DPoPProofClaims where
  jti : String
  htm : String
  htu : String
  iat : ℤ
  ath : Option String
  nonce : Option String

/-- The arguments of `issue_token`. -/
structure IssueArgs where
  agent_type : String
  requester_id : String
  metadata : List (String × String) := []
  session_id : Option String := none
  allowed_actions : List String := []
  role : Option String := none
  expires_in_seconds : Option ℤ := none
  rotation_key : Option String := none
  task_id : Option String := none
  confirmation_jwk : Option Jwk := none

variable {Tok : Type}

/-- The monad of the session manager. -/
abbrev SM (Tok : Type) : Type → Type := EStateM Exc (SessionManager Tok)

/-- `time.time()`. -/
def time : SM Tok ℚ := fun s => .ok s.clock.now { s with clock := s.clock.advance }

/-- `str(uuid4())`. -/
def str_uuid4 : SM Tok String := fun s =>
  .ok (s.uuid4 s.uuids_drawn) { s with uuids_drawn := s.uuids_drawn + 1 }

/-- `generate_dpop_key_pair`. -/
def generate_dpop_key_pair : SM Tok (String × Jwk) := fun s =>
  .ok (s.key_pairs s.keys_drawn) { s with keys_drawn := s.keys_drawn + 1 }

/-- Use an optional value, or raise. -/
def orRaise {α : Type} (e : Exc) : Option α → SM Tok α
  | some a => pure a
  | none => throw e

/-- `payload[name]`. -/
def claim {α : Type} (name : String) : Option α → Except Exc α
  | some a => .ok a
  | none => .error ⟨.KeyError, name⟩

/-! ### Revocation -/

/-- `_purge_expired_revocations`. -/
def purge_expired_revocations (now : ℚ) : SM Tok Unit :=
  modify fun s => { s with revoked_jtis := Ttl.purge now s.revoked_jtis }

/-- `self._revoked_jtis[jti] = ttl`. -/
def set_revoked (jti : String) (ttl : ℚ) : SM Tok Unit :=
  modify fun s => { s with revoked_jtis := Ttl.insert jti ttl s.revoked_jtis }

/-- `revoke_jti`. -/
def revoke_jti (E : Env Tok) (jti : String) : Option ℚ → SM Tok Unit
  | some expires_at => set_revoked jti expires_at
  | none => do set_revoked jti ((← time) + E.settings.token_expiry_seconds)

/-- `is_revoked`. -/
def is_revoked (jti : String) : SM Tok Bool := do
  purge_expired_revocations (← time)
  return ((← get).revoked_jtis jti).isSome

/-- `revoke_token`: the claims are read without checking the signature. -/
def revoke_token (E : Env Tok) (token : Tok) : SM Tok String := do
  let claims ← orRaise ⟨.ValueError, "Unable to revoke malformed token"⟩
    (E.jose.get_unverified_claims token)
  let jti ← MonadExcept.ofExcept (claim "jti" claims.jti)
  -- the default of `claims.get("exp", time.time())` is evaluated whether it is used or not
  let now ← time
  revoke_jti E jti (some (claims.exp.getD now))
  return jti

/-! ### Keys -/

/-- `_signing_key`. -/
def signing_key (E : Env Tok) : Except Exc String :=
  if E.settings.token_algorithm.startsWith "HS" then .ok E.settings.token_secret_key
  else if E.settings.token_private_key ≠ "" then .ok E.settings.token_private_key
  else .error ⟨.ValueError,
    "AEGIS_TOKEN_PRIVATE_KEY must be configured for asymmetric token signing"⟩

/-- `_verification_key`. -/
def verification_key (E : Env Tok) : Except Exc String :=
  if E.settings.token_algorithm.startsWith "HS" then .ok E.settings.token_secret_key
  else if E.settings.token_public_key ≠ "" then .ok E.settings.token_public_key
  else if E.settings.token_private_key ≠ "" then
    match E.crypto.public_of_private E.settings.token_private_key with
    | some pem => .ok pem
    | none => .error ⟨.ValueError, "Could not deserialize key data"⟩
  else .error ⟨.ValueError,
    "AEGIS_TOKEN_PUBLIC_KEY or AEGIS_TOKEN_PRIVATE_KEY must be configured for asymmetric token verification"⟩

/-- `_access_token_hash`. -/
def access_token_hash (E : Env Tok) (access_token : Tok) : String :=
  E.crypto.digest (E.jose.compact access_token)

/-- `jwt.decode`: the signature, then `nbf` and `exp` in whole seconds. -/
def jwt_decode (E : Env Tok) (token : Tok) (key algorithm : String) : SM Tok Payload := do
  let payload ← orRaise ⟨.JWTError, "Signature verification failed."⟩
    (E.jose.verify token key algorithm)
  let now ← time
  if payload.nbf.any (fun nbf => decide (pyInt now < pyInt nbf)) then
    throw ⟨.JWTError, "The token is not yet valid (nbf)"⟩
  if payload.exp.any (fun exp => decide (pyInt exp < pyInt now)) then
    throw ⟨.ExpiredSignatureError, "Signature has expired."⟩
  return payload

/-! ### Access tokens -/

/-- The claims `issue_token` signs. -/
def issued_claims (E : Env Tok) (a : IssueArgs) (jti : String) (now : ℚ)
    (cnf : Option (Option String)) : Payload where
  jti := some jti
  sub := some a.requester_id
  agent_type := some a.agent_type
  session_id := a.session_id
  task_id := a.task_id
  allowed_actions := a.allowed_actions
  role := a.role
  iat := some now
  exp := some (now + (a.expires_in_seconds.getD E.settings.token_expiry_seconds : ℤ))
  metadata := a.metadata
  cnf := cnf

/-- The `cnf` claim: the thumbprint of the key the token is bound to, if it is bound. -/
def confirmation (E : Env Tok) (a : IssueArgs) : Except Exc (Option (Option String)) :=
  match a.confirmation_jwk with
  | none => .ok none
  | some jwk => (public_jwk_thumbprint E.crypto jwk).map (fun jkt => some (some jkt))

/-- The `jwt.encode` of `issue_token`, with what it needs. -/
def encode_access_token (E : Env Tok) (a : IssueArgs) (jti : String) (now : ℚ) :
    Except Exc Tok := do
  let cnf ← confirmation E a
  let key ← signing_key E
  match E.jose.encode { typ := some "JWT", alg := some E.settings.token_algorithm }
      (issued_claims E a jti now cnf) key with
  | some token => .ok token
  | none => .error ⟨.JWTError, "JWT encoding failed"⟩

/-- `if rotation_key in self._rotation_index: self.revoke_jti(...)`. -/
def revoke_previous (E : Env Tok) (a : IssueArgs) : SM Tok Unit := do
  match a.rotation_key.bind (← get).rotation_index with
  | some previous => revoke_jti E previous none
  | none => pure ()

/-- `self._rotation_index[rotation_key] = claims["jti"]`. -/
def index_rotation (a : IssueArgs) (jti : String) : SM Tok Unit :=
  match a.rotation_key with
  | some k => modify fun s => { s with rotation_index := Function.update s.rotation_index k (some jti) }
  | none => pure ()

/-- `issue_token`. -/
def issue_token (E : Env Tok) (a : IssueArgs) : SM Tok Tok := do
  if a.agent_type = "" ∨ a.requester_id = "" then
    throw ⟨.ValueError, "agent_type and requester_id must not be empty"⟩
  let now ← time
  purge_expired_revocations now
  revoke_previous E a
  let jti ← str_uuid4
  let token ← MonadExcept.ofExcept (encode_access_token E a jti now)
  index_rotation a jti
  return token

/-- `issue_sender_constrained_token`. -/
def issue_sender_constrained_token (E : Env Tok) (public_jwk : Jwk) (a : IssueArgs) : SM Tok Tok :=
  issue_token E { a with confirmation_jwk := some public_jwk }

/-- Build `TokenClaims` from a decoded payload. -/
def token_claims (payload : Payload) (jti : String) : Except Exc TokenClaims := do
  let sub ← claim "sub" payload.sub
  let agent_type ← claim "agent_type" payload.agent_type
  let iat ← claim "iat" payload.iat
  let exp ← claim "exp" payload.exp
  let cnf ← match payload.cnf with
    | none => .ok none
    | some (some jkt) => .ok (some jkt)
    | some none => .error ⟨.ValidationError, "jkt"⟩
  return {
    jti := jti
    sub := sub
    agent_type := agent_type
    session_id := payload.session_id
    task_id := payload.task_id
    allowed_actions := payload.allowed_actions
    role := payload.role
    issued_at := iat
    expires_at := exp
    metadata := payload.metadata
    cnf := cnf }

/-- The `try` block of `validate_token`. -/
def decode_access_token (E : Env Tok) (token : Tok) : SM Tok Payload :=
  catching
    (do
      let key ← MonadExcept.ofExcept (verification_key E)
      jwt_decode E token key E.settings.token_algorithm)
    fun e =>
      if e.kind = .ExpiredSignatureError then
        some (throw ⟨.TokenExpiredError, "Session token has expired"⟩)
      else none

/-- `validate_token`. -/
def validate_token (E : Env Tok) (token : Tok) : SM Tok TokenClaims := do
  let payload ← decode_access_token E token
  let jti ← MonadExcept.ofExcept (claim "jti" payload.jti)
  purge_expired_revocations (← time)
  if ← is_revoked jti then
    throw ⟨.TokenRevokedError,
      [.lit "Session token jti=", .repr jti, .lit " has been revoked"]⟩
  MonadExcept.ofExcept (token_claims payload jti)

/-- `ensure_action_allowed`. -/
def ensure_action_allowed (claims : TokenClaims) (action : String) : SM Tok Unit :=
  if action ∈ claims.allowed_actions then pure ()
  else throw ⟨.TokenActionError,
    [.lit "Token jti=", .repr claims.jti, .lit " is not scoped for action ", .repr action]⟩

/-- `is_expired`. -/
def is_expired (claims : TokenClaims) : SM Tok Bool := do
  return decide (claims.expires_at < (← time))

/-! ### Proofs of possession -/

/-- `issue_dpop_proof`, with the current time and a fresh identifier. -/
def issue_dpop_proof (E : Env Tok) (private_key_pem : String) (public_jwk : Jwk)
    (http_method http_url : String) (access_token : Option Tok) (nonce : Option String) :
    SM Tok Tok := do
  let now ← time
  let jti ← str_uuid4
  orRaise ⟨.JWTError, "JWT encoding failed"⟩
    (E.jose.encode { typ := some "dpop+jwt", alg := some "ES256", jwk := some public_jwk }
      { jti := some jti
        htm := some (E.upper http_method)
        htu := some http_url
        iat := some (pyInt now)
        ath := access_token.map (access_token_hash E)
        nonce := nonce }
      private_key_pem)

/-- `DPoPProofClaims.model_validate`: `jti`, `htm`, `htu` and an integral `iat` are required. -/
def proof_claims (payload : Payload) : Except Exc DPoPProofClaims :=
  match payload.jti, payload.htm, payload.htu, payload.iat with
  | some jti, some htm, some htu, some iat =>
      if iat.den = 1 then
        .ok { jti := jti, htm := htm, htu := htu, iat := iat.num, ath := payload.ath,
              nonce := payload.nonce }
      else .error ⟨.ValidationError, "iat"⟩
  | _, _, _, _ => .error ⟨.ValidationError, "Field required"⟩

/-- What a caller expects of a proof. -/
structure ProofRequest (Tok : Type) where
  http_method : String
  http_url : String
  access_token : Option Tok := none
  nonce : Option String := none

/-- The header and signature part of `validate_dpop_proof`: the claims a proof is signed for. -/
def decode_dpop_proof (E : Env Tok) (proof : Tok) : SM Tok DPoPProofClaims := do
  let header ← orRaise ⟨.DPoPProofError, "Malformed DPoP proof header"⟩
    (E.jose.get_unverified_header proof)
  if header.typ ≠ some "dpop+jwt" then
    throw ⟨.DPoPProofError, "DPoP proof header typ must be 'dpop+jwt'"⟩
  let public_jwk ← orRaise ⟨.DPoPProofError, "DPoP proof header must embed a public JWK"⟩
    header.jwk
  let public_pem ← MonadExcept.ofExcept (public_pem_from_jwk E.crypto public_jwk)
  let payload ← catching (jwt_decode E proof public_pem (header.alg.getD "ES256")) fun e =>
    if e.kind = .ExpiredSignatureError then
      some (throw ⟨.DPoPProofError, "DPoP proof has expired"⟩)
    else if e.kind.isJWTError then
      some (throw ⟨.DPoPProofError, "DPoP proof signature validation failed"⟩)
    else none
  MonadExcept.ofExcept (proof_claims payload)

/-- The checks of `validate_dpop_proof` on a proof's claims, in the source's order. -/
def check_dpop_claims (E : Env Tok) (rq : ProofRequest Tok) (current_time : ℚ)
    (c : DPoPProofClaims) : Except Exc Unit :=
  if E.upper c.htm ≠ E.upper rq.http_method then
    .error ⟨.DPoPProofError,
      [.lit "DPoP proof htm mismatch: ", .repr c.htm, .lit " != ",
        .repr (E.upper rq.http_method)]⟩
  else if c.htu ≠ rq.http_url then
    .error ⟨.DPoPProofError,
      [.lit "DPoP proof htu mismatch: ", .repr c.htu, .lit " != ", .repr rq.http_url]⟩
  else if (c.iat : ℚ) < current_time - E.settings.dpop_proof_ttl_seconds ∨
      current_time + E.settings.dpop_clock_skew_seconds < (c.iat : ℚ) then
    .error ⟨.DPoPProofError, "DPoP proof iat is outside the acceptable time window"⟩
  else if rq.nonce.isSome ∧ c.nonce ≠ rq.nonce then
    .error ⟨.DPoPProofError, "DPoP proof nonce mismatch"⟩
  else if rq.access_token.any (fun tok => decide (c.ath ≠ some (access_token_hash E tok))) then
    .error ⟨.DPoPProofError, "DPoP proof ath mismatch for presented access token"⟩
  else .ok ()

/-- `self._replay_store.register_if_unused`. -/
def register_if_unused (jti : String) (ttl_seconds : ℤ) : SM Tok Bool := do
  let now ← time
  let (fresh, store) ← MonadExcept.ofExcept
    ((← get).replay_store.register_if_unused now jti ttl_seconds)
  modify fun s => { s with replay_store := store }
  return fresh

/-- `validate_dpop_proof` up to the replay store. -/
def check_dpop_proof (E : Env Tok) (proof : Tok) (rq : ProofRequest Tok) (now : Option ℚ) :
    SM Tok DPoPProofClaims := do
  let current_time ← match now with
    | some t => pure t
    | none => time
  let c ← decode_dpop_proof E proof
  MonadExcept.ofExcept (check_dpop_claims E rq current_time c)
  return c

/-- `validate_dpop_proof`. -/
def validate_dpop_proof (E : Env Tok) (proof : Tok) (rq : ProofRequest Tok) (now : Option ℚ) :
    SM Tok DPoPProofClaims := do
  let c ← check_dpop_proof E proof rq now
  if ← register_if_unused c.jti E.settings.dpop_proof_ttl_seconds then return c
  else throw ⟨.DPoPReplayError,
    [.lit "DPoP proof jti=", .repr c.jti, .lit " has already been used"]⟩

/-- `validate_sender_constrained_token`. -/
def validate_sender_constrained_token (E : Env Tok) (token dpop_proof : Tok)
    (http_method http_url : String) (nonce : Option String) (now : Option ℚ) :
    SM Tok TokenClaims := do
  let claims ← validate_token E token
  let jkt ← orRaise ⟨.TokenBindingError,
    "Access token is not sender-constrained (missing cnf.jkt)"⟩ claims.cnf
  let header ← orRaise ⟨.DPoPProofError, "Malformed DPoP proof header"⟩
    (E.jose.get_unverified_header dpop_proof)
  let public_jwk ← orRaise ⟨.DPoPProofError, "DPoP proof header must embed a public JWK"⟩
    header.jwk
  let proof_thumbprint ← MonadExcept.ofExcept (public_jwk_thumbprint E.crypto public_jwk)
  if proof_thumbprint ≠ jkt then
    throw ⟨.TokenBindingError,
      "DPoP proof key thumbprint does not match access token cnf.jkt"⟩
  let _ ← validate_dpop_proof E dpop_proof
    { http_method := http_method, http_url := http_url, access_token := some token,
      nonce := nonce } now
  modify fun s => { s with proof_uses := s.proof_uses ++ [(jkt, token)] }
  return claims

end AegisOs
