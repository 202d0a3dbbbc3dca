/-
# `AegisOs.Governance.TokenSpec` — what the session manager's operations do

One statement per operation of `Governance.SessionMgr`, in terms of the
readings it takes and the table of revocations, so that nothing later unfolds
an operation:

    validate_token   takes three readings: jose's, then two for the purges.  It
                     returns exactly when the signature verifies, the time
                     claims hold at the first, the claims are complete, and
                     the identifier is not revoked at the third
                     (`validate_token_ok_iff`)
    issue_token      purges, revokes the token it supersedes, and only then can
                     fail to sign (`issue_token_run`)

`TimeOk` is jose's check of the time claims, in whole seconds.
-/
import AegisOs.Governance.SessionMgr

namespace AegisOs

open Lib Lib.EState

variable {Tok : Type}

/-! ## The clock -/

/-- The `n`-th reading from now. -/
def SessionManager.reading (s : SessionManager Tok) (n : ℕ) : ℚ := s.clock.reading (s.clock.tick + n)

theorem SessionManager.reading_mono (s : SessionManager Tok) {m n : ℕ} (h : m ≤ n) :
    s.reading m ≤ s.reading n :=
  s.clock.mono (Nat.add_le_add_left h _)

/-- The manager after `n` readings and a purge at the last of them. -/
def SessionManager.purged (s : SessionManager Tok) (n : ℕ) : SessionManager Tok :=
  { s with
    clock := { s.clock with tick := s.clock.tick + n + 1 }
    revoked_jtis := Ttl.purge (s.reading n) s.revoked_jtis }

theorem time_run (s : SessionManager Tok) :
    time s = .ok (s.reading 0) { s with clock := s.clock.advance } := rfl

/-! ## `validate_token` -/

/-- jose's check of the time claims at the reading `now`. -/
def TimeOk (p : Payload) (now : ℚ) : Prop :=
  (∀ nbf, p.nbf = some nbf → pyInt nbf ≤ pyInt now) ∧
  (∀ exp, p.exp = some exp → pyInt now ≤ pyInt exp)

/-- The payload a token is signed for, under the configured key. -/
def Signed (E : Env Tok) (token : Tok) (p : Payload) : Prop :=
  ∃ key, verification_key E = .ok key ∧ E.jose.verify token key E.settings.token_algorithm = some p

theorem Signed.unique {E : Env Tok} {token : Tok} {p p' : Payload} (h : Signed E token p)
    (h' : Signed E token p') : p = p' := by
  obtain ⟨key, hk, hv⟩ := h
  obtain ⟨key', hk', hv'⟩ := h'
  rw [hk] at hk'
  cases hk'
  rw [hv] at hv'
  cases hv'
  rfl

theorem orRaise_eq_ok {α : Type} {e : Exc} {o : Option α} {a : α} {s s' : SessionManager Tok} :
    orRaise e o s = .ok a s' ↔ o = some a ∧ s' = s := by
  cases o with
  | none => simp [orRaise]
  | some b => simp [orRaise, eq_comm]

theorem ofExcept_eq_ok {α : Type} {x : Except Exc α} {a : α} {s s' : SessionManager Tok} :
    (MonadExcept.ofExcept x : SM Tok α) s = .ok a s' ↔ x = .ok a ∧ s' = s := by
  cases x with
  | error e => simp
  | ok b => simp [eq_comm]

theorem claim_eq_ok {α : Type} {name : String} {o : Option α} {a : α} :
    claim name o = .ok a ↔ o = some a := by
  cases o with
  | none => simp [claim]
  | some b => simp [claim]

theorem jwt_decode_ok_iff {E : Env Tok} {token : Tok} {key alg : String} {p : Payload}
    {s s' : SessionManager Tok} :
    jwt_decode E token key alg s = .ok p s' ↔
      E.jose.verify token key alg = some p ∧ TimeOk p (s.reading 0) ∧
        s' = { s with clock := s.clock.advance } := by
  unfold jwt_decode
  simp only [bind_eq_ok, orRaise_eq_ok, time_run]
  constructor
  · rintro ⟨p', s₁, ⟨hv, rfl⟩, now, s₂, ht, hrest⟩
    cases ht
    split at hrest
    · simp [bind_eq_ok] at hrest
    · rename_i hnbf
      split at hrest
      · cases hrest
      · rename_i hexp
        cases hrest
        refine ⟨hv, ⟨?_, ?_⟩, rfl⟩
        · intro nbf h
          simpa [h] using hnbf
        · intro exp h
          simpa [h] using hexp
  · rintro ⟨hv, ⟨hnbf, hexp⟩, rfl⟩
    refine ⟨p, s, ⟨hv, rfl⟩, _, _, rfl, ?_⟩
    have h₁ : ¬ p.nbf.any (fun nbf => decide (pyInt (s.reading 0) < pyInt nbf)) = true := by
      cases hn : p.nbf with
      | none => simp
      | some nbf => simpa using hnbf nbf hn
    have h₂ : ¬ p.exp.any (fun exp => decide (pyInt exp < pyInt (s.reading 0))) = true := by
      cases hn : p.exp with
      | none => simp
      | some exp => simpa using hexp exp hn
    rw [if_neg h₁, if_neg h₂]
    rfl

theorem decode_access_token_ok_iff {E : Env Tok} {token : Tok} {p : Payload}
    {s s' : SessionManager Tok} :
    decode_access_token E token s = .ok p s' ↔
      Signed E token p ∧ TimeOk p (s.reading 0) ∧ s' = { s with clock := s.clock.advance } := by
  unfold decode_access_token
  rw [catching_eq_ok_iff_body fun _ _ => .clause (.throw _) .no_clause, bind_eq_ok]
  simp only [ofExcept_eq_ok, jwt_decode_ok_iff]
  constructor
  · rintro ⟨key, s₂, ⟨hk, rfl⟩, hv, ht, rfl⟩
    exact ⟨⟨key, hk, hv⟩, ht, rfl⟩
  · rintro ⟨⟨key, hk, hv⟩, ht, rfl⟩
    exact ⟨key, s, ⟨hk, rfl⟩, hv, ht, rfl⟩

theorem is_revoked_run (jti : String) (s : SessionManager Tok) :
    is_revoked jti s = .ok (Ttl.purge (s.reading 0) s.revoked_jtis jti).isSome (s.purged 0) := rfl

/-- What `validate_token` does with a token that is signed, in time and has an identifier. -/
theorem validate_token_run {E : Env Tok} {token : Tok} {p : Payload} {jti : String}
    {s : SessionManager Tok} (hs : Signed E token p) (ht : TimeOk p (s.reading 0))
    (hj : p.jti = some jti) :
    validate_token E token s =
      if (Ttl.purge (s.reading 2) s.revoked_jtis jti).isSome then
        .error ⟨.TokenRevokedError,
          [.lit "Session token jti=", .repr jti, .lit " has been revoked"]⟩ (s.purged 2)
      else (MonadExcept.ofExcept (token_claims p jti) : SM Tok TokenClaims) (s.purged 2) := by
  -- the state `is_revoked` runs in is the one two readings and one purge later
  have hpurge : ∀ (s₁ : SessionManager Tok), s₁ = { s with clock := s.clock.advance } →
      is_revoked jti
          { s₁ with clock := s₁.clock.advance, revoked_jtis := Ttl.purge (s₁.reading 0) s₁.revoked_jtis }
        = .ok (Ttl.purge (s.reading 2) s.revoked_jtis jti).isSome (s.purged 2) := by
    rintro s₁ rfl
    rw [is_revoked_run]
    have h12 : s.reading 1 ≤ s.reading 2 := s.reading_mono (by omega)
    have hp := Ttl.purge_purge h12 s.revoked_jtis
    show EStateM.Result.ok
        (Ttl.purge (s.reading 2) (Ttl.purge (s.reading 1) s.revoked_jtis) jti).isSome
        { s.purged 2 with
          revoked_jtis := Ttl.purge (s.reading 2) (Ttl.purge (s.reading 1) s.revoked_jtis) } = _
    rw [hp]
    rfl
  unfold validate_token
  rw [bind_ok (decode_access_token_ok_iff.mpr ⟨hs, ht, rfl⟩), hj]
  refine (bind_ok (ofExcept_ok jti _)).trans ?_
  refine (bind_ok (time_run _)).trans ?_
  refine (bind_ok (modify_run _ _)).trans ?_
  rw [bind_ok (hpurge _ rfl)]
  split <;> rfl

/-- **When a token is accepted**, and what the call leaves behind. -/
theorem validate_token_ok_iff {E : Env Tok} {token : Tok} {c : TokenClaims}
    {s s' : SessionManager Tok} :
    validate_token E token s = .ok c s' ↔
      ∃ p jti, Signed E token p ∧ TimeOk p (s.reading 0) ∧ p.jti = some jti ∧
        Ttl.purge (s.reading 2) s.revoked_jtis jti = none ∧ token_claims p jti = .ok c ∧
        s' = s.purged 2 := by
  constructor
  · intro h
    obtain ⟨p, s₁, hd, h₁⟩ := bind_eq_ok.mp h
    obtain ⟨hs, ht, rfl⟩ := decode_access_token_ok_iff.mp hd
    obtain ⟨jti, s₂, hj, -⟩ := bind_eq_ok.mp h₁
    have hj := claim_eq_ok.mp (ofExcept_eq_ok.mp hj).1
    rw [validate_token_run hs ht hj] at h
    split at h
    · cases h
    · rename_i hnone
      obtain ⟨hc, rfl⟩ := ofExcept_eq_ok.mp h
      exact ⟨p, jti, hs, ht, hj, by simpa using hnone, hc, rfl⟩
  · rintro ⟨p, jti, hs, ht, hj, hn, hc, rfl⟩
    rw [validate_token_run hs ht hj, hn, hc]
    rfl

/-! ## Why a token is refused -/

/-- The token is signed and past its `exp`, in whole seconds. -/
def Expired (E : Env Tok) (token : Tok) (s : SessionManager Tok) : Prop :=
  ∃ p exp, Signed E token p ∧ (∀ nbf, p.nbf = some nbf → pyInt nbf ≤ pyInt (s.reading 0)) ∧
    p.exp = some exp ∧ pyInt exp < pyInt (s.reading 0)

/-- The token is signed, in time, and on the list of revoked tokens. -/
def Revoked (E : Env Tok) (token : Tok) (s : SessionManager Tok) : Prop :=
  ∃ p jti, Signed E token p ∧ TimeOk p (s.reading 0) ∧ p.jti = some jti ∧
    (Ttl.purge (s.reading 2) s.revoked_jtis jti).isSome

theorem orRaise_eq_error {α : Type} {e e' : Exc} {o : Option α} {s s' : SessionManager Tok} :
    orRaise e o s = .error e' s' ↔ o = none ∧ e' = e ∧ s' = s := by
  cases o with
  | none => simp [orRaise, eq_comm]
  | some b => simp [orRaise]

theorem ofExcept_eq_error {α : Type} {x : Except Exc α} {e : Exc} {s s' : SessionManager Tok} :
    (MonadExcept.ofExcept x : SM Tok α) s = .error e s' ↔ x = .error e ∧ s' = s := by
  cases x with
  | error e' => simp [eq_comm]
  | ok b => simp

/-- The ways `jwt_decode` raises. -/
theorem jwt_decode_error {E : Env Tok} {token : Tok} {key alg : String} {e : Exc}
    {s s' : SessionManager Tok} (h : jwt_decode E token key alg s = .error e s') :
    e.kind = .JWTError ∨ e.kind = .ExpiredSignatureError ∧
      ∃ p exp, E.jose.verify token key alg = some p ∧
        (∀ nbf, p.nbf = some nbf → pyInt nbf ≤ pyInt (s.reading 0)) ∧
        p.exp = some exp ∧ pyInt exp < pyInt (s.reading 0) := by
  unfold jwt_decode at h
  rcases bind_eq_error.mp h with hv | ⟨p, s₁, hv, h₁⟩
  · rw [(orRaise_eq_error.mp hv).2.1]
    exact .inl rfl
  · obtain ⟨hverify, rfl⟩ := orRaise_eq_ok.mp hv
    rw [bind_ok (time_run _)] at h₁
    split at h₁
    · cases h₁
      exact .inl rfl
    · rename_i hnbf
      split at h₁
      · rename_i hexp
        cases h₁
        cases hp : p.exp with
        | none => simp [hp] at hexp
        | some exp =>
            refine .inr ⟨rfl, p, exp, hverify, ?_, hp, by simpa [hp] using hexp⟩
            intro nbf hn
            simpa [hn] using hnbf
      · cases h₁

theorem verification_key_error {E : Env Tok} {e : Exc} (h : verification_key E = .error e) :
    e.kind = .ValueError := by
  unfold verification_key at h
  split at h
  · cases h
  · split at h
    · cases h
    · split at h
      · split at h
        · cases h
        · cases h
          rfl
      · cases h
        rfl

theorem decode_access_token_error {E : Env Tok} {token : Tok} {e : Exc} {s s' : SessionManager Tok}
    (h : decode_access_token E token s = .error e s') :
    e.kind = .ValueError ∨ e.kind = .JWTError ∨ e.kind = .TokenExpiredError ∧ Expired E token s := by
  unfold decode_access_token at h
  -- an exception of the `try` block, before its clause
  have hraw : ∀ {e₁ : Exc} {s₁ : SessionManager Tok}, (do
      let key ← MonadExcept.ofExcept (verification_key E)
      jwt_decode E token key E.settings.token_algorithm) s = .error e₁ s₁ →
      e₁.kind = .ValueError ∨ e₁.kind = .JWTError ∨
        e₁.kind = .ExpiredSignatureError ∧ Expired E token s := by
    intro e₁ s₁ h₁
    rcases bind_eq_error.mp h₁ with hk | ⟨key, s₂, hk, hd⟩
    · exact .inl (verification_key_error (ofExcept_eq_error.mp hk).1)
    · obtain ⟨hkey, rfl⟩ := ofExcept_eq_ok.mp hk
      rcases jwt_decode_error hd with hj | ⟨hj, p, exp, hv, hnbf, hexp, hlt⟩
      · exact .inr (.inl hj)
      · exact .inr (.inr ⟨hj, p, exp, ⟨key, hkey, hv⟩, hnbf, hexp, hlt⟩)
  rcases catching_eq_error h with ⟨e₁, s₁, g, hm, hg, hrun⟩ | ⟨hm, hg⟩
  · split at hg
    · rename_i hkind
      cases hg
      cases hrun
      rcases hraw hm with hk | hk | ⟨_, hexp⟩
      · rw [hk] at hkind
        cases hkind
      · rw [hk] at hkind
        cases hkind
      · exact .inr (.inr ⟨rfl, hexp⟩)
    · cases hg
  · split at hg
    · cases hg
    · rename_i hkind
      rcases hraw hm with hk | hk | ⟨hk, _⟩
      · exact .inl hk
      · exact .inr (.inl hk)
      · exact absurd hk hkind

theorem token_claims_error {p : Payload} {jti : String} {e : Exc}
    (h : token_claims p jti = .error e) : e.kind = .KeyError ∨ e.kind = .ValidationError := by
  have hclaim : ∀ {α : Type} {name : String} {o : Option α}, claim name o = .error e →
      e.kind = .KeyError := by
    intro α name o ho
    cases o with
    | none =>
        cases ho
        rfl
    | some a => cases ho
  unfold token_claims at h
  rcases except_bind_eq_error h with hc | ⟨_, _, h₁⟩
  · exact .inl (hclaim hc)
  rcases except_bind_eq_error h₁ with hc | ⟨_, _, h₂⟩
  · exact .inl (hclaim hc)
  rcases except_bind_eq_error h₂ with hc | ⟨_, _, h₃⟩
  · exact .inl (hclaim hc)
  rcases except_bind_eq_error h₃ with hc | ⟨_, _, h₄⟩
  · exact .inl (hclaim hc)
  split at h₄
  · cases h₄
  · cases h₄
  · cases h₄
    exact .inr rfl

/-- **Why a token is refused**: it has expired, it is revoked, or the exception is of none of the
manager's own classes. -/
theorem validate_token_error {E : Env Tok} {token : Tok} {e : Exc} {s s' : SessionManager Tok}
    (h : validate_token E token s = .error e s') :
    e.kind = .TokenExpiredError ∧ Expired E token s ∨
      e.kind = .TokenRevokedError ∧ Revoked E token s ∨
      e.kind ∈ [.ValueError, .JWTError, .KeyError, .ValidationError] := by
  unfold validate_token at h
  rcases bind_eq_error.mp h with hd | ⟨p, s₁, hd, h₁⟩
  · rcases decode_access_token_error hd with hk | hk | hk
    · exact .inr (.inr (by simp [hk]))
    · exact .inr (.inr (by simp [hk]))
    · exact .inl hk
  obtain ⟨hs, ht, rfl⟩ := decode_access_token_ok_iff.mp hd
  cases hj : p.jti with
  | none =>
      rw [hj] at h₁
      cases h₁
      exact .inr (.inr (by simp))
  | some jti =>
      have hrun := validate_token_run hs ht hj
      unfold validate_token at hrun
      rw [hrun] at h
      split at h
      · rename_i hrev
        cases h
        exact .inr (.inl ⟨rfl, p, jti, hs, ht, hj, hrev⟩)
      · rcases token_claims_error (ofExcept_eq_error.mp h).1 with hk | hk
        · exact .inr (.inr (by simp [hk]))
        · exact .inr (.inr (by simp [hk]))

theorem validate_token_expired {E : Env Tok} {token : Tok} {s : SessionManager Tok}
    (h : Expired E token s) :
    ∃ e s', validate_token E token s = .error e s' ∧ e.kind = .TokenExpiredError := by
  obtain ⟨p, exp, ⟨key, hk, hv⟩, hnbf, hexp, hlt⟩ := h
  have h₁ : ¬ p.nbf.any (fun nbf => decide (pyInt (s.reading 0) < pyInt nbf)) = true := by
    cases hn : p.nbf with
    | none => simp
    | some nbf => simpa using hnbf nbf hn
  have h₂ : p.exp.any (fun exp => decide (pyInt exp < pyInt (s.reading 0))) = true := by
    simp [hexp, hlt]
  have hdecode : jwt_decode E token key E.settings.token_algorithm s =
      .error ⟨.ExpiredSignatureError, "Signature has expired."⟩
        { s with clock := s.clock.advance } := by
    unfold jwt_decode
    rw [bind_ok (orRaise_eq_ok.mpr ⟨hv, rfl⟩), bind_ok (time_run s)]
    rw [if_neg h₁, if_pos h₂]
    rfl
  have hblock : (do
      let key ← MonadExcept.ofExcept (verification_key E)
      jwt_decode E token key E.settings.token_algorithm : SM Tok Payload) s = _ :=
    (bind_ok (ofExcept_eq_ok.mpr ⟨hk, rfl⟩)).trans hdecode
  refine ⟨_, _, bind_error (catching_some hblock (if_pos rfl)), rfl⟩

theorem validate_token_revoked {E : Env Tok} {token : Tok} {s : SessionManager Tok}
    (h : Revoked E token s) :
    ∃ e s', validate_token E token s = .error e s' ∧ e.kind = .TokenRevokedError := by
  obtain ⟨p, jti, hs, ht, hj, hrev⟩ := h
  rw [validate_token_run hs ht hj, if_pos hrev]
  exact ⟨_, _, rfl, rfl⟩

/-! ## What a lookup keeps -/

/-- A preorder that readings of the clock keep, and purges at a reading just taken. -/
structure Lookup (P : SessionManager Tok → SessionManager Tok → Prop) : Prop where
  refl : ∀ s, P s s
  trans : ∀ s₁ s₂ s₃, P s₁ s₂ → P s₂ s₃ → P s₁ s₃
  advance : ∀ s, P s { s with clock := s.clock.advance }
  purged : ∀ s, P s (s.purged 0)

namespace Lookup

variable {P : SessionManager Tok → SessionManager Tok → Prop} (L : Lookup P)
include L

theorem time : Keeps P (time : SM Tok ℚ) := L.advance

theorem orRaise {α : Type} (e : Exc) (o : Option α) : Keeps P (orRaise e o : SM Tok α) := by
  cases o with
  | none => exact Keeps.throw L.refl e
  | some a => exact Keeps.pure L.refl a

theorem purge {α : Type} {rest : SM Tok α} (h : Keeps P rest) :
    Keeps P (do purge_expired_revocations (← AegisOs.time); rest) := by
  intro s
  have hrun : (do purge_expired_revocations (← AegisOs.time); rest) s = rest (s.purged 0) := rfl
  rw [hrun]
  exact L.trans _ _ _ (L.purged s) (h (s.purged 0))

theorem is_revoked (jti : String) : Keeps P (is_revoked jti : SM Tok Bool) :=
  L.purge (Keeps.bind L.trans (Keeps.get L.refl) fun _ => Keeps.pure L.refl _)

theorem jwt_decode (E : Env Tok) (token : Tok) (key alg : String) :
    Keeps P (jwt_decode E token key alg) := by
  refine Keeps.bind L.trans (L.orRaise _ _) fun p => ?_
  refine Keeps.bind L.trans L.time fun now => ?_
  refine Keeps.ite (Keeps.throw L.refl _) ?_
  exact Keeps.ite (Keeps.throw L.refl _) (Keeps.pure L.refl p)

theorem decode_access_token (E : Env Tok) (token : Tok) :
    Keeps P (decode_access_token E token) := by
  refine Keeps.catching L.trans ?_ ?_
  · exact Keeps.bind L.trans (Keeps.ofExcept L.refl _) fun key => L.jwt_decode E _ _ _
  · intro e h he
    split at he
    · cases he
      exact Keeps.throw L.refl _
    · cases he

theorem validate_token (E : Env Tok) (token : Tok) : Keeps P (validate_token E token) := by
  refine Keeps.bind L.trans (L.decode_access_token E token) fun p => ?_
  refine Keeps.bind L.trans (Keeps.ofExcept L.refl _) fun jti => ?_
  refine L.purge ?_
  refine Keeps.bind L.trans (L.is_revoked jti) fun b => ?_
  exact Keeps.ite (Keeps.throw L.refl _) (Keeps.ofExcept L.refl _)

end Lookup

/-! ## `revoke_token` and `revoke_jti` -/

theorem revoke_jti_some_run (E : Env Tok) (jti : String) (e : ℚ) (s : SessionManager Tok) :
    revoke_jti E jti (some e) s = .ok () { s with revoked_jtis := Ttl.insert jti e s.revoked_jtis } :=
  rfl

/-- A token without an identifier is not revoked, and nothing changes. -/
theorem revoke_token_error {E : Env Tok} {token : Tok} {s : SessionManager Tok}
    (h : ∀ p, E.jose.get_unverified_claims token = some p → p.jti = none) :
    ∃ e, revoke_token E token s = .error e s := by
  unfold revoke_token
  cases hp : E.jose.get_unverified_claims token with
  | none => exact ⟨_, bind_error (throw_run _ s)⟩
  | some p =>
      have hkey : (MonadExcept.ofExcept (claim "jti" p.jti) : SM Tok String) s =
          .error ⟨.KeyError, "jti"⟩ s := by
        rw [h p hp]
        rfl
      exact ⟨_, (bind_ok (pure_run p s)).trans (bind_error hkey)⟩

theorem revoke_token_run {E : Env Tok} {token : Tok} {p : Payload} {jti : String}
    (hp : E.jose.get_unverified_claims token = some p) (hj : p.jti = some jti)
    (s : SessionManager Tok) :
    revoke_token E token s = .ok jti
      { s with
        clock := s.clock.advance
        revoked_jtis := Ttl.insert jti (p.exp.getD (s.reading 0)) s.revoked_jtis } := by
  have hkey : (MonadExcept.ofExcept (claim "jti" p.jti) : SM Tok String) s = .ok jti s := by
    rw [hj]
    rfl
  unfold revoke_token
  rw [hp]
  refine (bind_ok (pure_run p s)).trans ?_
  rw [bind_ok hkey, bind_ok (time_run s), bind_ok (revoke_jti_some_run E jti _ _)]
  rfl

/-! ## `issue_token` -/

/-- The token an issue under `a` supersedes. -/
def SessionManager.previous (s : SessionManager Tok) (a : IssueArgs) : Option String :=
  a.rotation_key.bind s.rotation_index

/-- The manager once an issue has purged its table and revoked the superseded token. -/
def SessionManager.rotated (E : Env Tok) (a : IssueArgs) (s : SessionManager Tok) :
    SessionManager Tok :=
  match s.previous a with
  | none => s.purged 0
  | some jti =>
      { s.purged 1 with
        revoked_jtis := Ttl.insert jti (s.reading 1 + E.settings.token_expiry_seconds)
          (Ttl.purge (s.reading 0) s.revoked_jtis) }

/-- What an issue leaves in the rotation index. -/
def SessionManager.indexed (s : SessionManager Tok) (a : IssueArgs) (jti : String) :
    String → Option String :=
  match a.rotation_key with
  | none => s.rotation_index
  | some k => Function.update s.rotation_index k (some jti)

theorem revoke_previous_run (E : Env Tok) (a : IssueArgs) (s : SessionManager Tok) :
    revoke_previous E a (s.purged 0) = .ok () (s.rotated E a) := by
  have hp : a.rotation_key.bind (s.purged 0).rotation_index = s.previous a := rfl
  unfold revoke_previous SessionManager.rotated
  rw [bind_ok (get_run _), hp]
  cases s.previous a with
  | none => rfl
  | some jti => rfl

theorem index_rotation_run (a : IssueArgs) (jti : String) (s : SessionManager Tok) :
    index_rotation a jti s = .ok () { s with rotation_index := s.indexed a jti } := by
  unfold index_rotation SessionManager.indexed
  cases a.rotation_key with
  | none => rfl
  | some k => rfl

/-- The manager an issue ends in when it raises after the rotation. -/
def SessionManager.rotatedOnly (E : Env Tok) (a : IssueArgs) (s : SessionManager Tok) :
    SessionManager Tok :=
  { s.rotated E a with uuids_drawn := s.uuids_drawn + 1 }

/-- The manager an issue ends in when it returns. -/
def SessionManager.issued (E : Env Tok) (a : IssueArgs) (s : SessionManager Tok) :
    SessionManager Tok :=
  { s.rotatedOnly E a with rotation_index := s.indexed a (s.uuid4 s.uuids_drawn) }

/-- Rotation comes first and is not undone by a later failure; only a token that was produced is
entered in the rotation index. -/
theorem issue_token_run {E : Env Tok} {a : IssueArgs} {s : SessionManager Tok}
    (hn : ¬(a.agent_type = "" ∨ a.requester_id = "")) :
    issue_token E a s =
      match encode_access_token E a (s.uuid4 s.uuids_drawn) (s.reading 0) with
      | .ok token => .ok token (s.issued E a)
      | .error e => .error e (s.rotatedOnly E a) := by
  -- the rotation leaves the supply of identifiers and the index alone
  have hdraw : str_uuid4 (s.rotated E a) = .ok (s.uuid4 s.uuids_drawn) (s.rotatedOnly E a) := by
    unfold SessionManager.rotatedOnly SessionManager.rotated
    cases s.previous a <;> rfl
  have hindex : (s.rotatedOnly E a).rotation_index = s.rotation_index := by
    unfold SessionManager.rotatedOnly SessionManager.rotated
    cases s.previous a <;> rfl
  unfold issue_token
  rw [if_neg hn]
  have hpurge : purge_expired_revocations (s.reading 0) { s with clock := s.clock.advance } =
      .ok () (s.purged 0) := rfl
  refine (bind_ok (time_run s)).trans ?_
  refine (bind_ok hpurge).trans ?_
  rw [bind_ok (revoke_previous_run E a s), bind_ok hdraw]
  cases encode_access_token E a (s.uuid4 s.uuids_drawn) (s.reading 0) with
  | error e => exact bind_error (ofExcept_error e _)
  | ok token =>
      rw [bind_ok (ofExcept_ok token _)]
      rw [bind_ok (index_rotation_run _ _ _)]
      simp only [SessionManager.indexed, hindex, SessionManager.issued]
      rfl

theorem issue_token_empty {E : Env Tok} {a : IssueArgs} {s : SessionManager Tok}
    (hn : a.agent_type = "" ∨ a.requester_id = "") :
    issue_token E a s = .error ⟨.ValueError, "agent_type and requester_id must not be empty"⟩ s := by
  unfold issue_token
  rw [if_pos hn]
  rfl

/-- A relation is kept by an issue if it is kept by each of its three outcomes. -/
theorem keeps_issue_token {P : SessionManager Tok → SessionManager Tok → Prop} {E : Env Tok}
    {a : IssueArgs} (refl : ∀ s, P s s) (issued : ∀ s, P s (s.issued E a))
    (rotated : ∀ s, P s (s.rotatedOnly E a)) : Keeps P (issue_token E a) := by
  intro s
  by_cases hn : a.agent_type = "" ∨ a.requester_id = ""
  · rw [issue_token_empty hn]
    exact refl s
  · rw [issue_token_run hn]
    cases encode_access_token E a (s.uuid4 s.uuids_drawn) (s.reading 0) with
    | ok token => exact issued s
    | error e => exact rotated s

/-! ## What jose promises -/

/-- `get_unverified_claims` reads the claims the signature check returns. -/
def Jose.Reads (J : Jose Tok) : Prop :=
  ∀ token key alg p, J.verify token key alg = some p → J.get_unverified_claims token = some p

/-- A symbolic token: the header, the claims and the key that verifies it. -/
structure SymToken where
  header : JwtHeader
  payload : Payload
  key : String
  deriving DecidableEq

/-- jose over symbolic tokens; a key verifies what it signed. -/
def symbolicJose : Jose SymToken where
  compact t := t.key ++ ":" ++ t.payload.jti.getD ""
  get_unverified_header t := some t.header
  get_unverified_claims t := some t.payload
  verify t key alg := if t.key = key ∧ t.header.alg = some alg then some t.payload else none
  encode header payload key := some ⟨header, payload, key⟩

theorem symbolicJose_reads : symbolicJose.Reads := by
  intro token key alg p h
  simp only [symbolicJose] at h ⊢
  split at h
  · exact h
  · cases h

/-- The symbolic jose with settings of choice; every key has the PEM "pem". -/
def symbolicEnv (settings : Settings) : Env SymToken where
  settings := settings
  jose := symbolicJose
  crypto :=
    { sha256 := fun bs => bs
      ec_public_pem := fun _ _ _ => some "pem"
      rsa_public_pem := fun _ _ => some "pem"
      public_of_private := fun _ => some "pem" }
  upper := String.toUpper

theorem symbolicEnv_signing_key {settings : Settings} (h : settings.token_algorithm = "HS256") :
    signing_key (symbolicEnv settings) = .ok settings.token_secret_key := by
  have hs : "HS256".startsWith "HS" = true := by decide +kernel
  simp [signing_key, symbolicEnv, h, hs]

theorem symbolicEnv_verification_key {settings : Settings}
    (h : settings.token_algorithm = "HS256") :
    verification_key (symbolicEnv settings) = .ok settings.token_secret_key := by
  have hs : "HS256".startsWith "HS" = true := by decide +kernel
  simp [verification_key, symbolicEnv, h, hs]

/-- A manager that has done nothing yet. -/
def SessionManager.fresh (store : ReplayStore) (clock : Clock) (uuid4 : ℕ → String) :
    SessionManager Tok where
  revoked_jtis := fun _ => none
  rotation_index := fun _ => none
  replay_store := store
  clock := clock
  uuid4 := uuid4
  uuids_drawn := 0
  key_pairs := fun _ => ("", [])
  keys_drawn := 0
  proof_uses := []

end AegisOs
