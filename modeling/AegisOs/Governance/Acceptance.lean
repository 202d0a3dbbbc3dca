/-
# `AegisOs.Governance.Acceptance` — when a sender-constrained token is accepted

`validate_sender_constrained_token` spreads its checks over three functions,
and each of them takes readings of the clock.  From a manager `s`:

    readings 0, 1, 2     `validate_token`
    reading 3            the current time, unless the caller gives it
    the next one         jose's, on the proof
    the one after        the replay store's

`Acceptable` has one field per check, and a presentation returns exactly when
all of them hold (`sender_constrained_ok_iff`).  The registration comes last,
so a presentation that is refused leaves no entry that was not there before
(`sender_constrained_error`), and a proof made for the same key, request and
token passes while it is fresh (`issued_proof_accepted`).
-/
import AegisOs.Governance.Dpop

namespace AegisOs

open Lib Lib.EState

variable {Tok : Type}

/-! ## The store -/

namespace ReplayStore

/-- The store takes registrations for `ttl` seconds: a Redis server refuses a lifetime that is not
positive. -/
def Takes (st : ReplayStore) (ttl : ℤ) : Prop :=
  match st with
  | .in_memory _ => True
  | .redis _ _ => 0 < ttl

/-- No entry that `st` does not have. -/
def Within (st' st : ReplayStore) : Prop :=
  st'.key = st.key ∧ ∀ k e, st'.table k = some e → st.table k = some e

theorem Within.refl (st : ReplayStore) : st.Within st := ⟨rfl, fun _ _ h => h⟩

/-- A registration is new exactly when nothing live is registered under the identifier. -/
theorem register_fresh_iff {st : ReplayStore} {now : ℚ} {jti : String} {ttl : ℤ}
    (ht : st.Takes ttl) :
    (∃ st', st.register_if_unused now jti ttl = .ok (true, st')) ↔ st.live now jti = none := by
  constructor
  · rintro ⟨st', h⟩
    obtain ⟨hb, -⟩ | ⟨-, hnone, -⟩ := register_cases h
    · cases hb
    · exact hnone
  · intro hnone
    cases hr : st.register_if_unused now jti ttl with
    | error e =>
        obtain ⟨hle, -⟩ := register_error hr
        cases st with
        | in_memory entries =>
            simp only [register_if_unused] at hr
            split at hr <;> cases hr
        | redis ns keys => exact absurd ht (not_lt.mpr hle)
    | ok r =>
        obtain ⟨b, st'⟩ := r
        obtain ⟨rfl, hlive, -⟩ | ⟨rfl, -⟩ := register_cases hr
        · simp [hnone] at hlive
        · exact ⟨st', rfl⟩

/-- A registration that is refused adds nothing. -/
theorem register_refused {st st' : ReplayStore} {now : ℚ} {jti : String} {ttl : ℤ}
    (h : st.register_if_unused now jti ttl = .ok (false, st')) : st'.Within st := by
  have hpurge : ∀ (m : String → Option ℚ) k e, Ttl.purge now m k = some e → m k = some e :=
    fun m k e he => (Ttl.purge_eq_some.mp he).1
  cases st with
  | in_memory entries =>
      simp only [register_if_unused] at h
      split at h
      · cases h
        exact ⟨rfl, hpurge entries⟩
      · cases h
  | redis ns keys =>
      simp only [register_if_unused] at h
      split at h
      · cases h
      · split at h
        · cases h
          exact ⟨rfl, hpurge keys⟩
        · cases h

end ReplayStore

/-! ## The checks on a proof -/

/-- The manager after `n` more readings. -/
def SessionManager.later (s : SessionManager Tok) (n : ℕ) : SessionManager Tok :=
  { s with clock := { s.clock with tick := s.clock.tick + n } }

theorem later_reading (s : SessionManager Tok) (m n : ℕ) :
    (s.later m).reading n = s.reading (m + n) := by
  simp [SessionManager.later, SessionManager.reading, Nat.add_assoc]

/-- A proof of the right type, verified at `t` under the key in its header, and its claims. -/
def ProofAt (E : Env Tok) (proof : Tok) (t : ℚ) (jwk : Jwk) (c : DPoPProofClaims) : Prop :=
  ∃ header pem p, E.jose.get_unverified_header proof = some header ∧
    header.typ = some "dpop+jwt" ∧ header.jwk = some jwk ∧
    public_pem_from_jwk E.crypto jwk = .ok pem ∧
    E.jose.verify proof pem (header.alg.getD "ES256") = some p ∧ TimeOk p t ∧
    proof_claims p = .ok c

theorem decode_dpop_proof_ok_iff {E : Env Tok} {proof : Tok} {c : DPoPProofClaims}
    {s s' : SessionManager Tok} :
    decode_dpop_proof E proof s = .ok c s' ↔
      (∃ jwk, ProofAt E proof (s.reading 0) jwk c) ∧ s' = s.later 1 := by
  unfold decode_dpop_proof
  simp only [bind_eq_ok, orRaise_eq_ok]
  constructor
  · rintro ⟨header, s₁, ⟨hh, rfl⟩, h₁⟩
    split at h₁
    · cases h₁
    · rename_i htyp
      obtain ⟨jwk, s₂, hjwk, h₂⟩ := bind_eq_ok.mp h₁
      obtain ⟨hj, rfl⟩ := orRaise_eq_ok.mp hjwk
      obtain ⟨pem, s₃, hpem, h₃⟩ := bind_eq_ok.mp h₂
      obtain ⟨hp, rfl⟩ := ofExcept_eq_ok.mp hpem
      obtain ⟨p, s₄, hv, h₄⟩ := bind_eq_ok.mp h₃
      obtain ⟨hc, rfl⟩ := ofExcept_eq_ok.mp h₄
      rw [catching_eq_ok_iff_body fun _ _ => .clause (.throw _) (.clause (.throw _) .no_clause)] at hv
      obtain ⟨hverify, ht, rfl⟩ := jwt_decode_ok_iff.mp hv
      exact ⟨⟨jwk, header, pem, p, hh, not_not.mp htyp, hj, hp, hverify, ht, hc⟩, rfl⟩
  · rintro ⟨⟨jwk, header, pem, p, hh, htyp, hj, hp, hv, ht, hc⟩, rfl⟩
    refine ⟨header, s, ⟨hh, rfl⟩, ?_⟩
    rw [if_neg (not_not.mpr htyp)]
    refine bind_eq_ok.mpr ⟨jwk, s, orRaise_eq_ok.mpr ⟨hj, rfl⟩, ?_⟩
    refine bind_eq_ok.mpr ⟨pem, s, ofExcept_eq_ok.mpr ⟨hp, rfl⟩, ?_⟩
    refine bind_eq_ok.mpr ⟨p, _, catching_ok (jwt_decode_ok_iff.mpr ⟨hv, ht, rfl⟩), ?_⟩
    exact ofExcept_eq_ok.mpr ⟨hc, rfl⟩

/-- The claims of a proof answer a request at `current_time`. -/
structure Answers (E : Env Tok) (rq : ProofRequest Tok) (current_time : ℚ) (c : DPoPProofClaims) :
    Prop where
  htm : E.upper c.htm = E.upper rq.http_method
  htu : c.htu = rq.http_url
  not_early : current_time - E.settings.dpop_proof_ttl_seconds ≤ (c.iat : ℚ)
  not_late : (c.iat : ℚ) ≤ current_time + E.settings.dpop_clock_skew_seconds
  nonce : ∀ n, rq.nonce = some n → c.nonce = some n
  ath : ∀ token, rq.access_token = some token → c.ath = some (access_token_hash E token)

theorem check_dpop_claims_ok_iff {E : Env Tok} {rq : ProofRequest Tok} {t : ℚ}
    {c : DPoPProofClaims} : check_dpop_claims E rq t c = .ok () ↔ Answers E rq t c := by
  unfold check_dpop_claims
  constructor
  · intro h
    split at h
    · cases h
    rename_i hhtm
    split at h
    · cases h
    rename_i hhtu
    split at h
    · cases h
    rename_i hiat
    split at h
    · cases h
    rename_i hnonce
    split at h
    · cases h
    rename_i hath
    push Not at hiat
    refine ⟨not_not.mp hhtm, not_not.mp hhtu, hiat.1, hiat.2, ?_, ?_⟩
    · intro n hn
      by_contra hne
      exact hnonce ⟨by simp [hn], by rwa [hn]⟩
    · intro token htok
      simpa [htok] using hath
  · rintro ⟨hhtm, hhtu, hearly, hlate, hnonce, hath⟩
    have hiat : ¬((c.iat : ℚ) < t - E.settings.dpop_proof_ttl_seconds ∨
        t + E.settings.dpop_clock_skew_seconds < (c.iat : ℚ)) := by
      push Not
      exact ⟨hearly, hlate⟩
    have hn : ¬(rq.nonce.isSome ∧ c.nonce ≠ rq.nonce) := by
      rintro ⟨hsome, hne⟩
      obtain ⟨n, hn⟩ := Option.isSome_iff_exists.mp hsome
      exact hne (by rw [hn, hnonce n hn])
    have ha : ¬(rq.access_token.any
        (fun tok => decide (c.ath ≠ some (access_token_hash E tok)))) = true := by
      cases htok : rq.access_token with
      | none => simp
      | some token => simp [hath token htok]
    rw [if_neg (not_not.mpr hhtm), if_neg (not_not.mpr hhtu), if_neg hiat, if_neg hn, if_neg ha]

/-- How many readings precede jose's on the proof. -/
def drawn (now : Option ℚ) : ℕ := if now.isSome then 0 else 1

theorem check_dpop_proof_ok_iff {E : Env Tok} {proof : Tok} {rq : ProofRequest Tok}
    {now : Option ℚ} {c : DPoPProofClaims} {s s' : SessionManager Tok} :
    check_dpop_proof E proof rq now s = .ok c s' ↔
      (∃ jwk, ProofAt E proof (s.reading (drawn now)) jwk c) ∧
        Answers E rq (now.getD (s.reading 0)) c ∧ s' = s.later (drawn now + 1) := by
  -- the current time is read unless the caller gives it
  have hrun : check_dpop_proof E proof rq now s = (do
      let c ← decode_dpop_proof E proof
      MonadExcept.ofExcept (check_dpop_claims E rq (now.getD (s.reading 0)) c)
      return c : SM Tok DPoPProofClaims) (s.later (drawn now)) := by
    cases now <;> rfl
  have hlater : (s.later (drawn now)).later 1 = s.later (drawn now + 1) := rfl
  rw [hrun, bind_eq_ok]
  simp only [decode_dpop_proof_ok_iff, later_reading, Nat.add_zero, hlater]
  constructor
  · rintro ⟨c', s₁, ⟨hp, rfl⟩, h₁⟩
    obtain ⟨u, s₂, hclaims, h₂⟩ := bind_eq_ok.mp h₁
    obtain ⟨hcheck, rfl⟩ := ofExcept_eq_ok.mp hclaims
    cases h₂
    exact ⟨hp, check_dpop_claims_ok_iff.mp hcheck, rfl⟩
  · rintro ⟨hp, hans, rfl⟩
    refine ⟨c, _, ⟨hp, rfl⟩, ?_⟩
    exact bind_eq_ok.mpr ⟨(), _, ofExcept_eq_ok.mpr ⟨check_dpop_claims_ok_iff.mpr hans, rfl⟩, rfl⟩

theorem register_if_unused_fresh_iff {jti : String} {ttl : ℤ} {s : SessionManager Tok}
    (ht : s.replay_store.Takes ttl) :
    (∃ s', register_if_unused jti ttl s = .ok true s') ↔
      s.replay_store.live (s.reading 0) jti = none := by
  rw [← ReplayStore.register_fresh_iff ht, register_if_unused_run]
  cases s.replay_store.register_if_unused (s.reading 0) jti ttl with
  | error e => simp
  | ok r =>
      obtain ⟨b, st'⟩ := r
      simp

theorem validate_dpop_proof_ok_iff {E : Env Tok} {proof : Tok} {rq : ProofRequest Tok}
    {now : Option ℚ} {c : DPoPProofClaims} {s : SessionManager Tok}
    (ht : s.replay_store.Takes E.settings.dpop_proof_ttl_seconds) :
    (∃ s', validate_dpop_proof E proof rq now s = .ok c s') ↔
      (∃ jwk, ProofAt E proof (s.reading (drawn now)) jwk c) ∧
        Answers E rq (now.getD (s.reading 0)) c ∧
          s.replay_store.live (s.reading (drawn now + 1)) c.jti = none := by
  have hfresh : (∃ s', register_if_unused c.jti E.settings.dpop_proof_ttl_seconds
      (s.later (drawn now + 1)) = .ok true s') ↔
        s.replay_store.live (s.reading (drawn now + 1)) c.jti = none :=
    register_if_unused_fresh_iff ht
  unfold validate_dpop_proof
  constructor
  · rintro ⟨s', h⟩
    obtain ⟨c', s₁, hcheck, h₁⟩ := bind_eq_ok.mp h
    obtain ⟨hproof, hans, rfl⟩ := check_dpop_proof_ok_iff.mp hcheck
    obtain ⟨fresh, s₂, hreg, h₂⟩ := bind_eq_ok.mp h₁
    cases fresh with
    | false => cases h₂
    | true =>
        cases h₂
        exact ⟨hproof, hans, hfresh.mp ⟨_, hreg⟩⟩
  · rintro ⟨hproof, hans, hlive⟩
    obtain ⟨s₂, hreg⟩ := hfresh.mpr hlive
    refine ⟨s₂, bind_eq_ok.mpr ⟨c, _, check_dpop_proof_ok_iff.mpr ⟨hproof, hans, rfl⟩, ?_⟩⟩
    exact bind_eq_ok.mpr ⟨true, _, hreg, rfl⟩

/-! ## The token and the proof together -/

/-- What a presentation of `token` with `proof` has to be, check by check. -/
structure Acceptable (E : Env Tok) (token proof : Tok) (http_method http_url : String)
    (nonce : Option String) (now : Option ℚ) (s : SessionManager Tok) (claims : TokenClaims)
    (jwk : Jwk) (c : DPoPProofClaims) : Prop where
  /-- `validate_token` accepts the token, which is bound to a key. -/
  token_ok : ∃ s₁, validate_token E token s = .ok claims s₁
  /-- That key is the one in the header of the proof. -/
  bound : ∃ jkt, claims.cnf = some jkt ∧ public_jwk_thumbprint E.crypto jwk = .ok jkt
  /-- The proof verifies under it. -/
  proof_ok : ProofAt E proof (s.reading (3 + drawn now)) jwk c
  htm : E.upper c.htm = E.upper http_method
  htu : c.htu = http_url
  ath : c.ath = some (access_token_hash E token)
  nonce_ok : ∀ n, nonce = some n → c.nonce = some n
  not_early : now.getD (s.reading 3) - E.settings.dpop_proof_ttl_seconds ≤ (c.iat : ℚ)
  not_late : (c.iat : ℚ) ≤ now.getD (s.reading 3) + E.settings.dpop_clock_skew_seconds
  unused : s.replay_store.live (s.reading (3 + drawn now + 1)) c.jti = none

theorem purged_reading (s : SessionManager Tok) (n : ℕ) :
    (s.purged 2).reading n = s.reading (3 + n) := by
  simp only [SessionManager.purged, SessionManager.reading]
  congr 1
  omega

/-- **When a presentation is accepted**: exactly when every check passes. -/
theorem sender_constrained_ok_iff {E : Env Tok} {token proof : Tok} {http_method http_url : String}
    {nonce : Option String} {now : Option ℚ} {s : SessionManager Tok} {claims : TokenClaims}
    (ht : s.replay_store.Takes E.settings.dpop_proof_ttl_seconds) :
    (∃ s', validate_sender_constrained_token E token proof http_method http_url nonce now s =
        .ok claims s') ↔
      ∃ jwk c, Acceptable E token proof http_method http_url nonce now s claims jwk c := by
  have ht' : (s.purged 2).replay_store.Takes E.settings.dpop_proof_ttl_seconds := ht
  unfold validate_sender_constrained_token
  constructor
  · rintro ⟨s', h⟩
    obtain ⟨claims', s₁, htoken, h₁⟩ := bind_eq_ok.mp h
    obtain ⟨_, _, -, -, -, -, -, rfl⟩ := validate_token_ok_iff.mp htoken
    obtain ⟨jkt, s₂, hcnf, h₂⟩ := bind_eq_ok.mp h₁
    obtain ⟨hjkt, rfl⟩ := orRaise_eq_ok.mp hcnf
    obtain ⟨header, s₃, hhead, h₃⟩ := bind_eq_ok.mp h₂
    obtain ⟨hheader, rfl⟩ := orRaise_eq_ok.mp hhead
    obtain ⟨jwk, s₄, hkey, h₄⟩ := bind_eq_ok.mp h₃
    obtain ⟨hjwk, rfl⟩ := orRaise_eq_ok.mp hkey
    obtain ⟨jkt', s₅, hprint, h₅⟩ := bind_eq_ok.mp h₄
    obtain ⟨hthumb, rfl⟩ := ofExcept_eq_ok.mp hprint
    split at h₅
    · cases h₅
    · rename_i heq
      obtain ⟨c, s₆, hproof, h₆⟩ := bind_eq_ok.mp h₅
      cases h₆
      obtain ⟨⟨jwk', hat⟩, hans, hlive⟩ := (validate_dpop_proof_ok_iff ht').mp ⟨_, hproof⟩
      -- the header of the proof was read twice
      have hsame : jwk' = jwk := by
        obtain ⟨header', _, _, hh', -, hj', -⟩ := hat
        rw [hheader] at hh'
        cases hh'
        exact Option.some.inj (hj'.symm.trans hjwk)
      subst hsame
      rw [purged_reading] at hat hans hlive
      exact ⟨jwk', c, ⟨_, htoken⟩, ⟨jkt, hjkt, by rw [hthumb, not_not.mp heq]⟩, hat, hans.htm,
        hans.htu, hans.ath token rfl, hans.nonce, hans.not_early, hans.not_late, hlive⟩
  · rintro ⟨jwk, c, ⟨s₁, htoken⟩, ⟨jkt, hjkt, hthumb⟩, hat, hhtm, hhtu, hath, hnonce, hearly, hlate,
      hlive⟩
    have hs₁ : s₁ = s.purged 2 := by
      obtain ⟨_, _, -, -, -, -, -, hs₁⟩ := validate_token_ok_iff.mp htoken
      exact hs₁
    subst hs₁
    obtain ⟨s₂, hrun⟩ : ∃ s₂, validate_dpop_proof E proof
        { http_method := http_method, http_url := http_url, access_token := some token,
          nonce := nonce } now (s.purged 2) = .ok c s₂ := by
      refine (validate_dpop_proof_ok_iff ht').mpr ?_
      simp only [purged_reading]
      exact ⟨⟨jwk, hat⟩, ⟨hhtm, hhtu, hearly, hlate, hnonce,
        fun _ heq => Option.some.inj heq ▸ hath⟩, hlive⟩
    obtain ⟨header, _, _, hheader, -, hjwk, -⟩ := hat
    refine ⟨{ s₂ with proof_uses := s₂.proof_uses ++ [(jkt, token)] },
      bind_eq_ok.mpr ⟨claims, _, htoken, ?_⟩⟩
    refine bind_eq_ok.mpr ⟨jkt, _, orRaise_eq_ok.mpr ⟨hjkt, rfl⟩, ?_⟩
    refine bind_eq_ok.mpr ⟨header, _, orRaise_eq_ok.mpr ⟨hheader, rfl⟩, ?_⟩
    refine bind_eq_ok.mpr ⟨jwk, _, orRaise_eq_ok.mpr ⟨hjwk, rfl⟩, ?_⟩
    refine bind_eq_ok.mpr ⟨jkt, _, ofExcept_eq_ok.mpr ⟨hthumb, rfl⟩, ?_⟩
    rw [if_neg (not_not.mpr rfl)]
    exact bind_eq_ok.mpr ⟨c, _, hrun, rfl⟩

/-! ## What a refusal leaves behind -/

/-- The store is left alone. -/
def SameStore (s s' : SessionManager Tok) : Prop := s'.replay_store = s.replay_store

theorem sameStore_lookup : Lookup (@SameStore Tok) where
  refl _ := rfl
  trans _ _ _ h₁ h₂ := h₂.trans h₁
  advance _ := rfl
  purged _ := rfl

theorem sameStore_check_dpop_proof (E : Env Tok) (proof : Tok) (rq : ProofRequest Tok)
    (now : Option ℚ) : Keeps SameStore (check_dpop_proof E proof rq now) := by
  have hdecode : Keeps SameStore (decode_dpop_proof E proof) :=
    (elapses_decode_dpop_proof E proof).mono fun _ _ h => h.1
  have hrest : ∀ t, Keeps SameStore (do
      let c ← decode_dpop_proof E proof
      MonadExcept.ofExcept (check_dpop_claims E rq t c)
      return c : SM Tok DPoPProofClaims) := by
    intro t
    refine Keeps.bind sameStore_lookup.trans hdecode fun c => ?_
    refine Keeps.bind sameStore_lookup.trans (Keeps.ofExcept sameStore_lookup.refl _) fun _ => ?_
    exact Keeps.pure sameStore_lookup.refl c
  cases now with
  | none => exact Keeps.bind sameStore_lookup.trans sameStore_lookup.time hrest
  | some t => exact hrest t

theorem validate_dpop_proof_error {E : Env Tok} {proof : Tok} {rq : ProofRequest Tok}
    {now : Option ℚ} {e : Exc} {s s' : SessionManager Tok}
    (h : validate_dpop_proof E proof rq now s = .error e s') :
    s'.replay_store.Within s.replay_store := by
  unfold validate_dpop_proof at h
  obtain hcheck | ⟨c, s₁, hcheck, h₁⟩ := bind_eq_error.mp h
  · rw [(sameStore_check_dpop_proof E proof rq now).error hcheck]
    exact .refl _
  · have hs₁ : s₁.replay_store = s.replay_store :=
      (sameStore_check_dpop_proof E proof rq now).ok hcheck
    rw [← hs₁]
    have hrun := register_if_unused_run c.jti E.settings.dpop_proof_ttl_seconds s₁
    cases hr : s₁.replay_store.register_if_unused (s₁.reading 0) c.jti
        E.settings.dpop_proof_ttl_seconds with
    | error e' =>
        rw [hr] at hrun
        rw [bind_error hrun] at h₁
        cases h₁
        exact .refl _
    | ok r =>
        obtain ⟨b, store⟩ := r
        rw [hr] at hrun
        rw [bind_ok hrun] at h₁
        cases b with
        | true => cases h₁
        | false =>
            cases h₁
            exact ReplayStore.register_refused hr

/-- **A presentation that is refused registers nothing**, whatever it is refused for. -/
theorem sender_constrained_error {E : Env Tok} {token proof : Tok} {http_method http_url : String}
    {nonce : Option String} {now : Option ℚ} {e : Exc} {s s' : SessionManager Tok}
    (h : validate_sender_constrained_token E token proof http_method http_url nonce now s =
      .error e s') : s'.replay_store.Within s.replay_store := by
  unfold validate_sender_constrained_token at h
  obtain htoken | ⟨claims, s₁, htoken, h₁⟩ := bind_eq_error.mp h
  · rw [(sameStore_lookup.validate_token E token).error htoken]
    exact .refl _
  have hs₁ : s₁.replay_store = s.replay_store := (sameStore_lookup.validate_token E token).ok htoken
  rw [← hs₁]
  obtain hcnf | ⟨jkt, s₂, hcnf, h₂⟩ := bind_eq_error.mp h₁
  · rw [(orRaise_eq_error.mp hcnf).2.2]
    exact .refl _
  obtain ⟨-, rfl⟩ := orRaise_eq_ok.mp hcnf
  obtain hhead | ⟨header, s₃, hhead, h₃⟩ := bind_eq_error.mp h₂
  · rw [(orRaise_eq_error.mp hhead).2.2]
    exact .refl _
  obtain ⟨-, rfl⟩ := orRaise_eq_ok.mp hhead
  obtain hkey | ⟨jwk, s₄, hkey, h₄⟩ := bind_eq_error.mp h₃
  · rw [(orRaise_eq_error.mp hkey).2.2]
    exact .refl _
  obtain ⟨-, rfl⟩ := orRaise_eq_ok.mp hkey
  obtain hprint | ⟨jkt', s₅, hprint, h₅⟩ := bind_eq_error.mp h₄
  · rw [(ofExcept_eq_error.mp hprint).2]
    exact .refl _
  obtain ⟨-, rfl⟩ := ofExcept_eq_ok.mp hprint
  split at h₅
  · cases h₅
    exact .refl _
  · obtain hproof | ⟨c, s₆, -, h₆⟩ := bind_eq_error.mp h₅
    · exact validate_dpop_proof_error hproof
    · cases h₆

/-! ## A fresh proof -/

/-- A private key and its JWK: what is signed with the key carries its header, and verifies under
the public key. -/
structure KeyPair (E : Env Tok) (private_key_pem : String) (jwk : Jwk) : Prop where
  header : ∀ h p proof, E.jose.encode h p private_key_pem = some proof →
    E.jose.get_unverified_header proof = some h
  verify : ∃ pem, public_pem_from_jwk E.crypto jwk = .ok pem ∧ ∀ h p proof,
    h.alg = some "ES256" → E.jose.encode h p private_key_pem = some proof →
      E.jose.verify proof pem "ES256" = some p

/-- The claims `issue_dpop_proof` signs. -/
def issued_proof_claims (E : Env Tok) (http_method http_url : String) (token : Tok)
    (nonce : Option String) (jti : String) (now : ℚ) : DPoPProofClaims where
  jti := jti
  htm := E.upper http_method
  htu := http_url
  iat := pyInt now
  ath := some (access_token_hash E token)
  nonce := nonce

theorem proof_claims_of_int (jti htm htu : String) (iat : ℤ) (ath nonce : Option String) :
    proof_claims { jti := some jti, htm := some htm, htu := some htu, iat := some (iat : ℚ),
                   ath := ath, nonce := nonce } =
      .ok { jti := jti, htm := htm, htu := htu, iat := iat, ath := ath, nonce := nonce } := by
  simp [proof_claims]

theorem issue_dpop_proof_ok {E : Env Tok} {private_key_pem : String} {jwk : Jwk}
    {http_method http_url : String} {token proof : Tok} {nonce : Option String}
    {s s' : SessionManager Tok} (hk : KeyPair E private_key_pem jwk)
    (h : issue_dpop_proof E private_key_pem jwk http_method http_url (some token) nonce s =
      .ok proof s') (t : ℚ) :
    ProofAt E proof t jwk (issued_proof_claims E http_method http_url token nonce
      (s.uuid4 s.uuids_drawn) (s.reading 0)) := by
  unfold issue_dpop_proof at h
  obtain ⟨now, s₁, ht, h₁⟩ := bind_eq_ok.mp h
  cases ht
  obtain ⟨jti, s₂, hj, h₂⟩ := bind_eq_ok.mp h₁
  cases hj
  obtain ⟨hencode, -⟩ := orRaise_eq_ok.mp h₂
  obtain ⟨pem, hpem, hverify⟩ := hk.verify
  refine ⟨_, pem, _, hk.header _ _ _ hencode, rfl, rfl, hpem, hverify _ _ _ rfl hencode, ?_,
    proof_claims_of_int _ _ _ _ _ _⟩
  -- a proof has no `nbf` and no `exp`
  exact ⟨fun _ h => (Option.some_ne_none _ h.symm).elim,
    fun _ h => (Option.some_ne_none _ h.symm).elim⟩

/-- A fresh proof for the same key, request and token is accepted within the window. -/
theorem issued_proof_accepted {E : Env Tok} {private_key_pem : String} {jwk : Jwk}
    {http_method http_url : String} {token proof : Tok} {nonce : Option String} {now : Option ℚ}
    {s₀ s₁ s : SessionManager Tok} {claims : TokenClaims} (hk : KeyPair E private_key_pem jwk)
    (hupper : E.upper (E.upper http_method) = E.upper http_method)
    (hissue : issue_dpop_proof E private_key_pem jwk http_method http_url (some token) nonce s₀ =
      .ok proof s₁)
    (ht : s.replay_store.Takes E.settings.dpop_proof_ttl_seconds)
    (htoken : ∃ s₂, validate_token E token s = .ok claims s₂)
    (hbound : ∃ jkt, claims.cnf = some jkt ∧ public_jwk_thumbprint E.crypto jwk = .ok jkt)
    (hearly : now.getD (s.reading 3) - E.settings.dpop_proof_ttl_seconds ≤ pyInt (s₀.reading 0))
    (hlate : (pyInt (s₀.reading 0) : ℚ) ≤
      now.getD (s.reading 3) + E.settings.dpop_clock_skew_seconds)
    (hfresh : s.replay_store.live (s.reading (3 + drawn now + 1)) (s₀.uuid4 s₀.uuids_drawn) =
      none) :
    ∃ s', validate_sender_constrained_token E token proof http_method http_url nonce now s =
      .ok claims s' :=
  (sender_constrained_ok_iff ht).mpr ⟨jwk, _, htoken, hbound, issue_dpop_proof_ok hk hissue _,
    hupper, rfl, rfl, fun _ hn => hn, hearly, hlate, hfresh⟩

/-- **Acceptance of sender-constrained tokens.**  A presentation is accepted exactly when every
check passes; a fresh proof for the key, request and token passes them within its window; and a
presentation that is refused registers nothing. -/
theorem sender_constrained_acceptance (E : Env Tok) (s : SessionManager Tok) :
    (s.replay_store.Takes E.settings.dpop_proof_ttl_seconds →
      ∀ (token proof : Tok) (http_method http_url : String) (nonce : Option String)
        (now : Option ℚ) (claims : TokenClaims),
        ((∃ s', validate_sender_constrained_token E token proof http_method http_url nonce now s =
            .ok claims s') ↔
          ∃ jwk c, Acceptable E token proof http_method http_url nonce now s claims jwk c) ∧
        ∀ private_key_pem jwk s₀ s₁, KeyPair E private_key_pem jwk →
          E.upper (E.upper http_method) = E.upper http_method →
          issue_dpop_proof E private_key_pem jwk http_method http_url (some token) nonce s₀ =
            .ok proof s₁ →
          (∃ s₂, validate_token E token s = .ok claims s₂) →
          (∃ jkt, claims.cnf = some jkt ∧ public_jwk_thumbprint E.crypto jwk = .ok jkt) →
          now.getD (s.reading 3) - E.settings.dpop_proof_ttl_seconds ≤ pyInt (s₀.reading 0) →
          (pyInt (s₀.reading 0) : ℚ) ≤
            now.getD (s.reading 3) + E.settings.dpop_clock_skew_seconds →
          s.replay_store.live (s.reading (3 + drawn now + 1)) (s₀.uuid4 s₀.uuids_drawn) = none →
          ∃ s', validate_sender_constrained_token E token proof http_method http_url nonce now s =
            .ok claims s') ∧
    ∀ (token proof : Tok) (http_method http_url : String) (nonce : Option String) (now : Option ℚ)
      (e : Exc) (s' : SessionManager Tok),
      validate_sender_constrained_token E token proof http_method http_url nonce now s =
        .error e s' → s'.replay_store.Within s.replay_store := by
  refine ⟨fun ht token proof http_method http_url nonce now claims => ⟨?_, ?_⟩, ?_⟩
  · exact sender_constrained_ok_iff ht
  · intro private_key_pem jwk s₀ s₁ hk hupper hissue htoken hbound hearly hlate hfresh
    exact issued_proof_accepted hk hupper hissue ht htoken hbound hearly hlate hfresh
  · intro token proof http_method http_url nonce now e s' h
    exact sender_constrained_error h

/-! ### A token and a proof made for it -/

def client_jwk : Jwk := [("kty", "EC"), ("crv", "P-256"), ("x", "AQ"), ("y", "AQ")]

/-- The thumbprint of `client_jwk`. -/
def client_jkt : String := (symbolicEnv {}).crypto.digest
  (json_dumps [("crv", "P-256"), ("kty", "EC"), ("x", "AQ"), ("y", "AQ")])

/-- A token for the client's key, good for fifteen minutes from time 0. -/
def client_token : SymToken where
  header := { typ := some "JWT", alg := some "HS256" }
  payload :=
    { jti := some "jti-0"
      sub := some "client"
      agent_type := some "general"
      allowed_actions := ["llm.invoke"]
      iat := some 0
      exp := some 900
      cnf := some (some client_jkt) }
  key := "change-me-in-production-use-a-strong-random-key"

/-- A manager at time 0. -/
def client_manager : SessionManager SymToken :=
  SessionManager.fresh (.in_memory fun _ => none) (.still 0) (fun _ => "proof-0")

theorem client_key_pair : KeyPair (symbolicEnv {}) "pem" client_jwk where
  header := by
    intro h p proof hp
    cases hp
    rfl
  verify := by
    refine ⟨"pem", by decide +kernel, ?_⟩
    intro h p proof halg hp
    cases hp
    simp [symbolicEnv, symbolicJose, halg]

theorem client_token_valid : ∃ claims s', claims.cnf = some client_jkt ∧
    validate_token (symbolicEnv {}) client_token client_manager = .ok claims s' := by
  refine ⟨_, _, ?_, validate_token_ok_iff.mpr ⟨client_token.payload, "jti-0",
    ⟨_, symbolicEnv_verification_key rfl, rfl⟩, ⟨?_, ?_⟩, rfl, rfl, rfl, rfl⟩⟩
  · rfl
  · exact fun _ h => (Option.some_ne_none _ h.symm).elim
  · intro exp h
    cases h
    exact pyInt_mono (by decide +kernel)

/-- The client's proof passes every check. -/
theorem client_proof_acceptable : ∃ proof claims jwk c,
    Acceptable (symbolicEnv {}) client_token proof "POST" "https://aegis.local/tasks" none none
      client_manager claims jwk c := by
  obtain ⟨claims, s', hcnf, hvalid⟩ := client_token_valid
  obtain ⟨proof, s₁, hissue⟩ : ∃ proof s₁, issue_dpop_proof (symbolicEnv {}) "pem" client_jwk "POST"
      "https://aegis.local/tasks" (some client_token) none client_manager = .ok proof s₁ :=
    ⟨_, _, rfl⟩
  have hacc := (sender_constrained_acceptance (symbolicEnv {}) client_manager).1 trivial
    client_token proof "POST" "https://aegis.local/tasks" none none claims
  refine ⟨proof, claims, hacc.1.mp (hacc.2 "pem" client_jwk client_manager s₁ client_key_pair ?_
    hissue ⟨s', hvalid⟩ ⟨client_jkt, hcnf, rfl⟩ ?_ ?_ rfl)⟩
  · decide +kernel
  · decide +kernel
  · decide +kernel

end AegisOs
