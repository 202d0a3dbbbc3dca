/-
# `AegisOs.Governance.Issuance` — when tokens can be issued

A token is issued and accepted at once, unless the keys do not match, an
identifier repeats, or the clock runs through the token's lifetime in between.
The first is a matter of configuration (`KeysMatch`); the other two are about
the manager and its surroundings:

    `Able E protect k`   identifiers are fresh, the next `k` readings of the
                         clock lie within one lifetime, and the key pairs to
                         come are good if they are needed
    `Live E token k`     the token is accepted during the next `k` readings

Every method of the manager that the pipelines use is a rule that spends some
of the `k` readings, so a sequence of calls goes through when the readings it
takes add up.
-/
import AegisOs.Governance.Rotation

namespace AegisOs

open Lib Lib.EState

variable {Tok : Type}

/-! ## Keys -/

/-- What a pair of keys can do for one set of claims it can do for any other. -/
def Jose.Uniform (J : Jose Tok) : Prop :=
  ∀ header p key token key' alg, J.encode header p key = some token →
    (J.verify token key' alg).isSome = true →
    ∀ p', ∃ token', J.encode header p' key = some token' ∧ J.verify token' key' alg = some p'

theorem symbolicJose_uniform : symbolicJose.Uniform := by
  intro header p key token key' alg he hv p'
  cases he
  simp only [symbolicJose] at hv ⊢
  split at hv
  · rename_i hmatch
    exact ⟨_, rfl, if_pos hmatch⟩
  · cases hv

/-- The configured keys accept what they sign. -/
def KeysMatch (E : Env Tok) : Prop :=
  ∃ key key' p token, signing_key E = .ok key ∧ verification_key E = .ok key' ∧
    E.jose.encode { typ := some "JWT", alg := some E.settings.token_algorithm } p key = some token ∧
    (E.jose.verify token key' E.settings.token_algorithm).isSome = true

/-- A key pair to which a token can be bound, and that signs proofs. -/
def GoodPair (E : Env Tok) (pair : String × Jwk) : Prop :=
  (∃ jkt, public_jwk_thumbprint E.crypto pair.2 = .ok jkt) ∧
    ∀ p, ∃ proof, E.jose.encode
      { typ := some "dpop+jwt", alg := some "ES256", jwk := some pair.2 } p pair.1 = some proof

/-! ## The manager -/

/-- See the header. -/
structure Able (E : Env Tok) (protect : Bool) (k : ℕ) (s : SessionManager Tok) : Prop where
  ids : FreshIds s
  in_time : pyInt (s.reading k) ≤ pyInt (s.reading 0 + E.settings.token_expiry_seconds)
  pairs : protect = true → ∀ n, GoodPair E (s.key_pairs n)

/-- See the header. -/
def Live (E : Env Tok) (token : Tok) (k : ℕ) (s : SessionManager Tok) : Prop :=
  ∃ jti t, TokenOf E token jti t ∧ s.revoked_jtis jti = none ∧
    pyInt (s.reading k) ≤ pyInt (t + E.settings.token_expiry_seconds)

section
variable {E : Env Tok} {protect : Bool} {k : ℕ} {a : IssueArgs} {token : Tok} {c : TokenClaims}
  {s s' : SessionManager Tok}

/-- `j` readings later. -/
theorem Able.later {j K : ℕ} (hs : Able E protect K s) (hids : FreshIds s')
    (hreading : ∀ n, s'.reading n = s.reading (n + j)) (hK : k + j ≤ K)
    (hpairs : s'.key_pairs = s.key_pairs) :
    Able E protect k s' where
  ids := hids
  in_time := by
    have hlast : s'.reading k ≤ s.reading K := by
      rw [hreading]
      exact s.reading_mono hK
    have hfirst : s.reading 0 ≤ s'.reading 0 := by
      rw [hreading]
      exact s.reading_mono (Nat.zero_le _)
    have hsum : s.reading 0 + E.settings.token_expiry_seconds ≤
        s'.reading 0 + E.settings.token_expiry_seconds := by
      linarith
    exact le_trans (pyInt_mono hlast) (le_trans hs.in_time (pyInt_mono hsum))
  pairs := by
    rw [hpairs]
    exact hs.pairs

theorem Live.accepts (h : Live E token k s) : Accepts E token s := by
  obtain ⟨jti, t, htoken, hrevoked, htime⟩ := h
  refine (htoken.accepts_iff hrevoked).mpr (le_trans (pyInt_mono ?_) htime)
  exact s.reading_mono (Nat.zero_le k)

/-! ## The methods, and the readings they take -/

theorem confirmation_ne {cnf : Option (Option String)} (h : confirmation E a = .ok cnf) :
    cnf ≠ some none := by
  unfold confirmation at h
  split at h
  · cases h
    simp
  · obtain ⟨jkt, _, rfl⟩ := except_map_eq_ok h
    simp

theorem GoodPair.confirmation {pair : String × Jwk} (h : GoodPair E pair) :
    ∃ cnf, AegisOs.confirmation E { a with confirmation_jwk := some pair.2 } = .ok cnf := by
  obtain ⟨jkt, hjkt⟩ := h.1
  refine ⟨some (some jkt), ?_⟩
  show (public_jwk_thumbprint E.crypto pair.2).map _ = _
  rw [hjkt]
  rfl

/-- What an issue does when the keys match. -/
theorem issue_token_matched (hJ : E.jose.Uniform) (hkeys : KeysMatch E)
    (hn : ¬(a.agent_type = "" ∨ a.requester_id = "")) (hexp : a.expires_in_seconds = none)
    (hcnf : ∃ cnf, confirmation E a = .ok cnf) :
    ∃ token, issue_token E a s = .ok token (s.issued E a) ∧
      TokenOf E token (s.uuid4 s.uuids_drawn) (s.reading 0) := by
  obtain ⟨cnf, hcnf⟩ := hcnf
  obtain ⟨sk, vk, p, t₀, hsk, hvk, hencode₀, hverify₀⟩ := hkeys
  obtain ⟨token, hencode, hverify⟩ := hJ _ _ _ _ _ _ hencode₀ hverify₀
    (issued_claims E a (s.uuid4 s.uuids_drawn) (s.reading 0) cnf)
  have haccess : encode_access_token E a (s.uuid4 s.uuids_drawn) (s.reading 0) = .ok token := by
    simp only [encode_access_token, hcnf, hsk, bind, Except.bind, hencode]
  refine ⟨token, ?_, a, cnf, hexp, confirmation_ne hcnf, vk, hvk, hverify⟩
  rw [issue_token_run hn, haccess]

theorem issued_key_pairs : (s.issued E a).key_pairs = s.key_pairs := by
  show (s.rotated E a).key_pairs = _
  unfold SessionManager.rotated
  cases s.previous a <;> rfl

/-- The identifier an issue draws is not the one it revokes. -/
theorem issued_unrevoked (hf : FreshIds s) :
    (s.issued E a).revoked_jtis (s.uuid4 s.uuids_drawn) = none := by
  by_contra hr
  rcases SessionManager.rotated_revoked hr with hr | hp
  · exact hr (hf.unrevoked _ le_rfl)
  · obtain ⟨key, _, hi⟩ := SessionManager.previous_eq_some hp
    exact hf.unindexed _ le_rfl key hi

theorem returns_issue_token (hJ : E.jose.Uniform) (hkeys : KeysMatch E)
    (hs : Able E protect (k + 2) s) (hn : ¬(a.agent_type = "" ∨ a.requester_id = ""))
    (hexp : a.expires_in_seconds = none) (hcnf : ∃ cnf, confirmation E a = .ok cnf) :
    Returns (fun token s' => Able E protect k s' ∧ Live E token k s') (issue_token E a) s := by
  obtain ⟨token, hissue, htoken⟩ := issue_token_matched (s := s) hJ hkeys hn hexp hcnf
  have hread : ∀ n, (s.issued E a).reading n = s.reading (n + if (s.previous a).isSome then 2 else 1) :=
    SessionManager.issued_reading
  have hspent : k + (if (s.previous a).isSome then 2 else 1) ≤ k + 2 := by
    split <;> omega
  refine ⟨token, s.issued E a, hissue, ?_, _, _, htoken, issued_unrevoked hs.ids, ?_⟩
  · exact hs.later (hs.ids.evolves evolves_issued) hread hspent issued_key_pairs
  · refine le_trans (pyInt_mono ?_) hs.in_time
    rw [hread]
    exact s.reading_mono hspent

theorem returns_validate_token {j : ℕ} (hs : Able E protect (k + 3) s) (hlive : Live E token j s) :
    Returns (fun _ s' => Able E protect k s') (validate_token E token) s := by
  obtain ⟨c, s', hvalid⟩ := hlive.accepts
  have hpairs : s'.key_pairs = s.key_pairs := by
    obtain ⟨_, _, _, _, _, _, _, rfl⟩ := validate_token_ok_iff.mp hvalid
    rfl
  refine ⟨c, s', hvalid, hs.later (j := 3) ?_ (validate_token_reading hvalid) le_rfl hpairs⟩
  have hkeep : Keeps (Evolves ∅) (validate_token E token) := Evolves.validate_token E token
  exact hs.ids.evolves (hkeep.ok hvalid)

theorem returns_generate_dpop_key_pair (hs : Able E true k s) :
    Returns (fun pair s' => GoodPair E pair ∧ Able E true k s') generate_dpop_key_pair s := by
  have hkeep : Keeps (Evolves ∅) (generate_dpop_key_pair : SM Tok (String × Jwk)) :=
    Evolves.generate_dpop_key_pair
  exact ⟨_, _, rfl, hs.pairs rfl _,
    hs.later (j := 0) (hs.ids.evolves (hkeep s)) (fun n => rfl) le_rfl rfl⟩

theorem returns_issue_dpop_proof {pair : String × Jwk} {method url : String} {presented : Option Tok}
    {nonce : Option String} (hpair : GoodPair E pair) (hlive : Live E token (k + 1) s) :
    Returns (fun _ s' => Live E token k s')
      (issue_dpop_proof E pair.1 pair.2 method url presented nonce) s := by
  obtain ⟨jti, t, htoken, hrevoked, htime⟩ := hlive
  refine Returns.bind ⟨_, _, rfl, Returns.bind ⟨_, _, rfl, ?_⟩⟩
  obtain ⟨proof, hencode⟩ := hpair.2 _
  rw [hencode]
  refine Returns.pure ⟨jti, t, htoken, hrevoked, ?_⟩
  have hread : s.clock.reading (s.clock.tick + 1 + k) = s.reading (k + 1) :=
    congrArg s.clock.reading (Nat.add_right_comm s.clock.tick 1 k)
  exact (congrArg pyInt hread).trans_le htime

/-- A token that was issued and is accepted shows that the keys match. -/
theorem keysMatch_of_accepted {s₁ : SessionManager Tok} (hi : issue_token E a s = .ok token s')
    (hacc : Accepts E token s₁) : KeysMatch E := by
  obtain ⟨_, hencode⟩ := issue_token_eq_ok hi
  obtain ⟨cnf, sk, _, hsk, hencode⟩ := encode_access_token_ok hencode
  obtain ⟨c, s₂, hv⟩ := hacc
  obtain ⟨p, _, ⟨vk, hvk, hverify⟩, _⟩ := validate_token_ok_iff.mp hv
  exact ⟨sk, vk, _, token, hsk, hvk, hencode, by rw [hverify]; rfl⟩

end

end AegisOs
