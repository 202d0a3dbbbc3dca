/-
# `AegisOs.Governance.Rotation` — the life of an issued token

A token dies in one of two ways: its time runs out, or its identifier is
revoked.  The pipelines never name a token they want revoked; what revokes is
the next issue under the same rotation key.  So the life of a token depends on
who issues under its key, and that is what this module follows:

    `Evolves Keys`   what calls can do to a manager when they issue under the
                     keys of `Keys` only
    `FreshIds`       the identifiers still to be drawn are new
    `Held key j`     `j` is the token of `key`, no other key has it, and it is
                     not revoked

`Held key j` survives everything that leaves `key` alone (`Held.evolves`), and
for a token that is held the manager decides by the clock (`TokenOf.accepts_iff`).
-/
import AegisOs.Governance.Revocation
import Mathlib.Data.Set.Basic

namespace AegisOs

open Lib Lib.EState

variable {Tok : Type}

/-! ## What issuing under some keys can do -/

/-- The identifier was drawn on the way from `s` to `s'`. -/
def Drawn (s s' : SessionManager Tok) (jti : String) : Prop :=
  ∃ n, s.uuids_drawn ≤ n ∧ n < s'.uuids_drawn ∧ s.uuid4 n = jti

/-- Only what the keys of `Keys` had, or what has been drawn since, is revoked or moved. -/
structure Evolves (Keys : Set String) (s s' : SessionManager Tok) : Prop where
  supply : s'.uuid4 = s.uuid4
  drawn : s.uuids_drawn ≤ s'.uuids_drawn
  revoked : ∀ {jti}, s'.revoked_jtis jti ≠ none → s.revoked_jtis jti ≠ none ∨
    (∃ k ∈ Keys, s.rotation_index k = some jti) ∨ Drawn s s' jti
  index : ∀ {k jti}, s'.rotation_index k = some jti →
    s.rotation_index k = some jti ∨ k ∈ Keys ∧ Drawn s s' jti
  indexed : ∀ {k jti}, s.rotation_index k = some jti → ∃ jti', s'.rotation_index k = some jti'

namespace Evolves

variable {Keys Keys' : Set String} {s s' s₁ s₂ s₃ : SessionManager Tok}

/-- Nothing has been issued. -/
theorem of_same (huuid : s'.uuid4 = s.uuid4) (hdrawn : s.uuids_drawn ≤ s'.uuids_drawn)
    (hrevoked : ∀ jti, s.revoked_jtis jti = none → s'.revoked_jtis jti = none)
    (hindex : s'.rotation_index = s.rotation_index) : Evolves Keys s s' where
  supply := huuid
  drawn := hdrawn
  revoked := fun h => .inl fun hn => h (hrevoked _ hn)
  index := by
    intro k jti h
    rw [hindex] at h
    exact .inl h
  indexed := by
    intro k jti h
    exact ⟨jti, by rw [hindex, h]⟩

theorem refl (s : SessionManager Tok) : Evolves Keys s s :=
  of_same rfl le_rfl (fun _ h => h) rfl

theorem trans (h₁ : Evolves Keys s₁ s₂) (h₂ : Evolves Keys s₂ s₃) : Evolves Keys s₁ s₃ := by
  have hfirst : ∀ {jti}, Drawn s₁ s₂ jti → Drawn s₁ s₃ jti := by
    rintro jti ⟨n, hlo, hhi, hn⟩
    exact ⟨n, hlo, lt_of_lt_of_le hhi h₂.drawn, hn⟩
  have hsecond : ∀ {jti}, Drawn s₂ s₃ jti → Drawn s₁ s₃ jti := by
    rintro jti ⟨n, hlo, hhi, hn⟩
    rw [h₁.supply] at hn
    exact ⟨n, le_trans h₁.drawn hlo, hhi, hn⟩
  constructor
  · exact h₂.supply.trans h₁.supply
  · exact le_trans h₁.drawn h₂.drawn
  · intro jti h
    rcases h₂.revoked h with h | ⟨k, hk, hi⟩ | hd
    · rcases h₁.revoked h with h | hi | hd
      · exact .inl h
      · exact .inr (.inl hi)
      · exact .inr (.inr (hfirst hd))
    · rcases h₁.index hi with hi | ⟨_, hd⟩
      · exact .inr (.inl ⟨k, hk, hi⟩)
      · exact .inr (.inr (hfirst hd))
    · exact .inr (.inr (hsecond hd))
  · intro k jti h
    rcases h₂.index h with h | ⟨hk, hd⟩
    · rcases h₁.index h with h | ⟨hk, hd⟩
      · exact .inl h
      · exact .inr ⟨hk, hfirst hd⟩
    · exact .inr ⟨hk, hsecond hd⟩
  · intro k jti h
    obtain ⟨jti', h'⟩ := h₁.indexed h
    exact h₂.indexed h'

theorem mono (hk : Keys ⊆ Keys') (h : Evolves Keys s s') : Evolves Keys' s s' where
  supply := h.supply
  drawn := h.drawn
  revoked := by
    intro jti hr
    rcases h.revoked hr with hr | ⟨k, hmem, hi⟩ | hd
    · exact .inl hr
    · exact .inr (.inl ⟨k, hk hmem, hi⟩)
    · exact .inr (.inr hd)
  index := by
    intro k jti hi
    rcases h.index hi with hi | ⟨hmem, hd⟩
    · exact .inl hi
    · exact .inr ⟨hk hmem, hd⟩
  indexed := h.indexed

theorem lookup : Lookup (@Evolves Tok Keys) where
  refl := refl
  trans := fun _ _ _ => trans
  advance := fun _ => of_same rfl le_rfl (fun _ h => h) rfl
  purged := fun _ => of_same rfl le_rfl (fun _ h => Ttl.purge_of_none _ h) rfl

theorem validate_token (E : Env Tok) (token : Tok) :
    Keeps (Evolves Keys) (AegisOs.validate_token E token) := lookup.validate_token E token

theorem generate_dpop_key_pair :
    Keeps (Evolves Keys) (AegisOs.generate_dpop_key_pair : SM Tok (String × Jwk)) :=
  fun _ => of_same rfl le_rfl (fun _ h => h) rfl

theorem issue_dpop_proof (E : Env Tok) (pem : String) (jwk : Jwk) (method url : String)
    (token : Option Tok) (nonce : Option String) :
    Keeps (Evolves Keys) (AegisOs.issue_dpop_proof E pem jwk method url token nonce) := by
  have hdraw : Keeps (Evolves Keys) (str_uuid4 : SM Tok String) :=
    fun _ => of_same rfl (Nat.le_succ _) (fun _ h => h) rfl
  refine Keeps.bind lookup.trans lookup.time fun now => ?_
  exact Keeps.bind lookup.trans hdraw fun jti => lookup.orRaise _ _

end Evolves

/-! ### `issue_token` -/

section
variable {E : Env Tok} {a : IssueArgs} {s : SessionManager Tok}

@[simp] theorem SessionManager.rotated_uuid4 : (s.rotated E a).uuid4 = s.uuid4 := by
  unfold SessionManager.rotated
  cases s.previous a <;> rfl

@[simp] theorem SessionManager.rotated_rotation_index :
    (s.rotated E a).rotation_index = s.rotation_index := by
  unfold SessionManager.rotated
  cases s.previous a <;> rfl

/-- The rotation revokes the superseded token and nothing else. -/
theorem SessionManager.rotated_revoked {jti : String}
    (h : (s.rotated E a).revoked_jtis jti ≠ none) :
    s.revoked_jtis jti ≠ none ∨ s.previous a = some jti := by
  unfold SessionManager.rotated at h
  cases hp : s.previous a with
  | none =>
      rw [hp] at h
      exact .inl fun hn => h (Ttl.purge_of_none _ hn)
  | some previous =>
      rw [hp] at h
      by_cases hj : jti = previous
      · exact .inr (congrArg some hj.symm)
      · refine .inl fun hn => h ?_
        show Ttl.insert previous _ _ jti = none
        rw [Ttl.insert_other hj]
        exact Ttl.purge_of_none _ hn

/-- An issue takes one reading, and one more when it supersedes a token. -/
theorem SessionManager.issued_reading (n : ℕ) :
    (s.issued E a).reading n = s.reading (n + if (s.previous a).isSome then 2 else 1) := by
  unfold SessionManager.issued SessionManager.rotatedOnly SessionManager.rotated
    SessionManager.reading
  cases s.previous a with
  | none => exact congrArg s.clock.reading (Nat.add_right_comm s.clock.tick 1 n)
  | some jti => exact congrArg s.clock.reading (Nat.add_right_comm s.clock.tick 2 n)

/-- The rotation key an issue is made under, if any. -/
def IssueArgs.keys (a : IssueArgs) : Set String := { k | a.rotation_key = some k }

theorem SessionManager.previous_eq_some {jti : String} (h : s.previous a = some jti) :
    ∃ k ∈ a.keys, s.rotation_index k = some jti := by
  unfold SessionManager.previous at h
  cases hk : a.rotation_key with
  | none =>
      rw [hk] at h
      cases h
  | some k =>
      rw [hk] at h
      exact ⟨k, hk, h⟩

theorem evolves_rotatedOnly : Evolves a.keys s (s.rotatedOnly E a) where
  supply := SessionManager.rotated_uuid4
  drawn := Nat.le_succ _
  revoked := by
    intro jti h
    rcases SessionManager.rotated_revoked h with h | hp
    · exact .inl h
    · exact .inr (.inl (SessionManager.previous_eq_some hp))
  index := by
    intro k jti h
    exact .inl (by rwa [← SessionManager.rotated_rotation_index (E := E) (a := a)])
  indexed := by
    intro k jti h
    exact ⟨jti, by rwa [← SessionManager.rotated_rotation_index (E := E) (a := a)] at h⟩

/-- What an issue leaves under a key: the new identifier under its own, the rest as it was. -/
theorem SessionManager.issued_index (k : String) :
    (s.issued E a).rotation_index k =
      if a.rotation_key = some k then some (s.uuid4 s.uuids_drawn) else s.rotation_index k := by
  show s.indexed a _ k = _
  unfold SessionManager.indexed
  cases hk : a.rotation_key with
  | none => simp
  | some k' =>
      by_cases h : k = k'
      · subst h
        simp
      · simp [h, Ne.symm h]

theorem evolves_issued : Evolves a.keys s (s.issued E a) := by
  have hr : Evolves a.keys s (s.rotatedOnly E a) := evolves_rotatedOnly
  constructor
  · exact hr.supply
  · exact hr.drawn
  · exact hr.revoked
  · intro k jti h
    rw [SessionManager.issued_index] at h
    split at h
    · rename_i hk
      cases h
      exact .inr ⟨hk, s.uuids_drawn, le_rfl, Nat.lt_succ_self _, rfl⟩
    · exact .inl h
  · intro k jti h
    rw [SessionManager.issued_index]
    split
    · exact ⟨_, rfl⟩
    · exact ⟨jti, h⟩

theorem Evolves.issue_token (E : Env Tok) (a : IssueArgs) :
    Keeps (Evolves a.keys) (AegisOs.issue_token E a) :=
  keeps_issue_token .refl (fun _ => evolves_issued) fun _ => evolves_rotatedOnly

end

/-! ## Identifiers and the keys that hold them -/

/-- The supply never repeats, and what is still to be drawn has not been used. -/
structure FreshIds (s : SessionManager Tok) : Prop where
  injective : Function.Injective s.uuid4
  unrevoked : ∀ n, s.uuids_drawn ≤ n → s.revoked_jtis (s.uuid4 n) = none
  unindexed : ∀ n, s.uuids_drawn ≤ n → ∀ k, s.rotation_index k ≠ some (s.uuid4 n)

theorem FreshIds.fresh (store : ReplayStore) (clock : Clock) {uuid4 : ℕ → String}
    (h : Function.Injective uuid4) : FreshIds (SessionManager.fresh store clock uuid4 : SessionManager Tok) where
  injective := h
  unrevoked := fun _ _ => rfl
  unindexed := by
    intro n _ k hk
    cases hk

/-- `jti` is the token of `key` and of no other key, and it has not been revoked. -/
structure Held (key jti : String) (s : SessionManager Tok) : Prop where
  current : s.rotation_index key = some jti
  live : s.revoked_jtis jti = none
  only : ∀ k, s.rotation_index k = some jti → k = key
  drawn : ∃ n < s.uuids_drawn, s.uuid4 n = jti

section
variable {Keys : Set String} {E : Env Tok} {a : IssueArgs} {key jti : String}
  {s s' : SessionManager Tok}

/-- What is drawn on the way was still to be drawn before. -/
theorem FreshIds.not_drawn (hf : FreshIds s) (he : Evolves Keys s s') {n : ℕ}
    (hn : s'.uuids_drawn ≤ n ∨ n < s.uuids_drawn) : ¬Drawn s s' (s.uuid4 n) := by
  rintro ⟨m, hlo, hhi, hm⟩
  have hmn : m = n := hf.injective hm
  have := he.drawn
  omega

theorem FreshIds.evolves (hf : FreshIds s) (he : Evolves Keys s s') : FreshIds s' := by
  constructor
  · rw [he.supply]
    exact hf.injective
  · intro n hn
    rw [he.supply]
    by_contra hr
    have hlo : s.uuids_drawn ≤ n := le_trans he.drawn hn
    rcases he.revoked hr with hr | ⟨k, _, hi⟩ | hd
    · exact hr (hf.unrevoked n hlo)
    · exact hf.unindexed n hlo k hi
    · exact hf.not_drawn he (.inl hn) hd
  · intro n hn k hi
    rw [he.supply] at hi
    have hlo : s.uuids_drawn ≤ n := le_trans he.drawn hn
    rcases he.index hi with hi | ⟨_, hd⟩
    · exact hf.unindexed n hlo k hi
    · exact hf.not_drawn he (.inl hn) hd

/-- A token stays held while others issue under other keys. -/
theorem Held.evolves (hh : Held key jti s) (hf : FreshIds s) (he : Evolves Keys s s')
    (hk : key ∉ Keys) : Held key jti s' := by
  obtain ⟨n, hn, hjti⟩ := hh.drawn
  have hnew : ¬Drawn s s' jti := by
    rw [← hjti]
    exact hf.not_drawn he (.inr hn)
  constructor
  · obtain ⟨jti', hj⟩ := he.indexed hh.current
    rcases he.index hj with hi | ⟨hmem, _⟩
    · rw [hj, ← hi, hh.current]
    · exact absurd hmem hk
  · by_contra hr
    rcases he.revoked hr with hr | ⟨k, hmem, hi⟩ | hd
    · exact hr hh.live
    · rw [hh.only k hi] at hmem
      exact hk hmem
    · exact hnew hd
  · intro k hi
    rcases he.index hi with hi | ⟨_, hd⟩
    · exact hh.only k hi
    · exact absurd hd hnew
  · exact ⟨n, lt_of_lt_of_le hn he.drawn, by rw [he.supply, hjti]⟩

/-- The key an issue is made under holds the token issued. -/
theorem held_issued (hf : FreshIds s) (hk : a.rotation_key = some key) :
    Held key (s.uuid4 s.uuids_drawn) (s.issued E a) := by
  constructor
  · rw [SessionManager.issued_index, if_pos hk]
  · by_contra hr
    rcases SessionManager.rotated_revoked hr with hr | hp
    · exact hr (hf.unrevoked _ le_rfl)
    · obtain ⟨k, _, hi⟩ := SessionManager.previous_eq_some hp
      exact hf.unindexed _ le_rfl k hi
  · intro k hi
    rw [SessionManager.issued_index] at hi
    split at hi
    · rename_i hk'
      rw [hk] at hk'
      cases hk'
      rfl
    · exact absurd hi (hf.unindexed _ le_rfl k)
  · exact ⟨s.uuids_drawn, Nat.lt_succ_self _, congrFun SessionManager.rotated_uuid4 _⟩

end

/-! ## When a held token is accepted -/

/-- What a verified token carries is what was encoded. -/
def Jose.Encodes (J : Jose Tok) : Prop :=
  ∀ header p key token key' alg p', J.encode header p key = some token →
    J.verify token key' alg = some p' → p' = p

theorem symbolicJose_encodes : symbolicJose.Encodes := by
  intro header p key token key' alg p' he hv
  cases he
  simp only [symbolicJose] at hv
  split at hv
  · cases hv
    rfl
  · cases hv

/-- A token `issue_token` signed at the reading `t`, for the configured lifetime. -/
def TokenOf (E : Env Tok) (token : Tok) (jti : String) (t : ℚ) : Prop :=
  ∃ a cnf, a.expires_in_seconds = none ∧ cnf ≠ some none ∧
    Signed E token (issued_claims E a jti t cnf)

section
variable {E : Env Tok} {a : IssueArgs} {token : Tok} {jti : String} {t : ℚ}
  {s s' : SessionManager Tok}

/-- **The life of a token.**  While its identifier is not revoked the token is accepted until the
second in which its lifetime ends. -/
theorem TokenOf.accepts_iff (h : TokenOf E token jti t) (hl : s.revoked_jtis jti = none) :
    Accepts E token s ↔ pyInt (s.reading 0) ≤ pyInt (t + E.settings.token_expiry_seconds) := by
  obtain ⟨a, cnf, hexp, hcnf, hs⟩ := h
  have hclaims : (issued_claims E a jti t cnf).exp = some (t + E.settings.token_expiry_seconds) := by
    simp [issued_claims, hexp]
  constructor
  · rintro ⟨c, s', hv⟩
    obtain ⟨p, _, hp, ht, _⟩ := validate_token_ok_iff.mp hv
    rw [hp.unique hs] at ht
    exact ht.2 _ hclaims
  · intro hle
    have hc : ∃ c, token_claims (issued_claims E a jti t cnf) jti = .ok c := by
      match cnf, hcnf with
      | none, _ => exact ⟨_, rfl⟩
      | some (some jkt), _ => exact ⟨_, rfl⟩
      | some none, h => exact absurd rfl h
    obtain ⟨c, hc⟩ := hc
    refine ⟨c, _, validate_token_ok_iff.mpr
      ⟨_, jti, hs, ⟨?_, ?_⟩, rfl, Ttl.purge_of_none _ hl, hc, rfl⟩⟩
    · intro nbf hn
      cases hn
    · intro exp he
      rw [hclaims] at he
      cases he
      exact hle

theorem encode_access_token_ok {now : ℚ} (h : encode_access_token E a jti now = .ok token) :
    ∃ cnf key, cnf ≠ some none ∧ signing_key E = .ok key ∧
      E.jose.encode { typ := some "JWT", alg := some E.settings.token_algorithm }
        (issued_claims E a jti now cnf) key = some token := by
  obtain ⟨cnf, hcnf, h⟩ := except_bind_eq_ok h
  obtain ⟨key, hkey, h⟩ := except_bind_eq_ok h
  refine ⟨cnf, key, ?_, hkey, ?_⟩
  · unfold confirmation at hcnf
    split at hcnf
    · cases hcnf
      simp
    · obtain ⟨jkt, _, rfl⟩ := except_map_eq_ok hcnf
      simp
  · split at h
    · rename_i hencode
      cases h
      exact hencode
    · cases h

/-- A successful issue, and where it ends. -/
theorem issue_token_eq_ok (h : issue_token E a s = .ok token s') :
    s' = s.issued E a ∧ encode_access_token E a (s.uuid4 s.uuids_drawn) (s.reading 0) = .ok token := by
  by_cases hn : a.agent_type = "" ∨ a.requester_id = ""
  · rw [issue_token_empty hn] at h
    cases h
  · rw [issue_token_run hn] at h
    cases he : encode_access_token E a (s.uuid4 s.uuids_drawn) (s.reading 0) with
    | ok token' =>
        rw [he] at h
        cases h
        exact ⟨rfl, rfl⟩
    | error e =>
        rw [he] at h
        cases h

/-- Issued, and validated at any time since: the token is one of the manager's own. -/
theorem tokenOf_issued (hJ : E.jose.Encodes) (hexp : a.expires_in_seconds = none)
    (hi : issue_token E a s = .ok token s') (hacc : ∃ s₁, Accepts E token s₁) :
    TokenOf E token (s.uuid4 s.uuids_drawn) (s.reading 0) := by
  obtain ⟨_, hencode⟩ := issue_token_eq_ok hi
  obtain ⟨cnf, key, hcnf, _, hencode⟩ := encode_access_token_ok hencode
  obtain ⟨s₁, c, s₂, hv⟩ := hacc
  obtain ⟨p, _, ⟨key', hkey, hverify⟩, _⟩ := validate_token_ok_iff.mp hv
  have hp := hJ _ _ _ _ _ _ _ hencode hverify
  exact ⟨a, cnf, hexp, hcnf, key', hkey, hp ▸ hverify⟩

/-- A successful validation takes three readings. -/
theorem validate_token_reading {c : TokenClaims} (h : validate_token E token s = .ok c s') (n : ℕ) :
    s'.reading n = s.reading (n + 3) := by
  obtain ⟨_, _, _, _, _, _, _, rfl⟩ := validate_token_ok_iff.mp h
  exact congrArg s.clock.reading (by show s.clock.tick + 2 + 1 + n = _; omega)

end

end AegisOs
