/-
# `AegisOs.Governance.Supersession` — a superseded token stays refused

An issue under a rotation key revokes the token the key had, for one lifetime
from then on.  This module follows that entry through whatever the manager is
asked afterwards, up to a deadline `t` within one lifetime:

    `Current key j`   the key has the identifier `j`
    `Dead t j`        `j` is revoked until `t` at least, or `t` has passed
    `Proceeds E`      what every call can do: identifiers are drawn and time
                      passes, the dead stay dead, and what a key had it still
                      has or it is dead

The issue itself turns `Current` into `Dead` (`issue_supersedes`), and before the
deadline a dead token is not accepted (`Dead.not_accepts`).  Nothing here depends
on who issues under the key.
-/
import AegisOs.Governance.Rotation

namespace AegisOs

open Lib Lib.EState

variable {Tok : Type}

/-! ## Identifiers of tokens -/

/-- What is encoded can be read without the key. -/
def Jose.Carries (J : Jose Tok) : Prop :=
  ∀ header p key token, J.encode header p key = some token → J.get_unverified_claims token = some p

theorem symbolicJose_carries : symbolicJose.Carries := by
  intro header p key token h
  cases h
  rfl

/-- The identifier in a token's claims. -/
def jti_of (E : Env Tok) (token : Tok) : Option String :=
  (E.jose.get_unverified_claims token).bind (·.jti)

/-- The identifier has been drawn. -/
def Used (jti : String) (s : SessionManager Tok) : Prop := ∃ n < s.uuids_drawn, s.uuid4 n = jti

/-! ## Superseded identifiers -/

/-- See the header. -/
def Current (key jti : String) (s : SessionManager Tok) : Prop := s.rotation_index key = some jti

/-- See the header. -/
def Dead (t : ℚ) (jti : String) (s : SessionManager Tok) : Prop :=
  t ≤ s.reading 0 ∨ ∃ e, t ≤ e ∧ s.revoked_jtis jti = some e

/-- Time has passed. -/
def Elapsed (s s' : SessionManager Tok) : Prop :=
  s'.clock.reading = s.clock.reading ∧ s.clock.tick ≤ s'.clock.tick

theorem Elapsed.reading_le {s s' : SessionManager Tok} (h : Elapsed s s') :
    s.reading 0 ≤ s'.reading 0 := by
  unfold SessionManager.reading
  rw [h.1]
  exact s.clock.mono (Nat.add_le_add_right h.2 0)

section
variable {E : Env Tok} {a : IssueArgs} {t : ℚ} {key jti : String} {token : Tok}
  {s s' s₁ s₂ s₃ : SessionManager Tok}

/-- An entry may only go when it has lapsed. -/
theorem Dead.later (h : Dead t jti s) (hle : s.reading 0 ≤ s'.reading 0)
    (hr : ∀ e, s.reading 0 < e → s.revoked_jtis jti = some e → s'.revoked_jtis jti = some e) :
    Dead t jti s' := by
  rcases h with h | ⟨e, he, hrevoked⟩
  · exact .inl (le_trans h hle)
  · by_cases hlapsed : e ≤ s.reading 0
    · exact .inl (le_trans he (le_trans hlapsed hle))
    · exact .inr ⟨e, he, hr e (not_le.mp hlapsed) hrevoked⟩

/-- Before the deadline the token is refused. -/
theorem Dead.not_accepts (hJ : E.jose.Reads) (h : Dead t jti s) (hj : jti_of E token = some jti)
    (ht : s.reading 2 < t) : ¬Accepts E token s := by
  rintro ⟨c, s', hrun⟩
  obtain ⟨p, jti', ⟨key, -, hverify⟩, -, hp, hnone, -⟩ := validate_token_ok_iff.mp hrun
  have hjti : jti = jti' := by
    rw [jti_of, hJ _ _ _ _ hverify, Option.bind_some, hp] at hj
    exact (Option.some.inj hj).symm
  subst hjti
  rcases h with h | ⟨e, he, hrevoked⟩
  · exact absurd (le_trans h (s.reading_mono (Nat.zero_le 2))) (not_le.mpr ht)
  · exact absurd (Ttl.purge_eq_none.mp hnone e hrevoked) (not_le.mpr (lt_of_lt_of_le ht he))

/-! ## What every call can do -/

/-- See the header. -/
structure Proceeds (E : Env Tok) (s s' : SessionManager Tok) : Prop where
  supply : s'.uuid4 = s.uuid4
  drawn : s.uuids_drawn ≤ s'.uuids_drawn
  elapsed : Elapsed s s'
  dead : ∀ {t jti}, t ≤ s.reading 0 + E.settings.token_expiry_seconds → Dead t jti s → Dead t jti s'
  current : ∀ {t key jti}, t ≤ s.reading 0 + E.settings.token_expiry_seconds → Current key jti s →
    Current key jti s' ∨ Dead t jti s'

namespace Proceeds

theorem deadline (h : Proceeds E s s') (ht : t ≤ s.reading 0 + E.settings.token_expiry_seconds) :
    t ≤ s'.reading 0 + E.settings.token_expiry_seconds :=
  le_trans ht (add_le_add_left h.elapsed.reading_le _)

theorem used (h : Proceeds E s s') (hu : Used jti s) : Used jti s' := by
  obtain ⟨n, hn, hj⟩ := hu
  exact ⟨n, lt_of_lt_of_le hn h.drawn, by rw [h.supply, hj]⟩

theorem refl (s : SessionManager Tok) : Proceeds E s s where
  supply := rfl
  drawn := le_rfl
  elapsed := ⟨rfl, le_rfl⟩
  dead := fun _ h => h
  current := fun _ h => .inl h

theorem trans (s₁ s₂ s₃ : SessionManager Tok) (h₁ : Proceeds E s₁ s₂) (h₂ : Proceeds E s₂ s₃) :
    Proceeds E s₁ s₃ where
  supply := h₂.supply.trans h₁.supply
  drawn := le_trans h₁.drawn h₂.drawn
  elapsed := ⟨h₂.elapsed.1.trans h₁.elapsed.1, le_trans h₁.elapsed.2 h₂.elapsed.2⟩
  dead := fun ht h => h₂.dead (h₁.deadline ht) (h₁.dead ht h)
  current := by
    intro t key jti ht h
    rcases h₁.current ht h with h | h
    · exact h₂.current (h₁.deadline ht) h
    · exact .inr (h₂.dead (h₁.deadline ht) h)

/-- The table may have been purged at the reading just taken; nothing is issued. -/
theorem of_quiet (huuid : s'.uuid4 = s.uuid4) (hdrawn : s.uuids_drawn ≤ s'.uuids_drawn)
    (he : Elapsed s s') (hindex : s'.rotation_index = s.rotation_index)
    (hrevoked : s'.revoked_jtis = s.revoked_jtis ∨
      s'.revoked_jtis = Ttl.purge (s.reading 0) s.revoked_jtis) : Proceeds E s s' where
  supply := huuid
  drawn := hdrawn
  elapsed := he
  dead := by
    intro t jti _ h
    refine h.later he.reading_le fun e hlive hentry => ?_
    rcases hrevoked with hr | hr
    · rwa [hr]
    · rw [hr]
      exact Ttl.purge_eq_some.mpr ⟨hentry, hlive⟩
  current := by
    intro t key jti _ h
    exact .inl (by rwa [Current, hindex])

theorem lookup : Lookup (@Proceeds Tok E) where
  refl := refl
  trans := trans
  advance := fun _ => of_quiet rfl le_rfl ⟨rfl, Nat.le_succ _⟩ rfl (.inl rfl)
  purged := fun _ => of_quiet rfl le_rfl ⟨rfl, Nat.le_succ _⟩ rfl (.inr rfl)

theorem validate_token (token : Tok) : Keeps (Proceeds E) (AegisOs.validate_token E token) :=
  lookup.validate_token E token

theorem generate_dpop_key_pair :
    Keeps (Proceeds E) (AegisOs.generate_dpop_key_pair : SM Tok (String × Jwk)) :=
  fun _ => of_quiet rfl le_rfl ⟨rfl, le_rfl⟩ rfl (.inl rfl)

theorem str_uuid4 : Keeps (Proceeds E) (AegisOs.str_uuid4 : SM Tok String) :=
  fun _ => of_quiet rfl (Nat.le_succ _) ⟨rfl, le_rfl⟩ rfl (.inl rfl)

theorem issue_dpop_proof (pem : String) (jwk : Jwk) (method url : String) (token : Option Tok)
    (nonce : Option String) :
    Keeps (Proceeds E) (AegisOs.issue_dpop_proof E pem jwk method url token nonce) := by
  refine Keeps.bind lookup.trans lookup.time fun now => ?_
  exact Keeps.bind lookup.trans str_uuid4 fun jti => lookup.orRaise _ _

end Proceeds

/-! ### The gate of the adapters -/

section Gate

theorem proceeds_decode_dpop_proof (proof : Tok) :
    Keeps (Proceeds E) (decode_dpop_proof E proof) := by
  have L := @Proceeds.lookup Tok E
  refine Keeps.bind L.trans (L.orRaise _ _) fun header => ?_
  refine Keeps.ite (Keeps.throw L.refl _) ?_
  refine Keeps.bind L.trans (L.orRaise _ _) fun jwk => ?_
  refine Keeps.bind L.trans (Keeps.ofExcept L.refl _) fun pem => ?_
  refine Keeps.bind L.trans ?_ fun p => Keeps.ofExcept L.refl _
  refine Keeps.catching L.trans (L.jwt_decode E _ _ _) ?_
  intro e h he
  split at he
  · cases he
    exact Keeps.throw L.refl _
  · split at he
    · cases he
      exact Keeps.throw L.refl _
    · cases he

theorem proceeds_register_if_unused (jti : String) (ttl : ℤ) :
    Keeps (Proceeds E) (register_if_unused jti ttl : SM Tok Bool) := by
  have L := @Proceeds.lookup Tok E
  refine Keeps.bind L.trans L.time fun now => ?_
  refine Keeps.bind L.trans (Keeps.get L.refl) fun s => ?_
  refine Keeps.bind L.trans (Keeps.ofExcept L.refl _) fun r => ?_
  refine Keeps.bind L.trans ?_ fun _ => Keeps.pure L.refl _
  exact fun _ => .of_quiet rfl le_rfl ⟨rfl, le_rfl⟩ rfl (.inl rfl)

theorem proceeds_validate_dpop_proof (proof : Tok) (rq : ProofRequest Tok) (now : Option ℚ) :
    Keeps (Proceeds E) (validate_dpop_proof E proof rq now) := by
  have L := @Proceeds.lookup Tok E
  have hcheck : ∀ current_time, Keeps (Proceeds E) (do
      let c ← decode_dpop_proof E proof
      MonadExcept.ofExcept (check_dpop_claims E rq current_time c)
      return c) := by
    intro current_time
    refine Keeps.bind L.trans (proceeds_decode_dpop_proof proof) fun c => ?_
    exact Keeps.bind L.trans (Keeps.ofExcept L.refl _) fun _ => Keeps.pure L.refl c
  have hbody : Keeps (Proceeds E) (check_dpop_proof E proof rq now) := by
    cases now with
    | some current_time => exact Keeps.bind L.trans (Keeps.pure L.refl _) hcheck
    | none => exact Keeps.bind L.trans L.time hcheck
  refine Keeps.bind L.trans hbody fun c => ?_
  refine Keeps.bind L.trans (proceeds_register_if_unused _ _) fun fresh => ?_
  exact Keeps.ite (Keeps.pure L.refl _) (Keeps.throw L.refl _)

theorem proceeds_validate_sender_constrained_token (token dpop_proof : Tok)
    (method url : String) (nonce : Option String) (now : Option ℚ) :
    Keeps (Proceeds E) (validate_sender_constrained_token E token dpop_proof method url nonce now) := by
  have L := @Proceeds.lookup Tok E
  refine Keeps.bind L.trans (L.validate_token E token) fun claims => ?_
  refine Keeps.bind L.trans (L.orRaise _ _) fun jkt => ?_
  refine Keeps.bind L.trans (L.orRaise _ _) fun header => ?_
  refine Keeps.bind L.trans (L.orRaise _ _) fun jwk => ?_
  refine Keeps.bind L.trans (Keeps.ofExcept L.refl _) fun thumbprint => ?_
  refine Keeps.ite (Keeps.throw L.refl _) ?_
  refine Keeps.bind L.trans (proceeds_validate_dpop_proof _ _ _) fun _ => ?_
  refine Keeps.bind L.trans ?_ fun _ => Keeps.pure L.refl _
  exact fun _ => .of_quiet rfl le_rfl ⟨rfl, le_rfl⟩ rfl (.inl rfl)

end Gate

/-! ### `issue_token` -/

theorem rotated_elapsed : Elapsed s (s.rotated E a) := by
  unfold SessionManager.rotated
  cases s.previous a with
  | none => exact ⟨rfl, Nat.le_succ _⟩
  | some previous => exact ⟨rfl, by show s.clock.tick ≤ s.clock.tick + 1 + 1; omega⟩

/-- The entry for the superseded token lasts one lifetime. -/
theorem rotated_dead_previous (ht : t ≤ s.reading 0 + E.settings.token_expiry_seconds)
    (hp : s.previous a = some jti) : Dead t jti (s.rotated E a) := by
  refine .inr ⟨s.reading 1 + E.settings.token_expiry_seconds, ?_, ?_⟩
  · exact le_trans ht (add_le_add_left (s.reading_mono (Nat.zero_le 1)) _)
  · unfold SessionManager.rotated
    rw [hp]
    exact Ttl.insert_self _ _ _

theorem rotated_dead (ht : t ≤ s.reading 0 + E.settings.token_expiry_seconds) (h : Dead t jti s) :
    Dead t jti (s.rotated E a) := by
  by_cases hp : s.previous a = some jti
  · exact rotated_dead_previous ht hp
  · refine h.later rotated_elapsed.reading_le fun e hlive hentry => ?_
    have hpurged : Ttl.purge (s.reading 0) s.revoked_jtis jti = some e :=
      Ttl.purge_eq_some.mpr ⟨hentry, hlive⟩
    unfold SessionManager.rotated
    cases hprev : s.previous a with
    | none => exact hpurged
    | some previous =>
        rw [hprev] at hp
        exact (Ttl.insert_other (fun hj => hp (congrArg some hj.symm)) _ _).trans hpurged

theorem proceeds_rotatedOnly : Proceeds E s (s.rotatedOnly E a) where
  supply := SessionManager.rotated_uuid4
  drawn := Nat.le_succ _
  elapsed := rotated_elapsed (E := E) (a := a)
  dead := fun ht h => rotated_dead ht h
  current := by
    intro t key jti _ h
    refine .inl ?_
    show (s.rotated E a).rotation_index key = some jti
    rwa [SessionManager.rotated_rotation_index]

theorem proceeds_issued : Proceeds E s (s.issued E a) where
  supply := SessionManager.rotated_uuid4
  drawn := Nat.le_succ _
  elapsed := rotated_elapsed (E := E) (a := a)
  dead := fun ht h => rotated_dead ht h
  current := by
    intro t key jti ht h
    by_cases hk : a.rotation_key = some key
    · have hp : s.previous a = some jti := by
        rw [SessionManager.previous, hk]
        exact h
      exact .inr (rotated_dead_previous ht hp)
    · refine .inl ?_
      rw [Current, SessionManager.issued_index, if_neg hk]
      exact h

theorem Proceeds.issue_token (a : IssueArgs) : Keeps (Proceeds E) (AegisOs.issue_token E a) :=
  keeps_issue_token .refl (fun _ => proceeds_issued) fun _ => proceeds_rotatedOnly

/-- **Superseded.**  What the key had before a successful issue is dead after it; the key has the
identifier just drawn. -/
theorem issue_supersedes (h : AegisOs.issue_token E a s = .ok token s')
    (hk : a.rotation_key = some key) (ht : t ≤ s.reading 0 + E.settings.token_expiry_seconds) :
    (∀ jti, Current key jti s → Dead t jti s') ∧ Current key (s.uuid4 s.uuids_drawn) s' ∧
      s'.uuids_drawn = s.uuids_drawn + 1 := by
  obtain ⟨rfl, -⟩ := issue_token_eq_ok h
  refine ⟨fun jti hcurrent => rotated_dead_previous ht ?_, ?_, rfl⟩
  · rw [SessionManager.previous, hk]
    exact hcurrent
  · rw [Current, SessionManager.issued_index, if_pos hk]

/-- The claims an issued token carries. -/
theorem issued_carries (hJ : E.jose.Carries) (h : AegisOs.issue_token E a s = .ok token s') :
    ∃ cnf, confirmation E a = .ok cnf ∧ E.jose.get_unverified_claims token =
      some (issued_claims E a (s.uuid4 s.uuids_drawn) (s.reading 0) cnf) := by
  obtain ⟨-, hencode⟩ := issue_token_eq_ok h
  obtain ⟨cnf, hcnf, hrest⟩ := except_bind_eq_ok hencode
  obtain ⟨key, -, hrest⟩ := except_bind_eq_ok hrest
  refine ⟨cnf, hcnf, ?_⟩
  split at hrest
  · rename_i hencoded
    cases hrest
    exact hJ _ _ _ _ hencoded
  · cases hrest

/-- The claims a proof carries: an identifier of its own, and the hash of the token it is for. -/
theorem proof_carries (hJ : E.jose.Carries) {pem : String} {jwk : Jwk} {method url : String}
    {presented : Option Tok} {nonce : Option String} {proof : Tok}
    (h : AegisOs.issue_dpop_proof E pem jwk method url presented nonce s = .ok proof s') :
    s'.uuids_drawn = s.uuids_drawn + 1 ∧ ∃ p, E.jose.get_unverified_claims proof = some p ∧
      p.jti = some (s.uuid4 s.uuids_drawn) ∧ p.ath = presented.map (access_token_hash E) := by
  unfold AegisOs.issue_dpop_proof at h
  obtain ⟨now, s₁, htime, h₁⟩ := bind_eq_ok.mp h
  cases htime
  obtain ⟨jti, s₂, hdraw, h₂⟩ := bind_eq_ok.mp h₁
  cases hdraw
  obtain ⟨hencode, hend⟩ := orRaise_eq_ok.mp h₂
  exact ⟨by rw [hend], _, hJ _ _ _ _ hencode, rfl, rfl⟩

end

end AegisOs
