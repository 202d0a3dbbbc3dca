/-
# `AegisOs.Governance.Atomicity` — issues that fail half way

`issue_token` revokes the token it supersedes before it has a new one.  What
comes after can raise: the confirmation key may be incomplete or of an unknown
type, the signing key may be missing, the encoding may fail.  The rotation index is
written last, so it is left alone; the revocation is not taken back.

`Atomic` is what one would ask of an issue, for failure and for success.  Both
halves are about the same comparison, of who is accepted just before the call
with who is accepted just after it (`accepts_after`), and they meet in one
condition: where the rotation key has a live token, the issue must succeed
(`issue_atomic_iff`).
-/
import AegisOs.Governance.Rotation

namespace AegisOs

open Lib Lib.EState

variable {Tok : Type} {E : Env Tok} {a : IssueArgs} {s s' : SessionManager Tok} {token : Tok}
  {p : Payload}

/-! ## Just before and just after -/

/-- The entry an issue makes for the superseded token is in force when a token is validated right
after it: readings 2 and 3 are the first of that validation. -/
def RotationLasts (E : Env Tok) (s : SessionManager Tok) : Prop :=
  s.reading 4 < s.reading 1 + E.settings.token_expiry_seconds

/-- `s'` is `s` once the superseded token is revoked, whatever came after. -/
def Rotated (E : Env Tok) (a : IssueArgs) (s s' : SessionManager Tok) : Prop :=
  s'.clock = (s.rotated E a).clock ∧ s'.revoked_jtis = (s.rotated E a).revoked_jtis

theorem Rotated.reading (h : Rotated E a s s') (n : ℕ) :
    s'.reading n = s.reading (n + if (s.previous a).isSome then 2 else 1) := by
  have hissued : (s.issued E a).clock = s'.clock := h.1.symm
  rw [← SessionManager.issued_reading (E := E)]
  unfold SessionManager.reading
  rw [hissued]

/-- Who is accepted after the rotation, of those accepted before it whose time has not run out: all
but the superseded token, while its revocation lasts. -/
theorem accepts_after (h : Rotated E a s s') (hacc : Accepts E token s) (hs : Signed E token p)
    (ht : TimeOk p (s'.reading 0)) :
    Accepts E token s' ↔ ¬(p.jti = s.previous a ∧ RotationLasts E s) := by
  obtain ⟨c, s₁, hrun⟩ := hacc
  obtain ⟨p', jti, hs', -, hj, hn, hc, -⟩ := validate_token_ok_iff.mp hrun
  cases hs'.unique hs
  have hiff : Accepts E token s' ↔ Ttl.purge (s'.reading 2) s'.revoked_jtis jti = none := by
    constructor
    · rintro ⟨c', s₂, hrun'⟩
      obtain ⟨p'', jti', hs'', -, hj', hn', -, -⟩ := validate_token_ok_iff.mp hrun'
      cases hs''.unique hs
      rw [hj] at hj'
      cases hj'
      exact hn'
    · intro hn'
      exact ⟨c, _, validate_token_ok_iff.mpr ⟨p, jti, hs, ht, hj, hn', hc, rfl⟩⟩
  -- an entry that had lapsed before the call has lapsed after it
  have hold : ∀ n, 2 ≤ n → Ttl.purge (s.reading n) (Ttl.purge (s.reading 0) s.revoked_jtis) jti = none := by
    intro n hle
    rw [Ttl.purge_purge (s.reading_mono (Nat.zero_le n)), Ttl.purge_eq_none]
    exact fun e he => le_trans (Ttl.purge_eq_none.mp hn e he) (s.reading_mono hle)
  rw [hiff, h.reading, h.2, hj]
  unfold SessionManager.rotated
  cases hp : s.previous a with
  | none =>
      have hnone : Ttl.purge (s.reading 3) (s.purged 0).revoked_jtis jti = none := hold 3 (by omega)
      simpa using hnone
  | some previous =>
      by_cases hjti : jti = previous
      · subst hjti
        simp [RotationLasts, Ttl.purge, Ttl.insert]
      · have hother : Ttl.purge (s.reading 4) (Ttl.insert previous
            (s.reading 1 + E.settings.token_expiry_seconds)
            (Ttl.purge (s.reading 0) s.revoked_jtis)) jti = none := by
          rw [← hold 4 (by omega)]
          simp [Ttl.purge, Ttl.insert_other hjti]
        simpa [hjti] using hother

/-! ## What an issue does -/

/-- What one asks of an issue `m` with the arguments `a`: a failure leaves the rotation index and
whoever was accepted alone; a success revokes the token it supersedes, and nobody else. -/
structure Atomic (E : Env Tok) (a : IssueArgs) (m : SM Tok Tok) (s : SessionManager Tok) : Prop where
  restores : ∀ e s', m s = .error e s' → s'.rotation_index = s.rotation_index ∧
    ∀ token p, Accepts E token s → Signed E token p → TimeOk p (s'.reading 0) → Accepts E token s'
  supersedes : ∀ issued s', m s = .ok issued s' →
    ∀ token p, Accepts E token s → Signed E token p → TimeOk p (s'.reading 0) →
      (Accepts E token s' ↔ p.jti ≠ s.previous a)

/-- The rotation key has a token that is accepted, and still in time once the issue has taken its
two readings. -/
def Supersedes (E : Env Tok) (a : IssueArgs) (s : SessionManager Tok) : Prop :=
  ∃ token p, Accepts E token s ∧ Signed E token p ∧ p.jti = s.previous a ∧ TimeOk p (s.reading 2)

theorem jti_ne_none (hacc : Accepts E token s) (hs : Signed E token p) : p.jti ≠ none := by
  obtain ⟨c, s₁, hrun⟩ := hacc
  obtain ⟨p', jti, hs', -, hj, -⟩ := validate_token_ok_iff.mp hrun
  cases hs'.unique hs
  simp [hj]

/-- Only a rotation takes a second reading. -/
theorem Rotated.reading_of_previous (h : Rotated E a s s') (hacc : Accepts E token s)
    (hs : Signed E token p) (hp : p.jti = s.previous a) : s'.reading 0 = s.reading 2 := by
  have hsome : (s.previous a).isSome = true := by
    rw [← hp]
    exact Option.isSome_iff_ne_none.mpr (jti_ne_none hacc hs)
  rw [h.reading, hsome]
  rfl

theorem rotated_rotatedOnly (E : Env Tok) (a : IssueArgs) (s : SessionManager Tok) :
    Rotated E a s (s.rotatedOnly E a) := ⟨rfl, rfl⟩

theorem rotated_issued (E : Env Tok) (a : IssueArgs) (s : SessionManager Tok) :
    Rotated E a s (s.issued E a) := ⟨rfl, rfl⟩

/-- An issue that fails after the rotation is atomic if there was nobody to revoke, or the
revocation does not last. -/
theorem atomic_of_error_iff {e : Exc} (hn : ¬(a.agent_type = "" ∨ a.requester_id = ""))
    (h : encode_access_token E a (s.uuid4 s.uuids_drawn) (s.reading 0) = .error e) :
    Atomic E a (issue_token E a) s ↔ (Supersedes E a s → ¬RotationLasts E s) := by
  have hrun : issue_token E a s = .error e (s.rotatedOnly E a) := by
    rw [issue_token_run hn, h]
  have hrot := rotated_rotatedOnly E a s
  constructor
  · rintro ⟨hrestores, -⟩ ⟨token, p, hacc, hs, hp, ht⟩ hlasts
    have ht' : TimeOk p ((s.rotatedOnly E a).reading 0) := by
      rwa [hrot.reading_of_previous hacc hs hp]
    have hafter := (hrestores e _ hrun).2 token p hacc hs ht'
    exact (accepts_after hrot hacc hs ht').mp hafter ⟨hp, hlasts⟩
  · intro hlive
    constructor
    · intro e' s' he
      rw [hrun] at he
      cases he
      refine ⟨SessionManager.rotated_rotation_index, fun token p hacc hs ht => ?_⟩
      refine (accepts_after hrot hacc hs ht).mpr ?_
      rintro ⟨hp, hlasts⟩
      refine hlive ⟨token, p, hacc, hs, hp, ?_⟩ hlasts
      rwa [← hrot.reading_of_previous hacc hs hp]
    · intro issued s' hok
      rw [hrun] at hok
      cases hok

/-- An issue that succeeds is atomic if there was nobody to revoke, or the revocation lasts. -/
theorem atomic_of_ok_iff {issued : Tok} (hn : ¬(a.agent_type = "" ∨ a.requester_id = ""))
    (h : encode_access_token E a (s.uuid4 s.uuids_drawn) (s.reading 0) = .ok issued) :
    Atomic E a (issue_token E a) s ↔ (Supersedes E a s → RotationLasts E s) := by
  have hrun : issue_token E a s = .ok issued (s.issued E a) := by
    rw [issue_token_run hn, h]
  have hrot := rotated_issued E a s
  constructor
  · rintro ⟨-, hsupersedes⟩ ⟨token, p, hacc, hs, hp, ht⟩
    have ht' : TimeOk p ((s.issued E a).reading 0) := by
      rwa [hrot.reading_of_previous hacc hs hp]
    by_contra hno
    have hafter := (accepts_after hrot hacc hs ht').mpr fun hboth => hno hboth.2
    exact (hsupersedes issued _ hrun token p hacc hs ht').mp hafter hp
  · intro hlive
    constructor
    · intro e s' he
      rw [hrun] at he
      cases he
    · intro issued' s' hok token p hacc hs ht
      rw [hrun] at hok
      cases hok
      rw [accepts_after hrot hacc hs ht, not_and]
      constructor
      · intro hnot hp
        refine hnot hp (hlive ⟨token, p, hacc, hs, hp, ?_⟩)
        rwa [← hrot.reading_of_previous hacc hs hp]
      · exact fun hne hp => absurd hp hne

/-- **When an issue is atomic.**  An issue without an identity fails before it has done anything.
Any other is atomic exactly if no live token stands under its rotation key, or the new token is
produced just if the revocation of the old one lasts. -/
theorem issue_atomic_iff (E : Env Tok) (s : SessionManager Tok) :
    (∀ a, Atomic E a (issue_token E a) s ↔
      (a.agent_type = "" ∨ a.requester_id = "") ∨ (Supersedes E a s →
        ((∃ token, encode_access_token E a (s.uuid4 s.uuids_drawn) (s.reading 0) = .ok token) ↔
          RotationLasts E s))) ∧
    ∀ jwk a, Atomic E { a with confirmation_jwk := some jwk }
        (issue_sender_constrained_token E jwk a) s ↔
      (a.agent_type = "" ∨ a.requester_id = "") ∨
        (Supersedes E { a with confirmation_jwk := some jwk } s →
          ((∃ token, encode_access_token E { a with confirmation_jwk := some jwk }
              (s.uuid4 s.uuids_drawn) (s.reading 0) = .ok token) ↔ RotationLasts E s)) := by
  have hissue : ∀ a, Atomic E a (issue_token E a) s ↔
      (a.agent_type = "" ∨ a.requester_id = "") ∨ (Supersedes E a s →
        ((∃ token, encode_access_token E a (s.uuid4 s.uuids_drawn) (s.reading 0) = .ok token) ↔
          RotationLasts E s)) := by
    intro a
    by_cases hn : a.agent_type = "" ∨ a.requester_id = ""
    · refine ⟨fun _ => .inl hn, fun _ => ⟨?_, ?_⟩⟩
      · intro e s' he
        rw [issue_token_empty hn] at he
        cases he
        exact ⟨rfl, fun _ _ hacc _ _ => hacc⟩
      · intro issued s' hok
        rw [issue_token_empty hn] at hok
        cases hok
    · rw [or_iff_right hn]
      cases h : encode_access_token E a (s.uuid4 s.uuids_drawn) (s.reading 0) with
      | error e => simpa using atomic_of_error_iff hn h
      | ok issued => simpa using atomic_of_ok_iff hn h
  exact ⟨hissue, fun jwk a => hissue { a with confirmation_jwk := some jwk }⟩

/-- A call under a rotation key. -/
def retried : IssueArgs where
  agent_type := "general"
  requester_id := "alice"
  rotation_key := some "llm:t"

/-- The claims of the token a first call issues at time 0. -/
def retried_claims : Payload := issued_claims (symbolicEnv {}) retried "jti-0" 0 none

/-- The manager after that first call. -/
def retried_manager : SessionManager SymToken :=
  (SessionManager.fresh (.in_memory fun _ => none) (.still 0)
    (fun _ => "jti-0")).issued (symbolicEnv {}) retried

/-- The second call names a key without coordinates.  It raises, and the first token is gone. -/
theorem incomplete_key_revokes :
    ¬Atomic (symbolicEnv {}) { retried with confirmation_jwk := some [("kty", "EC")] }
      (issue_sender_constrained_token (symbolicEnv {}) [("kty", "EC")] retried) retried_manager := by
  have hraises : encode_access_token (symbolicEnv {})
      { retried with confirmation_jwk := some [("kty", "EC")] }
      (retried_manager.uuid4 retried_manager.uuids_drawn) (retried_manager.reading 0) =
      .error ⟨.KeyError, "crv"⟩ := rfl
  have hn : ¬(retried.agent_type = "" ∨ retried.requester_id = "") := by decide +kernel
  have hs : Signed (symbolicEnv {})
      (⟨{ typ := some "JWT", alg := some "HS256" }, retried_claims,
        "change-me-in-production-use-a-strong-random-key"⟩ : SymToken) retried_claims :=
    ⟨_, symbolicEnv_verification_key rfl, rfl⟩
  have ht : ∀ n, TimeOk retried_claims (retried_manager.reading n) := by
    intro n
    refine ⟨fun _ h => (Option.some_ne_none _ h.symm).elim, fun exp h => ?_⟩
    cases h
    exact pyInt_mono (show (0 : ℚ) ≤ _ by decide +kernel)
  intro hatomic
  have hlasts : RotationLasts (symbolicEnv {}) retried_manager := by
    unfold RotationLasts
    decide +kernel
  refine (atomic_of_error_iff (a := { retried with confirmation_jwk := some [("kty", "EC")] })
    hn hraises).mp hatomic ⟨_, retried_claims, ?_, hs, rfl, ht 2⟩ hlasts
  exact ⟨_, _, validate_token_ok_iff.mpr ⟨_, "jti-0", hs, ht 0, rfl, rfl, rfl, rfl⟩⟩

end AegisOs
