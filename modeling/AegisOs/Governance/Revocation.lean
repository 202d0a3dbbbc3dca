/-
# `AegisOs.Governance.Revocation` — how long a revoked token stays refused

Every run of a manager: `SmOp` is one call, `SmOp.next` what it does to the
manager whether it returns or raises, `afterAll` a sequence of calls.  The
clock is part of the manager, so a sequence of calls is also a sequence of
readings, one or more per call, never decreasing.

A revocation is an entry of `revoked_jtis` that lapses.  Which entry matters is
a property of the calls alone: `SmOp.writes` is the expiry a call writes under
an identifier, `lastEntry` the one written last in a sequence.  The invariant
is that the manager's table, purged or not, answers for the identifier as that
one entry would (`Ttl.Tracks`); one step lemma, `SmOp.tracks`, and one run
lemma, `tracks_afterAll`.  With `validate_token_ok_iff` this decides every
later presentation of the token (`accepts_afterAll_iff`):

    accepted   ⟺   it is genuine, jose still accepts its time claims,
                    and the last entry has lapsed

The three ways to revoke write three different expiries, and none of them is
tied to the second jose gives a token up in, so the last conjunct can hold
while the first two do.
-/
import AegisOs.Governance.TokenSpec

namespace AegisOs

open Lib Lib.EState

variable {Tok : Type}

/-! ## Calls -/

/-- One call on a manager. -/
inductive SmOp (Tok : Type) where
  | issue_token (a : IssueArgs)
  | revoke_token (token : Tok)
  | revoke_jti (jti : String) (expires_at : Option ℚ)
  | validate_token (token : Tok)
  | is_revoked (jti : String)

/-- The manager after a call, whether it returned or raised. -/
def SmOp.next (E : Env Tok) (s : SessionManager Tok) : SmOp Tok → SessionManager Tok
  | .issue_token a => after (AegisOs.issue_token E a s)
  | .revoke_token token => after (AegisOs.revoke_token E token s)
  | .revoke_jti jti expires_at => after (AegisOs.revoke_jti E jti expires_at s)
  | .validate_token token => after (AegisOs.validate_token E token s)
  | .is_revoked jti => after (AegisOs.is_revoked jti s)

/-- The manager after a sequence of calls. -/
def afterAll (E : Env Tok) (s : SessionManager Tok) (ops : List (SmOp Tok)) : SessionManager Tok :=
  ops.foldl (SmOp.next E) s

/-- The expiry a call writes under `jti`, if it writes one. -/
def SmOp.writes (E : Env Tok) (s : SessionManager Tok) (jti : String) : SmOp Tok → Option ℚ
  | .issue_token a =>
      if ¬(a.agent_type = "" ∨ a.requester_id = "") ∧ s.previous a = some jti then
        some (s.reading 1 + E.settings.token_expiry_seconds)
      else none
  | .revoke_token token =>
      match E.jose.get_unverified_claims token with
      | some p => if p.jti = some jti then some (p.exp.getD (s.reading 0)) else none
      | none => none
  | .revoke_jti j expires_at =>
      if j = jti then some (expires_at.getD (s.reading 0 + E.settings.token_expiry_seconds))
      else none
  | .validate_token _ => none
  | .is_revoked _ => none

/-- The expiry written last under `jti` by a sequence of calls; `last` was written before it. -/
def lastEntry (E : Env Tok) (jti : String) :
    Option ℚ → SessionManager Tok → List (SmOp Tok) → Option ℚ
  | last, _, [] => last
  | last, s, op :: ops => lastEntry E jti ((op.writes E s jti).or last) (op.next E s) ops

/-! ## The table follows the last entry -/

/-- The table of `s` answers for `jti` as the entry `last` would, at every reading from now on. -/
def Follows (jti : String) (last : Option ℚ) (s : SessionManager Tok) : Prop :=
  Ttl.Tracks jti last (s.reading 0) s.revoked_jtis

theorem follows_purged {jti : String} {last : Option ℚ} {s : SessionManager Tok}
    (h : Follows jti last s) (n : ℕ) : Follows jti last (s.purged n) := by
  have h₁ : Ttl.Tracks jti last (s.reading n) (Ttl.purge (s.reading n) s.revoked_jtis) :=
    h.purge (s.reading_mono (Nat.zero_le n))
  have hlater : s.reading n ≤ s.reading (n + 1) := s.reading_mono (Nat.le_succ n)
  exact h₁.later hlater

theorem follows_advance {jti : String} {last : Option ℚ} {s : SessionManager Tok}
    (h : Follows jti last s) : Follows jti last { s with clock := s.clock.advance } :=
  h.later (s.reading_mono (Nat.le_succ 0))

/-- No entry is written: what the table followed it still follows. -/
def Quiet (s s' : SessionManager Tok) : Prop :=
  ∀ jti last, Follows jti last s → Follows jti last s'

theorem Quiet.refl (s : SessionManager Tok) : Quiet s s := fun _ _ h => h

theorem Quiet.trans (s₁ s₂ s₃ : SessionManager Tok) (h₁ : Quiet s₁ s₂) (h₂ : Quiet s₂ s₃) :
    Quiet s₁ s₃ :=
  fun jti last h => h₂ jti last (h₁ jti last h)

theorem quiet_lookup : Lookup (@Quiet Tok) where
  refl := Quiet.refl
  trans := Quiet.trans
  advance := fun _ _ _ h => follows_advance h
  -- a purge at a reading just taken drops only what has lapsed
  purged := fun _ _ _ h => follows_purged h 0

/-- Writing the expiry `e` under `j`, at a reading not before the present one. -/
theorem follows_insert {jti j : String} {last : Option ℚ} {s : SessionManager Tok} (e : ℚ)
    (h : Follows jti last s) :
    Ttl.Tracks jti (if j = jti then some e else last) (s.reading 0)
      (Ttl.insert j e s.revoked_jtis) := by
  split
  · rename_i hj
    subst hj
    exact Ttl.Tracks.insert_self _ _ _ _
  · rename_i hj
    exact Ttl.Tracks.insert_other e (Ne.symm hj) h

theorem follows_rotated {E : Env Tok} {a : IssueArgs} {jti : String} {last : Option ℚ}
    {s : SessionManager Tok} (h : Follows jti last s) :
    Follows jti (if s.previous a = some jti then some (s.reading 1 + E.settings.token_expiry_seconds)
      else last) (s.rotated E a) := by
  unfold SessionManager.rotated
  cases hp : s.previous a with
  | none => simpa using follows_purged h 0
  | some j =>
      have h₁ := follows_insert (j := j) (s.reading 1 + E.settings.token_expiry_seconds)
        (follows_purged h 0)
      have h₂ := h₁.later (b := s.reading 2) (s.reading_mono (by omega))
      simp only [Option.some.injEq]
      exact h₂

theorem follows_issue_token {E : Env Tok} {jti : String} {last : Option ℚ} {s : SessionManager Tok}
    (h : Follows jti last s) (a : IssueArgs) :
    Follows jti (((SmOp.issue_token a).writes E s jti).or last) (after (issue_token E a s)) := by
  by_cases hn : a.agent_type = "" ∨ a.requester_id = ""
  · rw [issue_token_empty hn]
    simpa [SmOp.writes, hn, after] using h
  · -- what comes after the rotation draws an identifier and may fill the index
    have hr := follows_rotated (E := E) (a := a) h
    have hafter : Follows jti (if s.previous a = some jti then
        some (s.reading 1 + E.settings.token_expiry_seconds) else last)
        (after (issue_token E a s)) := by
      rw [issue_token_run hn]
      cases encode_access_token E a (s.uuid4 s.uuids_drawn) (s.reading 0) with
      | ok token => exact hr
      | error e => exact hr
    by_cases hp : s.previous a = some jti
    · simpa [SmOp.writes, hn, hp] using hafter
    · simpa [SmOp.writes, hn, hp] using hafter

theorem follows_revoke_token {E : Env Tok} {jti : String} {last : Option ℚ}
    {s : SessionManager Tok} (h : Follows jti last s) (token : Tok) :
    Follows jti (((SmOp.revoke_token token).writes E s jti).or last)
      (after (revoke_token E token s)) := by
  by_cases hc : ∀ p, E.jose.get_unverified_claims token = some p → p.jti = none
  · have hw : (SmOp.revoke_token token).writes E s jti = none := by
      cases hp : E.jose.get_unverified_claims token with
      | none => simp [SmOp.writes, hp]
      | some p => simp [SmOp.writes, hp, hc p hp]
    obtain ⟨e, he⟩ := revoke_token_error (s := s) hc
    rw [he, hw]
    exact h
  · push Not at hc
    obtain ⟨p, hp, hj⟩ := hc
    obtain ⟨j, hj⟩ := Option.ne_none_iff_exists'.mp hj
    have h₁ := follows_insert (j := j) (p.exp.getD (s.reading 0)) h
    have h₂ := h₁.later (b := s.reading 1) (s.reading_mono (Nat.zero_le 1))
    have hw : (if j = jti then some (p.exp.getD (s.reading 0)) else last) =
        ((SmOp.revoke_token token).writes E s jti).or last := by
      by_cases hjj : j = jti
      · simp [SmOp.writes, hp, hj, hjj]
      · simp [SmOp.writes, hp, hj, hjj]
    rw [hw] at h₂
    rw [revoke_token_run hp hj]
    exact h₂

theorem follows_revoke_jti {E : Env Tok} {jti : String} {last : Option ℚ} {s : SessionManager Tok}
    (h : Follows jti last s) (j : String) (expires_at : Option ℚ) :
    Follows jti (((SmOp.revoke_jti j expires_at).writes E s jti).or last)
      (after (revoke_jti E j expires_at s)) := by
  have h₁ := follows_insert (j := j)
    (expires_at.getD (s.reading 0 + E.settings.token_expiry_seconds)) h
  have hw : (if j = jti then
        some (expires_at.getD (s.reading 0 + E.settings.token_expiry_seconds)) else last) =
      ((SmOp.revoke_jti j expires_at).writes E s jti).or last := by
    by_cases hj : j = jti
    · simp [SmOp.writes, hj]
    · simp [SmOp.writes, hj]
  rw [hw] at h₁
  cases expires_at with
  | some e => exact h₁
  | none => exact h₁.later (b := s.reading 1) (s.reading_mono (Nat.zero_le 1))

/-- **One call.**  The table follows the entry the call writes, or the one it followed before. -/
theorem SmOp.follows {E : Env Tok} {jti : String} {last : Option ℚ} {s : SessionManager Tok}
    (h : Follows jti last s) (op : SmOp Tok) :
    Follows jti ((op.writes E s jti).or last) (op.next E s) := by
  cases op with
  | issue_token a => exact follows_issue_token h a
  | revoke_token token => exact follows_revoke_token h token
  | revoke_jti j expires_at => exact follows_revoke_jti h j expires_at
  | validate_token token => exact quiet_lookup.validate_token E token s jti last h
  | is_revoked j => exact quiet_lookup.is_revoked j s jti last h

/-- **A run.**  After any calls the table follows the entry written last. -/
theorem follows_afterAll {E : Env Tok} {jti : String} (ops : List (SmOp Tok)) :
    ∀ {last : Option ℚ} {s : SessionManager Tok}, Follows jti last s →
      Follows jti (lastEntry E jti last s ops) (afterAll E s ops) := by
  induction ops with
  | nil => exact fun h => h
  | cons op ops ih => exact fun h => ih (op.follows h)

/-! ## A revoked token presented later -/

/-- The manager accepts the token now. -/
def Accepts (E : Env Tok) (token : Tok) (s : SessionManager Tok) : Prop :=
  ∃ c s', validate_token E token s = .ok c s'

/-- The token verifies under the configured key, for the claims `p`, and they are complete. -/
def Genuine (E : Env Tok) (token : Tok) (p : Payload) (jti : String) : Prop :=
  Signed E token p ∧ ∃ c, token_claims p jti = .ok c

/-- The entry has not lapsed at `t`. -/
def InForce (last : Option ℚ) (t : ℚ) : Prop := ∃ e, last = some e ∧ t < e

theorem accepts_iff {E : Env Tok} (hJ : E.jose.Reads) {token : Tok} {p : Payload} {jti : String}
    {last : Option ℚ} {s : SessionManager Tok} (hp : E.jose.get_unverified_claims token = some p)
    (hj : p.jti = some jti) (hf : Follows jti last s) :
    Accepts E token s ↔
      Genuine E token p jti ∧ TimeOk p (s.reading 0) ∧ ¬InForce last (s.reading 2) := by
  have hpurge : Ttl.purge (s.reading 2) s.revoked_jtis jti = none ↔
      ¬InForce last (s.reading 2) := by
    rw [hf (s.reading 2) (s.reading_mono (Nat.zero_le 2))]
    simp [InForce, Option.filter_eq_none_iff]
  constructor
  · rintro ⟨c, s', h⟩
    obtain ⟨p', jti', hs, ht, hj', hn, hc, -⟩ := validate_token_ok_iff.mp h
    -- the claims revoked without a signature check are the ones that are verified
    have hpp : p' = p := by
      obtain ⟨key, -, hv⟩ := hs
      have := hJ _ _ _ _ hv
      rw [hp] at this
      cases this
      rfl
    subst hpp
    rw [hj] at hj'
    cases hj'
    exact ⟨⟨hs, c, hc⟩, ht, hpurge.mp hn⟩
  · rintro ⟨⟨hs, c, hc⟩, ht, hn⟩
    exact ⟨c, _, validate_token_ok_iff.mpr ⟨p, jti, hs, ht, hj, hpurge.mpr hn, hc, rfl⟩⟩

/-- The ways to revoke a token with the identifier `jti`, in the state `s`. -/
inductive Revokes (s : SessionManager Tok) (token : Tok) (jti : String) : SmOp Tok → Prop
  | revoke_token : Revokes s token jti (.revoke_token token)
  | revoke_jti : Revokes s token jti (.revoke_jti jti none)
  | reissue {a : IssueArgs} : ¬(a.agent_type = "" ∨ a.requester_id = "") →
      s.previous a = some jti → Revokes s token jti (.issue_token a)

theorem Revokes.writes {E : Env Tok} {s : SessionManager Tok} {token : Tok} {p : Payload}
    {jti : String} {op : SmOp Tok} (h : Revokes s token jti op)
    (hp : E.jose.get_unverified_claims token = some p) (hj : p.jti = some jti) :
    ∃ e, op.writes E s jti = some e := by
  cases h with
  | revoke_token => exact ⟨p.exp.getD (s.reading 0), by simp [SmOp.writes, hp, hj]⟩
  | revoke_jti => exact ⟨_, if_pos rfl⟩
  | reissue hn hprev => exact ⟨_, if_pos ⟨hn, hprev⟩⟩

/-- After a revocation the entry is the one the revocation wrote, or a later one. -/
theorem Revokes.follows {E : Env Tok} {s : SessionManager Tok} {token : Tok} {p : Payload}
    {jti : String} {op : SmOp Tok} (h : Revokes s token jti op)
    (hp : E.jose.get_unverified_claims token = some p) (hj : p.jti = some jti)
    (ops : List (SmOp Tok)) :
    Follows jti (lastEntry E jti none s (op :: ops)) (afterAll E s (op :: ops)) := by
  obtain ⟨e, he⟩ := h.writes hp hj
  have h₀ : Follows jti (s.revoked_jtis jti) s := fun t _ => rfl
  have h₁ := follows_afterAll (E := E) ops (op.follows (E := E) h₀)
  rw [he] at h₁
  show Follows jti (lastEntry E jti ((op.writes E s jti).or none) (op.next E s) ops) _
  rw [he]
  exact h₁

/-- **How long a revocation lasts.**  Over any run after a revocation, every presentation of the
token is refused exactly when each falls before the last entry written for it lapses, or where jose
refuses the token's time claims. -/
theorem revoked_token_refused_iff {E : Env Tok} (hJ : E.jose.Reads) {s : SessionManager Tok}
    {token : Tok} {p : Payload} {jti : String} {op : SmOp Tok}
    (hp : E.jose.get_unverified_claims token = some p) (hj : p.jti = some jti)
    (hrev : Revokes s token jti op) (ops : List (SmOp Tok)) :
    (∀ pre post, ops = pre ++ .validate_token token :: post →
        ¬Accepts E token (afterAll E s (op :: pre))) ↔
      ∀ pre post, ops = pre ++ .validate_token token :: post → Genuine E token p jti →
        InForce (lastEntry E jti none s (op :: pre)) ((afterAll E s (op :: pre)).reading 2) ∨
          ¬TimeOk p ((afterAll E s (op :: pre)).reading 0) := by
  constructor
  · intro h pre post hops hg
    have hna := h pre post hops
    rw [accepts_iff hJ hp hj (hrev.follows hp hj pre)] at hna
    by_contra hcon
    push Not at hcon
    exact hna ⟨hg, hcon.2, hcon.1⟩
  · intro h pre post hops ha
    rw [accepts_iff hJ hp hj (hrev.follows hp hj pre)] at ha
    obtain ⟨hg, ht, hn⟩ := ha
    rcases h pre post hops hg with hin | hnt
    · exact hn hin
    · exact hnt ht

/-! ### A token that outlives its revocation -/

/-- A clock that shows 0, 1000, 2000, … -/
def everyThousandSeconds : Clock where
  reading := fun n => 1000 * n
  mono := by
    intro m n h
    have : (m : ℚ) ≤ n := by exact_mod_cast h
    show (1000 : ℚ) * m ≤ 1000 * n
    linarith
  tick := 0

/-- A token for an hour. -/
def anHour : IssueArgs where
  agent_type := "general"
  requester_id := "client"
  expires_in_seconds := some 3600

def hourManager : SessionManager SymToken :=
  SessionManager.fresh (.in_memory fun _ => none) everyThousandSeconds (fun _ => "jti-0")

/-- What `hourManager` issues for `anHour`. -/
def hourToken : SymToken where
  header := { typ := some "JWT", alg := some "HS256" }
  payload := issued_claims (symbolicEnv {}) anHour "jti-0" 0 none
  key := "change-me-in-production-use-a-strong-random-key"

/-- The manager once it has issued the token. -/
def hourIssued : SessionManager SymToken := afterAll (symbolicEnv {}) hourManager [.issue_token anHour]

theorem hourManager_issues : issue_token (symbolicEnv {}) anHour hourManager =
    .ok hourToken (hourManager.issued (symbolicEnv {}) anHour) := by
  have hread : hourManager.reading 0 = 0 := by
    simp [SessionManager.reading, hourManager, SessionManager.fresh, everyThousandSeconds]
  have hencode : encode_access_token (symbolicEnv {}) anHour "jti-0" 0 = .ok hourToken := by
    simp only [encode_access_token, symbolicEnv_signing_key]
    rfl
  have huuid : hourManager.uuid4 hourManager.uuids_drawn = "jti-0" := rfl
  rw [issue_token_run (by decide), hread, huuid, hencode]

theorem hourIssued_eq : hourIssued = hourManager.issued (symbolicEnv {}) anHour := by
  show after (issue_token (symbolicEnv {}) anHour hourManager) = _
  rw [hourManager_issues]
  rfl

/-- Revoked by its identifier at 1000 s, the token is refused until 1900 s only: presented between
2000 s and 4000 s it is accepted again, for it expires at 3600 s. -/
theorem revoked_token_accepted :
    issue_token (symbolicEnv {}) anHour hourManager = .ok hourToken hourIssued ∧
      Revokes hourIssued hourToken "jti-0" (.revoke_jti "jti-0" none) ∧
      Accepts (symbolicEnv {}) hourToken
        (afterAll (symbolicEnv {}) hourIssued [.revoke_jti "jti-0" none]) := by
  rw [hourIssued_eq]
  refine ⟨hourManager_issues, .revoke_jti, ?_⟩
  have hs : Signed (symbolicEnv {}) hourToken hourToken.payload :=
    ⟨_, symbolicEnv_verification_key rfl, by simp [symbolicEnv, symbolicJose, hourToken]⟩
  have hc : ∃ c, token_claims hourToken.payload "jti-0" = .ok c := ⟨_, rfl⟩
  obtain ⟨c, hc⟩ := hc
  refine ⟨c, _, validate_token_ok_iff.mpr ⟨_, "jti-0", hs, ⟨?_, ?_⟩, rfl, ?_, hc, rfl⟩⟩
  · intro nbf hn
    cases hn
  · intro exp he
    cases he
    decide +kernel
  · decide +kernel

/-- The criterion on the same token, revoked by presenting it. -/
theorem hourToken_refused_iff :
    Revokes hourIssued hourToken "jti-0" (.revoke_token hourToken) ∧
      ((∀ pre post, [SmOp.validate_token hourToken] = pre ++ .validate_token hourToken :: post →
          ¬Accepts (symbolicEnv {}) hourToken
            (afterAll (symbolicEnv {}) hourIssued (.revoke_token hourToken :: pre))) ↔
        ∀ pre post, [SmOp.validate_token hourToken] = pre ++ .validate_token hourToken :: post →
          Genuine (symbolicEnv {}) hourToken hourToken.payload "jti-0" →
          InForce (lastEntry (symbolicEnv {}) "jti-0" none hourIssued
              (.revoke_token hourToken :: pre))
            ((afterAll (symbolicEnv {}) hourIssued (.revoke_token hourToken :: pre)).reading 2) ∨
          ¬TimeOk hourToken.payload
            ((afterAll (symbolicEnv {}) hourIssued (.revoke_token hourToken :: pre)).reading 0)) :=
  ⟨.revoke_token, revoked_token_refused_iff symbolicJose_reads rfl rfl .revoke_token _⟩

end AegisOs
