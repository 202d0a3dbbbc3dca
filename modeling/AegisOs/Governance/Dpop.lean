/-
# `AegisOs.Governance.Dpop` — how often a proof of possession is accepted

Any sequence of `validate_dpop_proof` calls, for any proofs, on the wall clock.
A call goes through two gates: the checks on the proof itself
(`check_dpop_proof`: header, signature, method, URL, the window around `iat`,
nonce, access token), and the replay store.  For one proof and one run,

    presentations   the readings at which calls on it that passed the first gate
                    reached the store
    acceptances     how many calls on it returned

A registration lives for `dpop_proof_ttl_seconds`, counted from the call, while
the first gate opens for a proof from `iat - skew` until `iat + ttl`, ends
included.  So a proof is accepted once if its presentations all lie within one
lifetime of a registration, and, where nothing else writes its identifier,
only then (`single_use_iff_spaced`).

The invariant is `Holds`: what the store answers for an identifier from now
on, whichever of the two stores it is and whenever it was purged.
-/
import AegisOs.Governance.TokenSpec

namespace AegisOs

open Lib Lib.EState

variable {Tok : Type}

/-! ## Calls -/

/-- One presentation of a proof. -/
structure DpopCall (Tok : Type) where
  proof : Tok
  rq : ProofRequest Tok

/-- The manager after a call, whether it returned or raised. -/
def DpopCall.next (E : Env Tok) (s : SessionManager Tok) (call : DpopCall Tok) :
    SessionManager Tok :=
  after (validate_dpop_proof E call.proof call.rq none s)

/-- Whether a call returns. -/
def DpopCall.accepted (E : Env Tok) (s : SessionManager Tok) (call : DpopCall Tok) : Bool :=
  match validate_dpop_proof E call.proof call.rq none s with
  | .ok _ _ => true
  | .error _ _ => false

/-- When a call reaches the store, if the checks on the proof let it. -/
def DpopCall.presented (E : Env Tok) (s : SessionManager Tok) (call : DpopCall Tok) : Option ℚ :=
  match check_dpop_proof E call.proof call.rq none s with
  | .ok _ s' => some (s'.reading 0)
  | .error _ _ => none

section
variable [DecidableEq Tok]

def presentations (E : Env Tok) (proof : Tok) :
    SessionManager Tok → List (DpopCall Tok) → List ℚ
  | _, [] => []
  | s, call :: calls =>
      (if call.proof = proof then (call.presented E s).toList else []) ++
        presentations E proof (call.next E s) calls

def acceptances (E : Env Tok) (proof : Tok) : SessionManager Tok → List (DpopCall Tok) → ℕ
  | _, [] => 0
  | s, call :: calls =>
      (if call.proof = proof ∧ call.accepted E s then 1 else 0) +
        acceptances E proof (call.next E s) calls

end

/-! ## The first gate -/

/-- The claims a proof is signed for, by the key in its own header. -/
def ProofOf (E : Env Tok) (proof : Tok) (c : DPoPProofClaims) : Prop :=
  ∃ header jwk pem p, E.jose.get_unverified_header proof = some header ∧ header.jwk = some jwk ∧
    public_pem_from_jwk E.crypto jwk = .ok pem ∧
    E.jose.verify proof pem (header.alg.getD "ES256") = some p ∧ proof_claims p = .ok c

theorem ProofOf.unique {E : Env Tok} {proof : Tok} {c c' : DPoPProofClaims} (h : ProofOf E proof c)
    (h' : ProofOf E proof c') : c = c' := by
  obtain ⟨header, jwk, pem, p, hh, hj, hp, hv, hc⟩ := h
  obtain ⟨header', jwk', pem', p', hh', hj', hp', hv', hc'⟩ := h'
  cases hh.symm.trans hh'
  cases hj.symm.trans hj'
  cases hp.symm.trans hp'
  cases hv.symm.trans hv'
  cases hc.symm.trans hc'
  rfl

theorem decode_dpop_proof_ok {E : Env Tok} {proof : Tok} {c : DPoPProofClaims}
    {s s' : SessionManager Tok} (h : decode_dpop_proof E proof s = .ok c s') :
    ProofOf E proof c := by
  unfold decode_dpop_proof at h
  obtain ⟨header, s₁, hh, h₁⟩ := bind_eq_ok.mp h
  have hh := (orRaise_eq_ok.mp hh).1
  split at h₁
  · cases h₁
  · obtain ⟨jwk, s₂, hj, h₂⟩ := bind_eq_ok.mp h₁
    have hj := (orRaise_eq_ok.mp hj).1
    obtain ⟨pem, s₃, hp, h₃⟩ := bind_eq_ok.mp h₂
    have hp := (ofExcept_eq_ok.mp hp).1
    obtain ⟨p, s₄, hv, h₄⟩ := bind_eq_ok.mp h₃
    have hc := (ofExcept_eq_ok.mp h₄).1
    rw [catching_eq_ok_iff_body fun _ _ => .clause (.throw _) (.clause (.throw _) .no_clause)] at hv
    exact ⟨header, jwk, pem, p, hh, hj, hp, (jwt_decode_ok_iff.mp hv).1, hc⟩

theorem check_dpop_proof_ok {E : Env Tok} {proof : Tok} {rq : ProofRequest Tok}
    {c : DPoPProofClaims} {s s' : SessionManager Tok}
    (h : check_dpop_proof E proof rq none s = .ok c s') : ProofOf E proof c := by
  unfold check_dpop_proof at h
  obtain ⟨now, s₁, _, h₁⟩ := bind_eq_ok.mp h
  obtain ⟨c', s₂, hd, h₂⟩ := bind_eq_ok.mp h₁
  obtain ⟨_, s₃, _, h₃⟩ := bind_eq_ok.mp h₂
  cases h₃
  exact decode_dpop_proof_ok hd

/-- Time passes and the store is left alone. -/
def Elapses (s s' : SessionManager Tok) : Prop :=
  s'.replay_store = s.replay_store ∧ s'.clock.reading = s.clock.reading ∧
    s.clock.tick ≤ s'.clock.tick

theorem Elapses.refl (s : SessionManager Tok) : Elapses s s := ⟨rfl, rfl, le_refl _⟩

theorem Elapses.trans (s₁ s₂ s₃ : SessionManager Tok) (h₁ : Elapses s₁ s₂) (h₂ : Elapses s₂ s₃) :
    Elapses s₁ s₃ :=
  ⟨h₂.1.trans h₁.1, h₂.2.1.trans h₁.2.1, h₁.2.2.trans h₂.2.2⟩

theorem Elapses.reading_le {s s' : SessionManager Tok} (h : Elapses s s') :
    s.reading 0 ≤ s'.reading 0 := by
  unfold SessionManager.reading
  rw [h.2.1]
  exact s.clock.mono (Nat.add_le_add_right h.2.2 0)

theorem elapses_time : Keeps Elapses (time : SM Tok ℚ) := fun _ => ⟨rfl, rfl, Nat.le_succ _⟩

theorem elapses_orRaise {α : Type} (e : Exc) (o : Option α) :
    Keeps Elapses (orRaise e o : SM Tok α) := by
  cases o with
  | none => exact Keeps.throw Elapses.refl e
  | some a => exact Keeps.pure Elapses.refl a

theorem elapses_jwt_decode (E : Env Tok) (token : Tok) (key alg : String) :
    Keeps Elapses (jwt_decode E token key alg) := by
  refine Keeps.bind Elapses.trans (elapses_orRaise _ _) fun p => ?_
  refine Keeps.bind Elapses.trans elapses_time fun now => ?_
  refine Keeps.ite (Keeps.throw Elapses.refl _) ?_
  exact Keeps.ite (Keeps.throw Elapses.refl _) (Keeps.pure Elapses.refl _)

theorem elapses_decode_dpop_proof (E : Env Tok) (proof : Tok) :
    Keeps Elapses (decode_dpop_proof E proof) := by
  refine Keeps.bind Elapses.trans (elapses_orRaise _ _) fun header => ?_
  refine Keeps.ite (Keeps.throw Elapses.refl _) ?_
  refine Keeps.bind Elapses.trans (elapses_orRaise _ _) fun jwk => ?_
  refine Keeps.bind Elapses.trans (Keeps.ofExcept Elapses.refl _) fun pem => ?_
  refine Keeps.bind Elapses.trans ?_ fun p => Keeps.ofExcept Elapses.refl _
  refine Keeps.catching Elapses.trans (elapses_jwt_decode E _ _ _) ?_
  intro e h he
  split at he
  · cases he
    exact Keeps.throw Elapses.refl _
  · split at he
    · cases he
      exact Keeps.throw Elapses.refl _
    · cases he

theorem elapses_check_dpop_proof (E : Env Tok) (proof : Tok) (rq : ProofRequest Tok) :
    Keeps Elapses (check_dpop_proof E proof rq none) := by
  refine Keeps.bind Elapses.trans elapses_time fun now => ?_
  refine Keeps.bind Elapses.trans (elapses_decode_dpop_proof E proof) fun c => ?_
  refine Keeps.bind Elapses.trans (Keeps.ofExcept Elapses.refl _) fun _ => ?_
  exact Keeps.pure Elapses.refl c

/-! ## The second gate -/

/-- From now on the store answers for `jti` as the entry `last` would. -/
def Holds (jti : String) (last : Option ℚ) (s : SessionManager Tok) : Prop :=
  ∀ t, s.reading 0 ≤ t → s.replay_store.live t jti = last.filter (fun e => decide (t < e))

theorem Holds.elapses {jti : String} {last : Option ℚ} {s s' : SessionManager Tok}
    (h : Holds jti last s) (he : Elapses s s') : Holds jti last s' := by
  intro t ht
  rw [he.1]
  exact h t (le_trans he.reading_le ht)

theorem register_if_unused_run (jti : String) (ttl : ℤ) (s : SessionManager Tok) :
    register_if_unused jti ttl s =
      match s.replay_store.register_if_unused (s.reading 0) jti ttl with
      | .ok (fresh, store) => .ok fresh { s with clock := s.clock.advance, replay_store := store }
      | .error e => .error e { s with clock := s.clock.advance } := by
  have hget : (get : SM Tok (SessionManager Tok)) { s with clock := s.clock.advance } =
      .ok { s with clock := s.clock.advance } { s with clock := s.clock.advance } := rfl
  unfold register_if_unused
  rw [bind_ok (time_run s), bind_ok hget]
  cases hr : s.replay_store.register_if_unused (s.reading 0) jti ttl with
  | error e => exact bind_error (ofExcept_error e _)
  | ok r => rfl

/-- What one call can do. -/
inductive DpopCall.Outcome (E : Env Tok) (s : SessionManager Tok) (call : DpopCall Tok) : Prop
  /-- The checks on the proof refuse it. -/
  | rejected : call.presented E s = none → call.accepted E s = false →
      Elapses s (call.next E s) → Outcome E s call
  /-- The store refuses it. -/
  | replayed {c : DPoPProofClaims} {t : ℚ} : ProofOf E call.proof c →
      call.presented E s = some t → call.accepted E s = false → s.reading 0 ≤ t →
      t ≤ (call.next E s).reading 0 →
      (0 < E.settings.dpop_proof_ttl_seconds → (s.replay_store.live t c.jti).isSome) →
      (∀ jti last, Holds jti last s → Holds jti last (call.next E s)) → Outcome E s call
  /-- It is registered. -/
  | fresh {c : DPoPProofClaims} {t : ℚ} : ProofOf E call.proof c →
      call.presented E s = some t → call.accepted E s = true → s.reading 0 ≤ t →
      t ≤ (call.next E s).reading 0 → s.replay_store.live t c.jti = none →
      Holds c.jti (some (t + E.settings.dpop_proof_ttl_seconds)) (call.next E s) →
      (∀ jti last, jti ≠ c.jti → Holds jti last s → Holds jti last (call.next E s)) →
      Outcome E s call

theorem DpopCall.outcome (E : Env Tok) (s : SessionManager Tok) (call : DpopCall Tok) :
    call.Outcome E s := by
  have hkeep := elapses_check_dpop_proof E call.proof call.rq
  cases hc : check_dpop_proof E call.proof call.rq none s with
  | error e s₁ =>
      have hv : validate_dpop_proof E call.proof call.rq none s = .error e s₁ := bind_error hc
      refine .rejected (by simp [presented, hc]) (by simp [accepted, hv]) ?_
      have := hkeep.error hc
      simpa [next, hv, after] using this
  | ok c s₁ =>
      have hel := hkeep.ok hc
      have hproof := check_dpop_proof_ok hc
      have hpres : call.presented E s = some (s₁.reading 0) := by simp [presented, hc]
      have hrun : validate_dpop_proof E call.proof call.rq none s = _ := bind_ok hc
      have hadv : s₁.reading 0 ≤ s₁.reading 1 := s₁.reading_mono (Nat.zero_le 1)
      have hreg := register_if_unused_run c.jti E.settings.dpop_proof_ttl_seconds s₁
      cases hst : s₁.replay_store.register_if_unused (s₁.reading 0) c.jti
          E.settings.dpop_proof_ttl_seconds with
      | error e =>
          rw [hst] at hreg
          rw [bind_error hreg] at hrun
          have hnext : call.next E s = { s₁ with clock := s₁.clock.advance } := by
            simp [next, hrun, after]
          refine .replayed hproof hpres (by simp [accepted, hrun]) hel.reading_le
            (by rw [hnext]; exact hadv) ?_ ?_
          · intro hpos
            exact absurd (ReplayStore.register_error hst).1 (not_le.mpr hpos)
          · intro jti last h
            rw [hnext]
            exact (h.elapses hel).elapses ⟨rfl, rfl, Nat.le_succ _⟩
      | ok r =>
          obtain ⟨b, store⟩ := r
          rw [hst] at hreg
          rw [bind_ok hreg] at hrun
          rcases ReplayStore.register_cases hst with ⟨rfl, hlive, hsame⟩ | ⟨rfl, hnone, hself, hother⟩
          · have hnext : call.next E s =
                { s₁ with clock := s₁.clock.advance, replay_store := store } := by
              rw [next, hrun]
              rfl
            refine .replayed hproof hpres (by rw [accepted, hrun]; rfl) hel.reading_le
              (by rw [hnext]; exact hadv) ?_ ?_
            · intro _
              rw [← hel.1]
              exact hlive
            · intro jti last h t ht
              rw [hnext] at ht ⊢
              have ht' : s₁.reading 0 ≤ t := le_trans hadv ht
              exact (hsame t ht' jti).trans (h.elapses hel t ht')
          · have hnext : call.next E s =
                { s₁ with clock := s₁.clock.advance, replay_store := store } := by
              rw [next, hrun]
              rfl
            refine .fresh hproof hpres (by rw [accepted, hrun]; rfl) hel.reading_le
              (by rw [hnext]; exact hadv) ?_ ?_ ?_
            · rw [← hel.1]
              exact hnone
            · intro t ht
              rw [hnext] at ht ⊢
              exact hself t (le_trans hadv ht)
            · intro jti last hne h t ht
              rw [hnext] at ht ⊢
              have ht' : s₁.reading 0 ≤ t := le_trans hadv ht
              exact (hother t ht' jti hne).trans (h.elapses hel t ht')

/-! ## Runs -/

/-- Each of these instants is less than one lifetime of a registration after every earlier one. -/
def Spaced (E : Env Tok) (ts : List ℚ) : Prop :=
  ts.Pairwise (fun t₁ t₂ : ℚ => t₂ < t₁ + E.settings.dpop_proof_ttl_seconds)

/-- No other proof of the run carries the identifier of `proof`. -/
def Unshared (E : Env Tok) (proof : Tok) (calls : List (DpopCall Tok)) : Prop :=
  ∀ call ∈ calls, call.proof ≠ proof → ∀ c c', ProofOf E proof c → ProofOf E call.proof c' →
    c'.jti ≠ c.jti

/-- A call on another proof leaves the entry of an unshared identifier alone. -/
theorem Unshared.holds {E : Env Tok} {proof : Tok} {c : DPoPProofClaims} {call : DpopCall Tok}
    {calls : List (DpopCall Tok)} {s : SessionManager Tok} {last : Option ℚ}
    (hu : Unshared E proof (call :: calls)) (hc : ProofOf E proof c) (hne : call.proof ≠ proof)
    (h : Holds c.jti last s) : Holds c.jti last (call.next E s) := by
  cases call.outcome E s with
  | rejected _ _ hel => exact h.elapses hel
  | replayed _ _ _ _ _ _ hsame => exact hsame _ _ h
  | @fresh c' _ hc' _ _ _ _ _ _ hother =>
      exact hother _ _ (Ne.symm (hu call List.mem_cons_self hne c c' hc hc')) h

section
variable [DecidableEq Tok]

theorem le_of_mem_presentations {E : Env Tok} {proof : Tok} (calls : List (DpopCall Tok)) :
    ∀ {s : SessionManager Tok} {t : ℚ}, t ∈ presentations E proof s calls → s.reading 0 ≤ t := by
  induction calls with
  | nil =>
      intro s t ht
      cases ht
  | cons call calls ih =>
      intro s t ht
      rcases List.mem_append.mp ht with ht | ht
      · split at ht
        · cases call.outcome E s with
          | rejected hp _ _ => simp [hp] at ht
          | replayed _ hp _ hle _ _ _ =>
              rw [hp] at ht
              simp only [Option.toList_some, List.mem_singleton] at ht
              exact ht ▸ hle
          | fresh _ hp _ hle _ _ _ _ =>
              rw [hp] at ht
              simp only [Option.toList_some, List.mem_singleton] at ht
              exact ht ▸ hle
        · cases ht
      · have := ih ht
        cases call.outcome E s with
        | rejected _ _ hel => exact le_trans hel.reading_le this
        | replayed _ _ _ hle hle' _ _ => exact le_trans hle (le_trans hle' this)
        | fresh _ _ _ hle hle' _ _ _ => exact le_trans hle (le_trans hle' this)

/-- A proof that is not signed for any claims is never presented. -/
theorem presentations_eq_nil {E : Env Tok} {proof : Tok} (hno : ¬∃ c, ProofOf E proof c)
    (calls : List (DpopCall Tok)) :
    ∀ {s : SessionManager Tok}, presentations E proof s calls = [] := by
  induction calls with
  | nil => exact rfl
  | cons call calls ih =>
      intro s
      by_cases hproof : call.proof = proof
      · subst hproof
        cases call.outcome E s with
        | rejected hp _ _ => simp [presentations, hp, ih]
        | replayed hc _ _ _ _ _ _ => exact absurd ⟨_, hc⟩ hno
        | fresh hc _ _ _ _ _ _ _ => exact absurd ⟨_, hc⟩ hno
      · simp [presentations, hproof, ih]

/-- While the store holds an entry that outlives `a + ttl`, presentations before that instant are
all refused.  The entry may be replaced by another proof's, which lapses later still. -/
theorem acceptances_eq_zero {E : Env Tok} {proof : Tok} {c : DPoPProofClaims}
    (hc : ProofOf E proof c) {a : ℚ} (calls : List (DpopCall Tok)) :
    ∀ {s : SessionManager Tok} {e : ℚ}, Holds c.jti (some e) s → a ≤ s.reading 0 →
      a + E.settings.dpop_proof_ttl_seconds ≤ e →
      (∀ t ∈ presentations E proof s calls, t < a + E.settings.dpop_proof_ttl_seconds) →
      acceptances E proof s calls = 0 := by
  induction calls with
  | nil => intros; rfl
  | cons call calls ih =>
      intro s e hh ha hae hall
      have htail : ∀ t ∈ presentations E proof (call.next E s) calls,
          t < a + E.settings.dpop_proof_ttl_seconds :=
        fun t ht => hall t (List.mem_append_right _ ht)
      cases call.outcome E s with
      | rejected _ hacc hel =>
          simp only [acceptances, hacc]
          simpa using ih (hh.elapses hel) (le_trans ha hel.reading_le) hae htail
      | replayed _ _ hacc hle hle' _ hsame =>
          simp only [acceptances, hacc]
          simpa using ih (hsame _ _ hh) (le_trans ha (le_trans hle hle')) hae htail
      | @fresh c' t hc' hp hacc hle hle' hnone hself hother =>
          have hne : call.proof ≠ proof := by
            rintro rfl
            have hcc := hc.unique hc'
            subst hcc
            have ht : t < a + E.settings.dpop_proof_ttl_seconds := by
              refine hall t (List.mem_append_left _ ?_)
              simp [hp]
            rw [hh t hle] at hnone
            exact absurd (lt_of_lt_of_le ht hae) (not_lt.mpr (by simpa using hnone))
          have hrest : acceptances E proof (call.next E s) calls = 0 := by
            by_cases hj : c'.jti = c.jti
            · rw [hj] at hself
              refine ih hself (le_trans ha (le_trans hle hle')) ?_ htail
              linarith
            · exact ih (hother _ _ (Ne.symm hj) hh) (le_trans ha (le_trans hle hle')) hae htail
          simp [acceptances, hne, hrest]

/-- Presentations that all lie within one lifetime of a registration: at most one is accepted. -/
theorem acceptances_le_one {E : Env Tok} {proof : Tok} (calls : List (DpopCall Tok)) :
    ∀ {s : SessionManager Tok}, Spaced E (presentations E proof s calls) →
      acceptances E proof s calls ≤ 1 := by
  induction calls with
  | nil => exact fun _ => Nat.zero_le 1
  | cons call calls ih =>
      intro s hpair
      have hrest := ih (List.pairwise_append.mp hpair).2.1
      by_cases hacc : call.proof = proof ∧ call.accepted E s = true
      · obtain ⟨rfl, hacc⟩ := hacc
        cases call.outcome E s with
        | rejected _ h _ => simp [h] at hacc
        | replayed _ _ h _ _ _ _ => simp [h] at hacc
        | @fresh c t hc hp _ _ hle' _ hself _ =>
            have hzero : acceptances E call.proof (call.next E s) calls = 0 := by
              refine acceptances_eq_zero hc calls hself hle' le_rfl ?_
              intro t' ht'
              refine (List.pairwise_append.mp hpair).2.2 t ?_ t' ht'
              simp [hp]
            simp [acceptances, hzero, hacc]
      · simpa [acceptances, hacc] using hrest

/-- If nothing more is accepted, then nothing more was presented after the entry lapsed. -/
theorem presentations_lt {E : Env Tok} {proof : Tok} {c : DPoPProofClaims} (hc : ProofOf E proof c)
    (hpos : 0 < E.settings.dpop_proof_ttl_seconds) {e : ℚ} (calls : List (DpopCall Tok)) :
    ∀ {s : SessionManager Tok}, Unshared E proof calls → Holds c.jti (some e) s →
      acceptances E proof s calls = 0 → ∀ t ∈ presentations E proof s calls, t < e := by
  induction calls with
  | nil =>
      intro s _ _ _ t ht
      cases ht
  | cons call calls ih =>
      intro s hu hh hzero
      have hu' : Unshared E proof calls := fun x hx => hu x (List.mem_cons_of_mem _ hx)
      have hz := Nat.add_eq_zero_iff.mp hzero
      by_cases hproof : call.proof = proof
      · subst hproof
        cases call.outcome E s with
        | rejected hp _ hel =>
            simpa [presentations, hp] using ih hu' (hh.elapses hel) hz.2
        | @replayed c' t hc' hp _ hle _ hlive hsame =>
            have hcc := hc.unique hc'
            subst hcc
            have hlt : t < e := by
              have := hlive hpos
              rw [hh t hle] at this
              by_contra hge
              simp [hge] at this
            have hrest := ih hu' (hsame _ _ hh) hz.2
            intro t' ht'
            simp only [presentations, hp, if_true, Option.toList_some, List.cons_append,
              List.nil_append, List.mem_cons] at ht'
            rcases ht' with rfl | ht'
            · exact hlt
            · exact hrest t' ht'
        | fresh _ _ hacc _ _ _ _ _ => simp [hacc] at hz
      · simpa [presentations, hproof] using ih hu' (hu.holds hc hproof hh) hz.2

/-- A proof accepted at most once was presented within one lifetime of a registration. -/
theorem spaced_of_acceptances_le_one {E : Env Tok} {proof : Tok} {c : DPoPProofClaims}
    (hc : ProofOf E proof c) (hpos : 0 < E.settings.dpop_proof_ttl_seconds)
    (calls : List (DpopCall Tok)) :
    ∀ {s : SessionManager Tok}, Unshared E proof calls → Holds c.jti none s →
      acceptances E proof s calls ≤ 1 → Spaced E (presentations E proof s calls) := by
  induction calls with
  | nil => exact fun _ _ _ => List.Pairwise.nil
  | cons call calls ih =>
      intro s hu hh hone
      have hu' : Unshared E proof calls := fun x hx => hu x (List.mem_cons_of_mem _ hx)
      have hone' : acceptances E proof (call.next E s) calls ≤ 1 :=
        le_trans (Nat.le_add_left _ _) hone
      by_cases hproof : call.proof = proof
      · subst hproof
        cases call.outcome E s with
        | rejected hp _ hel =>
            simpa [presentations, hp] using ih hu' (hh.elapses hel) hone'
        | @replayed c' t hc' _ _ hle _ hlive _ =>
            have hcc := hc.unique hc'
            subst hcc
            have := hlive hpos
            rw [hh t hle] at this
            simp at this
        | @fresh c' t hc' hp hacc _ hle' _ hself _ =>
            have hcc := hc.unique hc'
            subst hcc
            have hzero : acceptances E call.proof (call.next E s) calls = 0 := by
              simpa [acceptances, hacc] using hone
            have hlt := presentations_lt hc hpos calls hu' hself hzero
            have hge : ∀ t' ∈ presentations E call.proof (call.next E s) calls, t ≤ t' :=
              fun t' ht' => le_trans hle' (le_of_mem_presentations calls ht')
            simp only [presentations, hp, if_true, Option.toList_some, List.cons_append,
              List.nil_append]
            refine List.Pairwise.cons hlt (List.pairwise_of_forall_mem_list ?_)
            intro t₁ h₁ t₂ h₂
            have := hlt t₂ h₂
            have := hge t₁ h₁
            linarith
      · simpa [presentations, hproof] using ih hu' (hu.holds hc hproof hh) hone'

/-- **How often a proof is accepted.**  In any run, whichever the store, a proof whose presentations
reach the store within one lifetime of a registration is accepted at most once.  Where the
identifier is not registered yet and no other proof carries it, only such a proof is. -/
theorem single_use_iff_spaced (E : Env Tok) (proof : Tok) (s : SessionManager Tok)
    (calls : List (DpopCall Tok)) :
    (Spaced E (presentations E proof s calls) → acceptances E proof s calls ≤ 1) ∧
    (0 < E.settings.dpop_proof_ttl_seconds → Unshared E proof calls →
      (∀ c, ProofOf E proof c → s.replay_store.live (s.reading 0) c.jti = none) →
      acceptances E proof s calls ≤ 1 → Spaced E (presentations E proof s calls)) := by
  refine ⟨acceptances_le_one calls, ?_⟩
  intro hpos hu hfresh hone
  by_cases hc : ∃ c, ProofOf E proof c
  · obtain ⟨c, hc⟩ := hc
    refine spaced_of_acceptances_le_one hc hpos calls hu ?_ hone
    intro t ht
    exact ReplayStore.live_eq_none_of_le ht (hfresh c hc)
  · rw [presentations_eq_nil hc]
    exact List.Pairwise.nil

end

/-! ### A proof that outlives its registration -/

/-- A clock that shows 0 for the length of one call and `gap` after it. -/
def twoReadings (gap : ℚ) (h : 0 ≤ gap) : Clock where
  reading := fun n => if n < 3 then 0 else gap
  mono := by
    intro m n hmn
    show (if m < 3 then (0 : ℚ) else gap) ≤ if n < 3 then 0 else gap
    split <;> split
    · exact le_rfl
    · exact h
    · omega
    · exact le_rfl
  tick := 0

/-- A proof by a client whose clock is 30 s ahead. -/
def earlyProof : SymToken where
  header :=
    { typ := some "dpop+jwt"
      alg := some "ES256"
      jwk := some [("kty", "EC"), ("crv", "P-256"), ("x", "AQ"), ("y", "AQ")] }
  payload :=
    { jti := some "proof-0"
      htm := some "POST"
      htu := some "https://aegis.local/tasks"
      iat := some 30 }
  key := "pem"

def earlyCall : DpopCall SymToken :=
  ⟨earlyProof, { http_method := "POST", http_url := "https://aegis.local/tasks" }⟩

/-- A manager that is called at 0 s and then at `gap`. -/
def replayManager (store : ReplayStore) (gap : ℚ) (h : 0 ≤ gap) : SessionManager SymToken :=
  SessionManager.fresh store (twoReadings gap h) (fun _ => "")

/-- Under the default settings a proof dated 30 s ahead is accepted at 0 s and again at 310 s, by
either store. -/
theorem proof_accepted_twice :
    acceptances (symbolicEnv {}) earlyProof
        (replayManager (.in_memory fun _ => none) 310 (by decide)) [earlyCall, earlyCall] = 2 ∧
      acceptances (symbolicEnv {}) earlyProof
        (replayManager (.redis "dpop" fun _ => none) 310 (by decide)) [earlyCall, earlyCall] = 2 := by
  decide +kernel

/-- Presented again after 200 s it is refused. -/
theorem proof_accepted_once :
    Spaced (symbolicEnv {}) (presentations (symbolicEnv {}) earlyProof
        (replayManager (.in_memory fun _ => none) 200 (by decide)) [earlyCall, earlyCall]) ∧
      acceptances (symbolicEnv {}) earlyProof
        (replayManager (.in_memory fun _ => none) 200 (by decide)) [earlyCall, earlyCall] ≤ 1 := by
  have hp : presentations (symbolicEnv {}) earlyProof
      (replayManager (.in_memory fun _ => none) 200 (by decide)) [earlyCall, earlyCall] =
      [0, 200] := by
    decide +kernel
  have hs : Spaced (symbolicEnv {}) [0, 200] := by
    simp [Spaced, symbolicEnv]
    norm_num
  rw [← hp] at hs
  exact ⟨hs, (single_use_iff_spaced _ _ _ _).1 hs⟩

end AegisOs
