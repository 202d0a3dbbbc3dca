/-
# `AegisOs.ControlPlane.World` — the components the control plane wires together

The orchestrator and the Temporal activities are given the same collaborators:
guardrails, a policy engine, a session manager, an adapter, two watchdogs and
an audit logger.  Those with a state are the fields of a `World`; a method of
one of them runs on its field (`on_session_mgr`, `on_budget`, `on_loop`).  The
policy engine and the adapter are on the other side of an await, so they are
not part of the world: their answers come from the environment.

Guardrails are injected and have no state, so they are a record of functions.
-/
import AegisOs.Governance.TokenSpec
import AegisOs.Governance.PolicyEngine
import AegisOs.Governance.Guardrails
import AegisOs.Watchdog.BudgetEnforcer
import AegisOs.Watchdog.LoopDetector

namespace AegisOs

open Lib

/-! ## The adapter -/

/-- `LLMRequest`, whose `metadata` holds the token and, in protected flows, the proof. -/
structure LLMRequest (Tok : Type) where
  prompt : String
  model : String
  max_tokens : ℤ := 1024
  temperature : ℚ := 7 / 10
  system_prompt : String := ""
  aegis_token : Tok
  aegis_dpop_proof : Option Tok := none

structure LLMResponse where
  content : String
  tokens_used : ℤ
  model : String
  provider : String
  finish_reason : String := "stop"
  deriving DecidableEq

/-- The synchronous part of an adapter. -/
structure Adapter (Tok : Type) where
  provider_name : String
  outbound_request_binding : LLMRequest Tok → Option (String × String) := fun _ => none

/-! ## The world -/

structure World (Tok : Type) where
  session_mgr : SessionManager Tok
  budget_enforcer : BudgetEnforcer
  loop_detector : LoopDetector
  audit : List AuditEvent

variable {Tok : Type}

/-- A worker that has just started. -/
def World.fresh (settings : Settings) (clock : Clock) (uuids : ℕ → String) : World Tok where
  session_mgr := SessionManager.fresh (.in_memory fun _ => none) clock uuids
  budget_enforcer := ⟨fun _ => none, []⟩
  loop_detector := LoopDetector.init settings none none []
  audit := []

abbrev WM (Tok : Type) : Type → Type := EStateM Exc (World Tok)

def on_session_mgr {α : Type} (m : SM Tok α) : WM Tok α :=
  zoom World.session_mgr (fun s w => { w with session_mgr := s }) m

def on_budget {α : Type} (m : BE α) : WM Tok α :=
  zoom World.budget_enforcer (fun b w => { w with budget_enforcer := b }) m

def on_loop {α : Type} (m : LD α) : WM Tok α :=
  zoom World.loop_detector (fun d w => { w with loop_detector := d }) m

/-- Hand an event to the audit logger. -/
def log (event : AuditEvent) : WM Tok Unit := modify fun w => { w with audit := w.audit ++ [event] }

/-- A call of the guardrails. -/
def guard {α : Type} (x : Except Exc α) : WM Tok α := MonadExcept.ofExcept x

/-- The `outcome` of a masking event. -/
def mask_outcome (found_types : List String) : Outcome :=
  if found_types.isEmpty then .allow else .redact

/-- Append what is not in the list yet, as `for t in new: if t not in old: old.append(t)`. -/
def merge_types (old new : List String) : List String :=
  new.foldl (fun acc t => if t ∈ acc then acc else acc ++ [t]) old

/-- Nothing but the audit log has changed. -/
def OnlyAudit (w w' : World Tok) : Prop :=
  w'.session_mgr = w.session_mgr ∧ w'.budget_enforcer = w.budget_enforcer ∧
    w'.loop_detector = w.loop_detector

theorem OnlyAudit.refl (w : World Tok) : OnlyAudit w w := ⟨rfl, rfl, rfl⟩

theorem OnlyAudit.trans (w₁ w₂ w₃ : World Tok) (h₁ : OnlyAudit w₁ w₂) (h₂ : OnlyAudit w₂ w₃) :
    OnlyAudit w₁ w₃ :=
  ⟨h₂.1.trans h₁.1, h₂.2.1.trans h₁.2.1, h₂.2.2.trans h₁.2.2⟩

theorem onlyAudit_log (event : AuditEvent) : EState.Keeps OnlyAudit (log event : WM Tok Unit) :=
  fun _ => ⟨rfl, rfl, rfl⟩

end AegisOs
