/-
# `AegisOs.Basic` — what every component shares

Exceptions, texts, the clock, the settings and the audit events.

* An exception is its class and its message.  Code that catches by class tests
  the class (and, where the source's class has subclasses among these, their
  predicate, such as `ExcKind.isJWTError`).
* A message is a list of pieces: the source's literal text, the texts it
  interpolates with `repr` (one, or a list), and the numbers it interpolates
  with `str`.
* A decimal or UUID that comes in as text is a `Lit`: the text and the value
  its constructor reads in it, if any, so that a malformed text reaches the
  constructor that raises on it.  A decimal that the program itself turned
  into text with `str` is the decimal: `Decimal(str(d)) = d`.
* `time.time()` is a reading of a `Clock`: the readings are an arbitrary
  non-decreasing sequence, one element per call, so that time may pass between
  any two calls.
-/
import AegisOs.Lib.EState
import Mathlib.Data.Rat.Floor
import Mathlib.Algebra.Order.Round
import Mathlib.Order.Monotone.Defs

namespace AegisOs

open Lib

/-! ## Texts and exceptions -/

/-- One piece of a message. -/
inductive Piece where
  | lit (s : String)
  | repr (s : String)
  | reprs (l : List String)
  | dec (d : ℚ)
  | int (n : ℤ)
  deriving DecidableEq

abbrev Text : Type := List Piece

instance : Coe String Text := ⟨fun s => [.lit s]⟩

/-- An `ApplicationError` as Temporal hands it on: `type`, `message`, `non_retryable`. -/
structure AppFailure where
  type : String
  message : Text
  nonRetryable : Bool
  deriving DecidableEq

/-- The exception classes the modelled code raises, catches or lets through. -/
inductive ExcKind where
  | ValueError | KeyError | PermissionError | TimeoutError | InvalidOperation
  | JWTError | ExpiredSignatureError | ValidationError
  | TokenScopeError | TokenExpiredError | TokenRevokedError | TokenActionError
  | TokenBindingError | DPoPProofError | DPoPReplayError
  | PromptInjectionError | OpaUnavailableError | PolicyDeniedError | MissingTaskIdError
  | BudgetExceededError | BudgetLimitError
  | LoopDetectedError | TokenVelocityError | PendingApprovalError
  | LoopHaltError | LoopVelocityError | LoopApprovalError
  | HITLEscalationError | PendingApprovalNotFoundError | PendingApprovalConflictError
  | AuditOrderingError
  | HTTPException (status : ℕ)
  /-- Temporal's `ApplicationError`, with its `type` and `non_retryable`. -/
  | ApplicationError (type : String) (nonRetryable : Bool)
  /-- Temporal's `ActivityError`, with its `retry_state` and its cause when that is an
  `ApplicationError`. -/
  | ActivityError (cause : Option AppFailure) (retry_state : String)
  | AssertionError
  | other (cls : String)
  deriving DecidableEq

/-- `isinstance(exc, jose.JWTError)`. -/
def ExcKind.isJWTError : ExcKind → Bool
  | .JWTError | .ExpiredSignatureError => true
  | _ => false

/-- The class name, which Temporal records as the `type` of a plain exception. -/
def ExcKind.name : ExcKind → String
  | .ValueError => "ValueError"
  | .KeyError => "KeyError"
  | .PermissionError => "PermissionError"
  | .TimeoutError => "TimeoutError"
  | .InvalidOperation => "InvalidOperation"
  | .JWTError => "JWTError"
  | .ExpiredSignatureError => "ExpiredSignatureError"
  | .ValidationError => "ValidationError"
  | .TokenScopeError => "TokenScopeError"
  | .TokenExpiredError => "TokenExpiredError"
  | .TokenRevokedError => "TokenRevokedError"
  | .TokenActionError => "TokenActionError"
  | .TokenBindingError => "TokenBindingError"
  | .DPoPProofError => "DPoPProofError"
  | .DPoPReplayError => "DPoPReplayError"
  | .PromptInjectionError => "PromptInjectionError"
  | .OpaUnavailableError => "OpaUnavailableError"
  | .PolicyDeniedError => "PolicyDeniedError"
  | .MissingTaskIdError => "MissingTaskIdError"
  | .BudgetExceededError => "BudgetExceededError"
  | .BudgetLimitError => "BudgetLimitError"
  | .LoopDetectedError => "LoopDetectedError"
  | .TokenVelocityError => "TokenVelocityError"
  | .PendingApprovalError => "PendingApprovalError"
  | .LoopHaltError => "LoopHaltError"
  | .LoopVelocityError => "LoopVelocityError"
  | .LoopApprovalError => "LoopApprovalError"
  | .HITLEscalationError => "HITLEscalationError"
  | .PendingApprovalNotFoundError => "PendingApprovalNotFoundError"
  | .PendingApprovalConflictError => "PendingApprovalConflictError"
  | .AuditOrderingError => "AuditOrderingError"
  | .HTTPException _ => "HTTPException"
  | .ApplicationError type _ => type
  | .ActivityError _ _ => "ActivityError"
  | .AssertionError => "AssertionError"
  | .other cls => cls

structure Exc where
  kind : ExcKind
  msg : Text := []
  deriving DecidableEq

/-- `str(exc)`; that of a `KeyError` is the `repr` of its argument. -/
def Exc.str (e : Exc) : Text :=
  if e.kind = .KeyError then [.lit "'"] ++ e.msg ++ [.lit "'"] else e.msg

/-! ## Identifiers and literals -/

/-- A UUID, by its canonical text. -/
structure Uuid where
  text : String
  deriving DecidableEq

/-- A text field together with the value its constructor reads in it, if it accepts the text. -/
structure Lit (α : Type) where
  raw : String
  val : Option α

/-- The value of a text; a malformed one raises `kind`. -/
def Lit.read {σ α : Type} (kind : ExcKind) (l : Lit α) : EStateM Exc σ α :=
  match l.val with
  | some a => pure a
  | none => throw ⟨kind, l.raw⟩

/-- What `Decimal(text)` can be. -/
inductive Dec where
  | fin (q : ℚ)
  | inf (negative : Bool)
  | nan
  deriving DecidableEq

/-- `d > q`; a NaN cannot be compared. -/
def Dec.gt (d : Dec) (q : ℚ) : Except Exc Bool :=
  match d with
  | .fin d => .ok (decide (q < d))
  | .inf negative => .ok (!negative)
  | .nan => .error ⟨.InvalidOperation, "[<class 'decimal.InvalidOperation'>]"⟩

/-! ## Time -/

/-- The readings `time.time()` will return, oldest first; `tick` is the next one. -/
structure Clock where
  reading : ℕ → ℚ
  mono : Monotone reading
  tick : ℕ

/-- The next reading. -/
def Clock.now (c : Clock) : ℚ := c.reading c.tick

def Clock.advance (c : Clock) : Clock := { c with tick := c.tick + 1 }

/-- A clock that stands still. -/
def Clock.still (t : ℚ) : Clock := ⟨fun _ => t, monotone_const, 0⟩

/-- Python's `int()` of a number: truncation towards zero. -/
def pyInt (x : ℚ) : ℤ := if 0 ≤ x then ⌊x⌋ else ⌈x⌉

theorem pyInt_mono {x y : ℚ} (h : x ≤ y) : pyInt x ≤ pyInt y := by
  unfold pyInt
  split <;> split
  · exact Int.floor_le_floor h
  · rename_i hx hy
    exact absurd (le_trans hx h) hy
  · rename_i hx hy
    have h₁ : ⌈x⌉ ≤ 0 := Int.ceil_le.mpr (by simpa using (not_le.mp hx).le)
    have h₂ : 0 ≤ ⌊y⌋ := Int.floor_nonneg.mpr hy
    exact le_trans h₁ h₂
  · exact Int.ceil_le_ceil h

/-! ## Settings -/

/-- The fields of `src.config.Settings` the modelled code reads. -/
structure Settings where
  token_expiry_seconds : ℤ := 900
  token_secret_key : String := "change-me-in-production-use-a-strong-random-key"
  token_algorithm : String := "HS256"
  token_private_key : String := ""
  token_public_key : String := ""
  require_sender_constrained_tokens : Bool := false
  dpop_proof_ttl_seconds : ℤ := 300
  dpop_clock_skew_seconds : ℤ := 30
  max_agent_steps : ℤ := 10
  max_token_velocity : ℤ := 10000

/-! ## Audit events -/

/-- `LifecycleEvent`. -/
inductive LifecycleEvent where
  | STARTED | RETRIED | PENDING_APPROVAL | APPROVED | DENIED | COMPLETED | FAILED
  deriving DecidableEq

/-- The `outcome` of a stage event. -/
inductive Outcome where
  | allow | deny | redact | error | retried
  deriving DecidableEq

/-- The value of an extra field of an audit event. -/
inductive Field where
  | str (s : String)
  | strs (l : List String)
  | int (n : ℤ)
  | text (t : Text)
  deriving DecidableEq

/-- What the code hands to its audit logger.  Sequence numbers, timestamps and trace ids are the
logger's own and are not part of it. -/
inductive AuditEvent where
  | stage_event (event : String) (outcome : Outcome) (stage task_id agent_type : String)
      (extra : List (String × Field))
  | lifecycle_event (event : String) (event_type : LifecycleEvent) (task_id agent_type : String)
      (session_id : Option String) (workflow_status stage : String) (extra : List (String × Field))
  | info (event : String) (extra : List (String × Field))
  | warning (event : String) (extra : List (String × Field))
  | error (event : String) (extra : List (String × Field))
  deriving DecidableEq

end AegisOs
