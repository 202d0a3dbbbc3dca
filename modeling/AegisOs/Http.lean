/-
# `AegisOs.Http` — what the HTTP client hands back

The policy engine and the adapters talk to their servers through `httpx`.  A call of
`client.post` ends with a response of any status and any body, or raises; the body is then
decoded and taken apart by name, and what a wrong shape raises is an exception like any
other.
-/
import AegisOs.Lib.JsonAccess
import AegisOs.Lib.EState
import AegisOs.Basic

namespace AegisOs

open Lib Lib.EState

/-! ## Responses -/

/-- A response; its body is JSON, or is not. -/
structure HttpResponse where
  status_code : ℕ
  body : Option Json

/-- The exception an access raises. -/
def accessError : Json.AccessError → Exc
  | .AttributeError => ⟨.other "AttributeError", []⟩
  | .KeyError => ⟨.KeyError, []⟩
  | .IndexError => ⟨.other "IndexError", []⟩
  | .TypeError => ⟨.other "TypeError", []⟩

def access {α : Type} (x : Except Json.AccessError α) : Except Exc α := x.mapError accessError

/-- `response.raise_for_status()`. -/
def HttpResponse.raise_for_status (response : HttpResponse) : Except Exc Unit :=
  if 200 ≤ response.status_code ∧ response.status_code < 300 then .ok ()
  else .error ⟨.other "HTTPStatusError", [.int response.status_code]⟩

/-- `response.json()`. -/
def HttpResponse.json (response : HttpResponse) : Except Exc Json :=
  response.body.elim (.error ⟨.other "JSONDecodeError", []⟩) .ok

/-- `isinstance(exc, httpx.TimeoutException)`. -/
def isTimeoutException (e : Exc) : Prop :=
  e.kind ∈ [.other "TimeoutException", .other "ConnectTimeout", .other "ReadTimeout",
    .other "WriteTimeout", .other "PoolTimeout"]

instance (e : Exc) : Decidable (isTimeoutException e) := inferInstanceAs (Decidable (_ ∈ _))

/-! ### When nothing is raised -/

theorem access_eq_ok {α : Type} {x : Except Json.AccessError α} {a : α} :
    access x = .ok a ↔ x = .ok a := by
  cases x <;> simp [access, Except.mapError]

theorem decoded_eq_ok {response : HttpResponse} {body : Json} :
    (response.raise_for_status >>= fun _ => response.json) = .ok body ↔
      200 ≤ response.status_code ∧ response.status_code < 300 ∧ response.body = some body := by
  unfold HttpResponse.raise_for_status HttpResponse.json
  by_cases h2 : 200 ≤ response.status_code ∧ response.status_code < 300
  · cases hb : response.body <;> simp [h2, bind, Except.bind]
  · simp only [if_neg h2, bind, Except.bind]
    constructor
    · intro h
      cases h
    · rintro ⟨h, h', -⟩
      exact absurd ⟨h, h'⟩ h2

end AegisOs
