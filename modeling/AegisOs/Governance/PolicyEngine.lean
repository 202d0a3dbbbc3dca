/-
# `AegisOs.Governance.PolicyEngine` — the policy engine and its policy

`PolicyEngine.evaluate` of `opa_client.py` turns what the OPA server replies
into a `PolicyResult` or raises; the server itself is outside the repository.
What it serves is not: `AgentAccess` is `policies/agent_access.rego`, rule by
rule.  A Rego rule with several bodies holds when one of them does, and an
expression that looks up an absent key is undefined, which fails a body and
satisfies a `not`.
-/
import AegisOs.Basic

namespace AegisOs

/-! ## The client -/

structure PolicyInput where
  agent_type : String
  requester_id : String
  action : String
  resource : String
  metadata : List (String × String) := []
  principal_role : Option String := none
  token_expired : Bool := false
  deriving DecidableEq

structure PolicyResult where
  allowed : Bool
  reasons : List String := []
  action : String := "allow"
  fields : List String := []
  deriving DecidableEq

/-- The document a policy evaluates to; a rule without a value is absent. -/
structure OpaDocument where
  allow : Option Bool := none
  reasons : Option (List String) := none
  action : Option String := none
  fields : Option (List String) := none
  deriving DecidableEq

/-- What comes of the request to the server. -/
inductive OpaReply where
  | connect_error (text : String)
  | timeout (text : String)
  /-- Any other exception of the HTTP client. -/
  | transport_error (e : Exc)
  /-- A response; its body is a document, or is not JSON. -/
  | response (status_code : ℕ) (body : Option OpaDocument)

/-- `PolicyEngine.evaluate`, with the reply to its request. -/
def PolicyEngine.evaluate (opa_url policy_name : String) : OpaReply → Except Exc PolicyResult
  | .connect_error text => .error ⟨.OpaUnavailableError,
      [.lit "OPA server unreachable at ", .repr opa_url, .lit ": ", .lit text]⟩
  | .timeout text => .error ⟨.OpaUnavailableError,
      [.lit "OPA request timed out for policy ", .repr policy_name, .lit ": ", .lit text]⟩
  | .transport_error e => .error e
  | .response status_code body =>
      if 500 ≤ status_code then
        .error ⟨.OpaUnavailableError, [.lit "OPA server returned HTTP ", .int status_code,
          .lit " for policy ", .repr policy_name]⟩
      else if ¬(200 ≤ status_code ∧ status_code < 300) then
        .error ⟨.other "HTTPStatusError", [.int status_code]⟩
      else
        match body with
        | none => .error ⟨.other "JSONDecodeError", []⟩
        | some result =>
            let allowed := result.allow.getD false
            .ok {
              allowed := allowed
              reasons := result.reasons.getD []
              action := result.action.getD (if ¬allowed then "reject" else "allow")
              fields := result.fields.getD [] }

/-! ## `agent_access.rego` -/

namespace AgentAccess

/-- What an agent type may do: for each action, the resources. -/
abbrev Permissions : Type := List (String × List String)

def agent_permissions : List (String × Permissions) :=
  [("finance", [("read", ["finance_db", "reports"]), ("write", ["finance_reports"])]),
   ("hr", [("read", ["hr_db", "employee_records"]), ("write", ["hr_reports"])]),
   ("it", [("read", ["infra_db", "logs", "metrics"]), ("write", ["tickets"])]),
   ("legal", [("read", ["legal_db", "contracts"]), ("write", ["legal_reports"])]),
   ("general", [("read", ["public_kb"]), ("write", [])]),
   ("code_scalpel", [("read", ["source_code", "ast_index", "security_scan_results"]),
     ("write", ["analysis_reports"])])]

def registered_agent_types : List String := agent_permissions.map (·.1)

def registered_roles : List String := ["admin", "operator", "viewer", "auditor"]

def sensitive_agent_types : List String := ["finance", "hr", "legal"]

def rbac_capabilities : List (String × List String) :=
  [("admin", ["approve", "deny", "view"]), ("operator", ["view"]), ("viewer", ["view"]),
   ("auditor", ["view"])]

variable (input : PolicyInput)

/-- `input.resource in agent_permissions[input.agent_type][input.action]`. -/
def has_permission : Bool :=
  (agent_permissions.lookup input.agent_type).any fun (perms : Permissions) =>
    (perms.lookup input.action).any fun resources => decide (input.resource ∈ resources)

/-- `input.metadata.sensitive_masking == "enabled"`. -/
def masking_enabled : Bool := input.metadata.lookup "sensitive_masking" == some "enabled"

/-- `input.action in rbac_capabilities[input.principal_role]`. -/
def has_capability : Bool :=
  (input.principal_role.bind fun role => rbac_capabilities.lookup role).any fun actions =>
    decide (input.action ∈ actions)

/-- The data-plane rule. -/
def allow_data_plane : Bool := !input.token_expired && has_permission input

/-- The rule for model calls. -/
def allow_llm_complete : Bool :=
  !input.token_expired && input.action == "llm.complete" &&
    decide (input.agent_type ∈ registered_agent_types) && input.resource.startsWith "model:"

/-- The rule for sensitive agent types. -/
def allow_sensitive : Bool :=
  !input.token_expired && input.action != "llm.complete" &&
    decide (input.agent_type ∈ sensitive_agent_types) && masking_enabled input && has_permission input

/-- The rule for decisions at the approval gate. -/
def allow_hitl : Bool :=
  !input.token_expired && input.resource == "workflow:pending_approval" &&
    input.principal_role.any (fun role => decide (role ∈ registered_roles)) && has_capability input

/-- `allow`. -/
def allow : Bool :=
  allow_data_plane input || allow_llm_complete input || allow_sensitive input || allow_hitl input

/-- `action`. -/
def action : String :=
  if ¬allow input then "reject"
  else if input.agent_type ∈ sensitive_agent_types then "mask"
  else "allow"

/-- `reasons`, in the order OPA writes a set. -/
def reasons : List String :=
  (if input.resource ≠ "workflow:pending_approval" ∧
      input.agent_type ∉ registered_agent_types then ["agent_type_not_permitted"] else []) ++
  (if input.resource ≠ "workflow:pending_approval" ∧ input.action ≠ "llm.complete" ∧
      input.agent_type ∈ sensitive_agent_types ∧ ¬masking_enabled input then
    ["pii_masking_required"] else []) ++
  (if input.resource = "workflow:pending_approval" ∧ ¬input.token_expired ∧ ¬has_capability input then
    ["rbac_denied"] else []) ++
  (if input.resource ≠ "workflow:pending_approval" ∧ input.action ≠ "llm.complete" ∧
      (agent_permissions.lookup input.agent_type).isSome ∧ ¬has_permission input then
    ["resource_not_permitted"] else []) ++
  (if input.token_expired then ["token_expired"] else [])

/-- The document of the policy. -/
def document : OpaDocument where
  allow := some (allow input)
  reasons := some (reasons input)
  action := some (action input)
  fields := if action input = "mask" then some ["prompt"] else none

/-! ### Decisions at the approval gate -/

theorem mem_of_lookup {β : Type} {l : List (String × β)} {k : String} {b : β}
    (h : l.lookup k = some b) : (k, b) ∈ l := by
  obtain ⟨l₁, l₂, rfl, -⟩ := List.lookup_eq_some_iff.mp h
  exact List.mem_append_right _ List.mem_cons_self

/-- No agent type has a permission on pending approvals. -/
theorem has_permission_pending_approval (h : input.resource = "workflow:pending_approval") :
    has_permission input = false := by
  have hall : ∀ p ∈ agent_permissions, ∀ q ∈ p.2, "workflow:pending_approval" ∉ q.2 := by decide
  unfold has_permission
  rw [h]
  refine Bool.eq_false_iff.mpr ?_
  intro htrue
  obtain ⟨perms, hperms, hin⟩ := (Option.any_eq_true _ _).mp htrue
  obtain ⟨resources, hres, hmem⟩ := (Option.any_eq_true _ _).mp hin
  exact hall _ (mem_of_lookup hperms) _ (mem_of_lookup hres) (of_decide_eq_true hmem)

/-- The other three rules say nothing about pending approvals. -/
theorem allow_pending_approval (h : input.resource = "workflow:pending_approval") :
    allow input = allow_hitl input := by
  have hmodel : "workflow:pending_approval".startsWith "model:" = false := by decide +kernel
  unfold allow allow_data_plane allow_llm_complete allow_sensitive
  rw [has_permission_pending_approval input h, h, hmodel]
  simp

/-- **Who may decide**: administrators, and nobody else, whatever the agent type and metadata. -/
theorem allow_decision_iff (hres : input.resource = "workflow:pending_approval")
    (hact : input.action = "approve" ∨ input.action = "deny") :
    allow input = true ↔ input.token_expired = false ∧ input.principal_role = some "admin" := by
  rw [allow_pending_approval input hres]
  unfold allow_hitl has_capability
  rw [hres]
  cases hrole : input.principal_role with
  | none => simp
  | some role =>
      by_cases hadmin : role = "admin"
      · subst hadmin
        rcases hact with hact | hact <;> simp [hact, registered_roles, rbac_capabilities]
      · constructor
        · intro hallow
          exfalso
          simp only [Bool.and_eq_true, Option.any_some, Option.bind_some] at hallow
          obtain ⟨⟨-, hreg⟩, hcap⟩ := hallow
          have hreg := of_decide_eq_true hreg
          simp only [registered_roles, List.mem_cons, List.not_mem_nil, or_false] at hreg
          rcases hreg with rfl | rfl | rfl | rfl
          · exact hadmin rfl
          all_goals
            rcases hact with hact | hact <;>
              simp [hact, rbac_capabilities, List.lookup_cons] at hcap
        · rintro ⟨-, hr⟩
          exact absurd (Option.some.inj hr) hadmin

end AgentAccess

/-- The server evaluates the policies of the repository: where it answers a request for
`agent_access` with a document, it is that of the policy. -/
def Serves (policy_name : String) (input : PolicyInput) : OpaReply → Prop
  | .response status_code (some doc) => 200 ≤ status_code → status_code < 300 →
      policy_name = "agent_access" → doc = AgentAccess.document input
  | .transport_error e => ∀ status, e.kind ≠ .HTTPException status
  | _ => True

section
variable {opa_url policy_name : String} {input : PolicyInput} {reply : OpaReply}

/-- What the engine answers is what the policy says. -/
theorem evaluate_allowed {result : PolicyResult} (hs : Serves "agent_access" input reply)
    (h : PolicyEngine.evaluate opa_url "agent_access" reply = .ok result) :
    result.allowed = AgentAccess.allow input := by
  cases reply with
  | connect_error _ | timeout _ | transport_error _ => cases h
  | response status_code body =>
      simp only [PolicyEngine.evaluate] at h
      split at h
      · cases h
      · split at h
        · cases h
        · rename_i hok
          push Not at hok
          cases body with
          | none => cases h
          | some doc =>
              have hdoc : doc = AgentAccess.document input := hs hok.1 hok.2 rfl
              subst hdoc
              cases h
              rfl

/-- No exception of the engine is an HTTP response of its own. -/
theorem evaluate_error_kind {e : Exc} (hs : Serves policy_name input reply)
    (h : PolicyEngine.evaluate opa_url policy_name reply = .error e) (status : ℕ) :
    e.kind ≠ .HTTPException status := by
  cases reply with
  | connect_error _ | timeout _ =>
      cases h
      simp
  | transport_error _ =>
      cases h
      exact hs status
  | response status_code body =>
      simp only [PolicyEngine.evaluate] at h
      split at h
      · cases h
        simp
      · split at h
        · cases h
          simp
        · cases body with
          | none =>
              cases h
              simp
          | some doc => cases h

end

end AegisOs
