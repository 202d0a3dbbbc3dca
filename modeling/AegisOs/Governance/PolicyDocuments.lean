/-
# `AegisOs.Governance.PolicyDocuments` — the policy over documents with absent keys

`PolicyEngine.evaluate` always sends every field of a `PolicyInput`, and
`AgentAccess` reads the policy at such inputs.  The policy itself is evaluated
on whatever document is posted, so here `agent_access.rego` is read once more,
rule by rule, over documents any key of which may be absent, in the terms of
`AegisOs.Lib.Rego`.  A role that is `null` is one that is absent: neither is
in a set of strings nor a key of an object.

At the documents the engine posts both readings say the same (`document_model_dump`).

Two promises are settled here, each with the exact condition under which the
rules keep it: that a sensitive agent type needs masking on the data plane
(`masking_required_iff`), and that a denial has a reason (`explained_iff`).
-/
import AegisOs.Lib.Rego
import AegisOs.Governance.PolicyEngine

namespace AegisOs

open Lib

/-- An input document of `aegis.agent_access`. -/
structure InputDocument where
  agent_type : Option String := none
  requester_id : Option String := none
  action : Option String := none
  resource : Option String := none
  metadata : Option (List (String × String)) := none
  principal_role : Option String := none
  token_expired : Option Bool := none
  deriving DecidableEq

/-- What `PolicyEngine.evaluate` posts: `input_data.model_dump()`. -/
def PolicyInput.model_dump (input : PolicyInput) : InputDocument where
  agent_type := some input.agent_type
  requester_id := some input.requester_id
  action := some input.action
  resource := some input.resource
  metadata := some input.metadata
  principal_role := input.principal_role
  token_expired := some input.token_expired

namespace AgentAccess.Rules

open Rego

section
variable (input : InputDocument)

/-- `agent_permissions[input.agent_type]`. -/
def perms : Term Permissions := index (some agent_permissions) input.agent_type

/-- `input.resource in perms[input.action]`. -/
def permitted : Term Bool := mem input.resource (index (perms input) input.action)

/-- `input.metadata.sensitive_masking == "enabled"`. -/
def masking : Term Bool :=
  Rego.eq (index input.metadata (some "sensitive_masking")) (some "enabled")

/-- `input.agent_type in sensitive_agent_types`. -/
def sensitive : Term Bool := mem input.agent_type (some sensitive_agent_types)

/-- `input.agent_type in registered_agent_types`. -/
def registered : Term Bool := mem input.agent_type (some registered_agent_types)

/-- `input.action in rbac_capabilities[input.principal_role]`. -/
def capable : Term Bool := mem input.action (index (some rbac_capabilities) input.principal_role)

/-- The bodies of `allow`. -/
def allow_bodies : List (List Expr) :=
  [[.not input.token_expired,
    .assign (perms input).isSome,
    .term (permitted input)],
   [.not input.token_expired,
    .term (Rego.eq input.action (some "llm.complete")),
    .term (registered input),
    .term (startswith input.resource (some "model:"))],
   [.not input.token_expired,
    .term (ne input.action (some "llm.complete")),
    .term (sensitive input),
    .term (masking input),
    .assign (perms input).isSome,
    .term (permitted input)],
   [.not input.token_expired,
    .term (Rego.eq input.resource (some "workflow:pending_approval")),
    .term (mem input.principal_role (some registered_roles)),
    .term (capable input)]]

/-- `allow`, by default `false`. -/
def allow : Bool := (allow_bodies input).any body

/-- `action`, by default `"reject"`. -/
def action : String :=
  if body [.term (some (allow input)), .term (sensitive input)] then "mask"
  else if body [.term (some (allow input)), .not (sensitive input)] then "allow"
  else "reject"

/-- `fields`, without a default. -/
def fields : Option (List String) :=
  if body [.term (Rego.eq (some (action input)) (some "mask"))] then some ["prompt"] else none

/-- The rules of `reasons`, in the order in which the set is written out. -/
def reason_rules : List (String × List Expr) :=
  [("agent_type_not_permitted",
    [.term (ne input.resource (some "workflow:pending_approval")),
     .not (registered input)]),
   ("pii_masking_required",
    [.term (ne input.resource (some "workflow:pending_approval")),
     .term (ne input.action (some "llm.complete")),
     .term (sensitive input),
     .not (masking input)]),
   ("rbac_denied",
    [.term (Rego.eq input.resource (some "workflow:pending_approval")),
     .not input.token_expired,
     .not (capable input)]),
   ("resource_not_permitted",
    [.term (ne input.resource (some "workflow:pending_approval")),
     .term (ne input.action (some "llm.complete")),
     .assign (perms input).isSome,
     .not (permitted input)]),
   ("token_expired", [.term (Rego.eq input.token_expired (some true))])]

/-- `reasons`. -/
def reasons : List String := partialSet (reason_rules input)

/-- The document of the policy. -/
def document : OpaDocument where
  allow := some (allow input)
  reasons := some (reasons input)
  action := some (action input)
  fields := fields input

end

section
variable {input : InputDocument}

/-! ## What the terms ask for -/

theorem permitted_iff : permitted input = some true ↔ ∃ agent_type ps action resources resource,
    input.agent_type = some agent_type ∧ agent_permissions.lookup agent_type = some ps ∧
      input.action = some action ∧ ps.lookup action = some resources ∧
      input.resource = some resource ∧ resource ∈ resources := by
  simp only [permitted, perms, mem_iff, index_eq_some]
  constructor
  · rintro ⟨r, rs, hr, ⟨o, a, ⟨_, k, heq, hk, ho⟩, ha, hrs⟩, hin⟩
    cases heq
    exact ⟨k, o, a, rs, r, hk, ho, ha, hrs, hr, hin⟩
  · rintro ⟨k, o, a, rs, r, hk, ho, ha, hrs, hr, hin⟩
    exact ⟨r, rs, hr, ⟨o, a, ⟨_, k, rfl, hk, ho⟩, ha, hrs⟩, hin⟩

theorem sensitive_iff : sensitive input = some true ↔
    ∃ agent_type, input.agent_type = some agent_type ∧ agent_type ∈ sensitive_agent_types := by
  simp [sensitive, mem_iff]

theorem registered_iff : registered input = some true ↔
    ∃ agent_type, input.agent_type = some agent_type ∧ agent_type ∈ registered_agent_types := by
  simp [registered, mem_iff]

theorem masking_iff : masking input = some true ↔
    ∃ metadata, input.metadata = some metadata ∧
      metadata.lookup "sensitive_masking" = some "enabled" := by
  simp [masking, Rego.eq_iff, index_eq_some]

theorem not_pending_iff : ne input.resource (some "workflow:pending_approval") = some true ↔
    input.resource ≠ none ∧ input.resource ≠ some "workflow:pending_approval" := by
  cases h : input.resource <;> simp [ne_iff]

theorem not_llm_complete_iff : ne input.action (some "llm.complete") = some true ↔
    input.action ≠ none ∧ input.action ≠ some "llm.complete" := by
  cases h : input.action <;> simp [ne_iff]

/-- Only reading and writing are ever permitted, and never of pending approvals. -/
theorem permitted_data_plane (h : permitted input = some true) :
    input.action ≠ some "llm.complete" ∧ input.resource ≠ some "workflow:pending_approval" := by
  have hall : ∀ p ∈ agent_permissions, ∀ q ∈ p.2,
      q.1 ≠ "llm.complete" ∧ "workflow:pending_approval" ∉ q.2 := by decide
  obtain ⟨agent_type, ps, action, resources, resource, -, hps, ha, hrs, hr, hin⟩ := permitted_iff.mp h
  obtain ⟨hact, hres⟩ := hall _ (mem_of_lookup hps) _ (mem_of_lookup hrs)
  rw [ha, hr]
  refine ⟨fun heq => hact (Option.some.inj heq), ?_⟩
  rintro heq
  cases heq
  exact hres hin

/-- Every role with a capability is registered. -/
theorem capable_role (h : capable input = some true) :
    mem input.principal_role (some registered_roles) = some true := by
  have hall : ∀ p ∈ rbac_capabilities, p.1 ∈ registered_roles := by decide
  obtain ⟨_, caps, _, hcaps, -⟩ := mem_iff.mp h
  obtain ⟨_, role, heq, hrole, hlookup⟩ := index_eq_some.mp hcaps
  cases heq
  exact mem_iff.mpr ⟨role, _, hrole, rfl, hall _ (mem_of_lookup hlookup)⟩

theorem perms_isSome_of_permitted (h : permitted input = some true) : (perms input).isSome = true := by
  obtain ⟨k, ps, _, _, _, hk, hps, -⟩ := permitted_iff.mp h
  exact Option.isSome_iff_exists.mpr ⟨ps, index_eq_some.mpr ⟨_, k, rfl, hk, hps⟩⟩

/-- The agent types with permissions are the registered ones. -/
theorem perms_isSome_iff : (perms input).isSome = true ↔ registered input = some true := by
  rw [registered_iff, Option.isSome_iff_exists]
  constructor
  · rintro ⟨ps, hps⟩
    obtain ⟨_, k, heq, hk, hlookup⟩ := index_eq_some.mp hps
    cases heq
    exact ⟨k, hk, List.mem_map_of_mem (mem_of_lookup hlookup)⟩
  · rintro ⟨k, hk, hreg⟩
    have hall : ∀ k ∈ registered_agent_types, (agent_permissions.lookup k).isSome = true := by decide
    obtain ⟨ps, hps⟩ := Option.isSome_iff_exists.mp (hall k hreg)
    exact ⟨ps, index_eq_some.mpr ⟨_, k, rfl, hk, hps⟩⟩

/-! ## The rules -/

/-- The four rules together: the rule for sensitive agent types adds nothing to the first. -/
theorem allow_iff : allow input = true ↔ input.token_expired ≠ some true ∧
    (permitted input = some true ∨
      (input.action = some "llm.complete" ∧ registered input = some true ∧
        ∃ resource, input.resource = some resource ∧ resource.startsWith "model:" = true) ∨
      (input.resource = some "workflow:pending_approval" ∧ capable input = some true)) := by
  simp only [allow, allow_bodies, List.any_cons, List.any_nil, Bool.or_false, Bool.or_eq_true,
    body_cons, body_nil, holds_term, holds_not, holds_assign, and_true, Rego.eq_iff, startswith_iff,
    Option.some.injEq, exists_eq_right']
  constructor
  · rintro (⟨ht, -, hp⟩ | ⟨ht, ha, hr, hs⟩ | ⟨ht, -, -, -, -, hp⟩ | ⟨ht, hres, -, hcap⟩)
    · exact ⟨ht, .inl hp⟩
    · obtain ⟨s, p, hs, rfl, hmodel⟩ := hs
      exact ⟨ht, .inr (.inl ⟨ha, hr, s, hs, hmodel⟩)⟩
    · exact ⟨ht, .inl hp⟩
    · exact ⟨ht, .inr (.inr ⟨hres, hcap⟩)⟩
  · rintro ⟨ht, hp | ⟨ha, hr, s, hs, hmodel⟩ | ⟨hres, hcap⟩⟩
    · exact .inl ⟨ht, perms_isSome_of_permitted hp, hp⟩
    · exact .inr (.inl ⟨ht, ha, hr, s, _, hs, rfl, hmodel⟩)
    · exact .inr (.inr (.inr ⟨ht, hres, capable_role hcap, hcap⟩))

/-- What is denied is rejected, and nothing is to be masked. -/
theorem denied (h : allow input = false) : action input = "reject" ∧ fields input = none := by
  have haction : action input = "reject" := by simp [action, body, Expr.holds, h]
  refine ⟨haction, ?_⟩
  unfold fields
  rw [haction]
  rfl

end

/-! ## The documents the engine posts -/

section
variable (input : PolicyInput)

theorem permitted_model_dump :
    permitted input.model_dump = some true ↔ has_permission input = true := by
  rw [permitted_iff]
  simp [PolicyInput.model_dump, has_permission, Option.any_eq_true]

theorem masking_model_dump :
    masking input.model_dump = some true ↔ masking_enabled input = true := by
  simp [masking_iff, masking_enabled, PolicyInput.model_dump]

theorem capable_model_dump :
    capable input.model_dump = some true ↔ has_capability input = true := by
  unfold capable has_capability PolicyInput.model_dump index Rego.mem
  cases input.principal_role with
  | none => simp
  | some role => cases h : rbac_capabilities.lookup role <;> simp [h]

theorem registered_model_dump :
    registered input.model_dump = some true ↔ input.agent_type ∈ registered_agent_types := by
  simp [registered_iff, PolicyInput.model_dump]

theorem sensitive_model_dump :
    sensitive input.model_dump = some true ↔ input.agent_type ∈ sensitive_agent_types := by
  simp [sensitive_iff, PolicyInput.model_dump]

theorem allow_model_dump : allow input.model_dump = AgentAccess.allow input := by
  rw [Bool.eq_iff_iff, allow_iff, permitted_model_dump, registered_model_dump, capable_model_dump]
  simp only [AgentAccess.allow, allow_data_plane, allow_llm_complete, allow_sensitive, allow_hitl,
    PolicyInput.model_dump, Bool.or_eq_true, Bool.and_eq_true, Bool.not_eq_true', beq_iff_eq,
    decide_eq_true_eq, Option.some.injEq, ne_eq, Bool.not_eq_true, exists_eq_left']
  have hrole : has_capability input = true →
      (input.principal_role.any fun role => decide (role ∈ registered_roles)) = true := by
    intro h
    obtain ⟨role, hrole, hmem⟩ := mem_iff.mp (capable_role ((capable_model_dump input).mpr h)) |>.imp
      fun role ⟨_, hrole, heq, hmem⟩ => (⟨hrole, Option.some.inj heq ▸ hmem⟩ : _ ∧ _)
    rw [show input.principal_role = some role from hrole]
    simpa using hmem
  grind

theorem action_model_dump : action input.model_dump = AgentAccess.action input := by
  unfold action AgentAccess.action
  simp only [body_cons, body_nil, holds_term, holds_not, and_true, Option.some.injEq,
    allow_model_dump, ne_eq, sensitive_model_dump]
  split_ifs <;> tauto

theorem reasons_model_dump : reasons input.model_dump = AgentAccess.reasons input := by
  have hperms : (agent_permissions.lookup input.agent_type).isSome = true ↔
      input.agent_type ∈ registered_agent_types := by
    rw [← registered_model_dump, ← perms_isSome_iff]
    rfl
  unfold reasons AgentAccess.reasons reason_rules
  simp only [partialSet_cons, partialSet_nil, body_cons, body_nil, holds_term, holds_not,
    holds_assign, and_true, not_pending_iff, not_llm_complete_iff, perms_isSome_iff, Rego.eq_iff,
    ne_eq, registered_model_dump, sensitive_model_dump, masking_model_dump, capable_model_dump,
    permitted_model_dump, hperms]
  simp [PolicyInput.model_dump, @eq_comm _ "workflow:pending_approval"]

/-- **The engine's documents**: on what `evaluate` posts the two readings agree. -/
theorem document_model_dump : document input.model_dump = AgentAccess.document input := by
  have hfields : fields input.model_dump =
      if AgentAccess.action input = "mask" then some ["prompt"] else none := by
    unfold fields
    simp only [body_cons, body_nil, holds_term, and_true, Rego.eq_iff, action_model_dump,
      Option.some.injEq, exists_eq_left']
    simp [eq_comm]
  unfold document AgentAccess.document
  rw [allow_model_dump, reasons_model_dump, action_model_dump, hfields]

end

section
variable {input : InputDocument}

/-! ## Masking on the data plane -/

theorem mem_reasons {reason : String} : reason ∈ reasons input ↔
    ∃ es, (reason, es) ∈ reason_rules input ∧ body es = true := mem_partialSet

theorem pii_masking_required_iff : "pii_masking_required" ∈ reasons input ↔
    (input.resource ≠ none ∧ input.resource ≠ some "workflow:pending_approval") ∧
      (input.action ≠ none ∧ input.action ≠ some "llm.complete") ∧
        sensitive input = some true ∧ masking input ≠ some true := by
  rw [mem_reasons, ← not_pending_iff, ← not_llm_complete_iff]
  simp [reason_rules]

/-- **Masking on the data plane**: the reason is given whenever action and resource are there to be
compared, but nothing makes the first rule ask for masking.  So a sensitive agent type without it is
turned away exactly where its token has lapsed or the resource is not its own anyway. -/
theorem masking_required_iff
    (hagent : ∃ agent_type, input.agent_type = some agent_type ∧ agent_type ∈ sensitive_agent_types)
    (haction : input.action ≠ some "llm.complete")
    (hresource : input.resource ≠ some "workflow:pending_approval")
    (hmasking : ¬∃ metadata, input.metadata = some metadata ∧
      metadata.lookup "sensitive_masking" = some "enabled") :
    (allow input = false ∧ action input = "reject" ∧ "pii_masking_required" ∈ reasons input) ↔
      input.action ≠ none ∧ input.resource ≠ none ∧
        (input.token_expired = some true ∨ permitted input ≠ some true) := by
  have hdenied : allow input = false ↔
      input.token_expired = some true ∨ permitted input ≠ some true := by
    rw [← Bool.not_eq_true, allow_iff]
    simp only [haction, hresource, false_and, or_false]
    tauto
  rw [← masking_iff] at hmasking
  rw [pii_masking_required_iff, sensitive_iff]
  constructor
  · rintro ⟨hallow, -, ⟨hres, -⟩, ⟨hact, -⟩, -⟩
    exact ⟨hact, hres, hdenied.mp hallow⟩
  · rintro ⟨hact, hres, h⟩
    have hallow := hdenied.mpr h
    exact ⟨hallow, (denied hallow).1, ⟨hres, hresource⟩, ⟨hact, haction⟩, hagent, hmasking⟩

/-- A finance agent asks for its reports, with masking off. -/
def finance_report : InputDocument where
  agent_type := some "finance"
  requester_id := some "alice"
  action := some "read"
  resource := some "reports"
  metadata := some [("sensitive_masking", "disabled")]
  token_expired := some false

/-- A sensitive agent type reads its data with masking off: the reason is listed, the request
allowed. -/
theorem finance_report_unmasked :
    (∃ agent_type, finance_report.agent_type = some agent_type ∧
        agent_type ∈ sensitive_agent_types) ∧
      finance_report.action ≠ some "llm.complete" ∧
      finance_report.resource ≠ some "workflow:pending_approval" ∧
      (¬∃ metadata, finance_report.metadata = some metadata ∧
        metadata.lookup "sensitive_masking" = some "enabled") ∧
      ¬(allow finance_report = false ∧ action finance_report = "reject" ∧
        "pii_masking_required" ∈ reasons finance_report) := by
  refine ⟨⟨"finance", rfl, by decide⟩, by decide, by decide, ?_, ?_⟩
  · rintro ⟨metadata, heq, h⟩
    cases heq
    exact absurd h (by decide)
  · rintro ⟨hallow, -⟩
    have hpermitted : permitted finance_report = some true := by decide
    have htrue : allow finance_report = true := allow_iff.mpr ⟨by decide, .inl hpermitted⟩
    rw [htrue] at hallow
    exact Bool.noConfusion hallow

/-- What does get turned away: a resource of another department. -/
theorem finance_logs_need_masking :
    allow { finance_report with resource := some "logs" } = false ∧
      action { finance_report with resource := some "logs" } = "reject" ∧
        "pii_masking_required" ∈ reasons { finance_report with resource := some "logs" } := by
  refine (masking_required_iff ⟨"finance", rfl, by decide⟩ (by decide) (by decide) ?_).mpr
    ⟨by decide, by decide, .inr (by decide)⟩
  rintro ⟨metadata, heq, h⟩
  cases heq
  exact absurd h (by decide)

/-! ## Every denial has a reason -/

/-- What leaves the set of reasons empty. -/
theorem reasons_eq_nil_iff : reasons input = [] ↔
    input.token_expired ≠ some true ∧
      (input.resource = some "workflow:pending_approval" → capable input = some true) ∧
      (input.resource ≠ none → input.resource ≠ some "workflow:pending_approval" →
        registered input = some true ∧
          (input.action ≠ none → input.action ≠ some "llm.complete" →
            (sensitive input = some true → masking input = some true) ∧
              permitted input = some true)) := by
  unfold reasons
  rw [partialSet_eq_nil]
  simp only [reason_rules, List.forall_mem_cons, List.not_mem_nil, false_imp_iff, implies_true,
    and_true, ← Bool.not_eq_true, body_cons, body_nil, holds_term, holds_not, holds_assign,
    not_pending_iff, not_llm_complete_iff, perms_isSome_iff, Rego.eq_iff, Option.some.injEq,
    exists_eq_right']
  grind

/-- **Every denial has a reason**, unless the resource is absent, or a registered agent type leaves
the action out or calls what is not a model. -/
theorem explained_iff :
    (allow input = false →
      reasons input ≠ [] ∧ action input = "reject" ∧ fields input = none) ↔
      input.token_expired = some true ∨ ∃ resource, input.resource = some resource ∧
        (resource = "workflow:pending_approval" ∨
          (¬∃ agent_type, input.agent_type = some agent_type ∧
            agent_type ∈ registered_agent_types) ∨
          ∃ action, input.action = some action ∧
            (action = "llm.complete" → resource.startsWith "model:" = true)) := by
  rw [← registered_iff]
  constructor
  · intro h
    by_contra hcon
    push Not at hcon
    obtain ⟨hlive, hcon⟩ := hcon
    have hallow : allow input = false := by
      rw [← Bool.not_eq_true, allow_iff]
      rintro ⟨-, hp | ⟨ha, -, r, hr, hmodel⟩ | ⟨hr, -⟩⟩
      · obtain ⟨_, _, a, _, r, -, -, ha, -, hr, -⟩ := permitted_iff.mp hp
        have hact : a ≠ "llm.complete" := fun heq => (permitted_data_plane hp).1 (heq ▸ ha)
        exact hact ((hcon r hr).2.2 a ha).1
      · exact ((hcon r hr).2.2 _ ha).2 hmodel
      · exact (hcon _ hr).1 rfl
    refine (h hallow).1 (reasons_eq_nil_iff.mpr ⟨hlive, fun hr => absurd rfl (hcon _ hr).1, ?_⟩)
    intro hres _
    obtain ⟨r, hr⟩ := Option.ne_none_iff_exists'.mp hres
    refine ⟨(hcon r hr).2.1, ?_⟩
    intro hact hne
    obtain ⟨a, ha⟩ := Option.ne_none_iff_exists'.mp hact
    exact absurd (((hcon r hr).2.2 a ha).1 ▸ ha) hne
  · intro h hallow
    refine ⟨?_, denied hallow⟩
    intro hnil
    obtain ⟨hlive, hpending, hrest⟩ := reasons_eq_nil_iff.mp hnil
    obtain ht | ⟨r, hr, hcase⟩ := h
    · exact hlive ht
    · have hno : ¬allow input = true := by simp [hallow]
      by_cases hpend : r = "workflow:pending_approval"
      · rw [hpend] at hr
        exact hno (allow_iff.mpr ⟨hlive, .inr (.inr ⟨hr, hpending hr⟩)⟩)
      · obtain ⟨hreg, hplane⟩ := hrest (by simp [hr]) (by simp [hr, hpend])
        obtain heq | hunreg | ⟨a, ha, hmodel⟩ := hcase
        · exact hpend heq
        · exact hunreg hreg
        · by_cases hact : a = "llm.complete"
          · rw [hact] at ha
            exact hno (allow_iff.mpr ⟨hlive, .inr (.inl ⟨ha, hreg, r, hr, hmodel hact⟩)⟩)
          · have hperm := (hplane (by simp [ha]) (by simp [ha, hact])).2
            exact hno (allow_iff.mpr ⟨hlive, .inl hperm⟩)

/-- What the engine makes of the document: the reasons of a denial are those of the policy. -/
theorem evaluate_document (opa_url policy_name : String) {status_code : ℕ}
    (hok : 200 ≤ status_code) (hlt : status_code < 300) :
    PolicyEngine.evaluate opa_url policy_name (.response status_code (some (document input))) =
      .ok { allowed := allow input, reasons := reasons input, action := action input,
            fields := (fields input).getD [] } := by
  have h5 : ¬500 ≤ status_code := by omega
  simp [PolicyEngine.evaluate, h5, hok, hlt, document]

/-- A registered agent asks a model by a name without the prefix. -/
def unprefixed_model : InputDocument where
  agent_type := some "general"
  requester_id := some "alice"
  action := some "llm.complete"
  resource := some "gpt-4o"
  metadata := some []
  token_expired := some false

/-- It is turned away without a word. -/
theorem unprefixed_model_unexplained :
    ¬(allow unprefixed_model = false → reasons unprefixed_model ≠ [] ∧
      action unprefixed_model = "reject" ∧ fields unprefixed_model = none) := by
  intro h
  have hdenied : allow unprefixed_model = false := by decide +kernel
  exact (h hdenied).1 (by decide +kernel)

end

end AgentAccess.Rules

end AegisOs
