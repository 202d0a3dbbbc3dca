/-
# `AegisOs.Governance.OpaClient` — the policy engine on the wire

`PolicyEngine.evaluate` once more, now over what the HTTP client hands it: a response with
any status and any JSON body, or an exception.  The body is taken apart without a schema,
so what counts as permission is

    an object whose "result" is an object whose "allow" is *truthy*

with an "action" that is no refusal, and the lists that `PolicyResult` validates
(`read_result_permits_iff`).  `"allow": "false"` permits, `"allow": 0` does not.

A server that serves documents of the policy is an instance: there this reading and
`PolicyEngine.evaluate` agree (`read_reply_wire`).
-/
import AegisOs.Http
import AegisOs.Governance.PolicyEngine

namespace AegisOs

open Lib Lib.EState

namespace PolicyEngine

/-! ## Reading a reply -/

/-- Where a policy is asked for. -/
def policy_url (opa_url policy_name : String) : String :=
  opa_url ++ "/v1/data/aegis/" ++ policy_name

/-- `PolicyResult(allowed=..., reasons=..., action=..., fields=...)`. -/
def validated (allowed : Bool) (reasons action fields : Json) : Except Exc PolicyResult :=
  match reasons.texts, action.text, fields.texts with
  | some reasons, some action, some fields => .ok ⟨allowed, reasons, action, fields⟩
  | _, _, _ => .error ⟨.ValidationError, []⟩

/-- What `evaluate` makes of the body of a response. -/
def read_result (body : Json) : Except Exc PolicyResult := do
  let result := (← access (body.get "result")).getD (.obj [])
  let allowed := ((← access (result.get "allow")).getD (.bool false)).truthy
  let reasons := (← access (result.get "reasons")).getD (.arr [])
  let action := (← access (result.get "action")).getD
    (.str (if ¬allowed then "reject" else "allow"))
  let fields := (← access (result.get "fields")).getD (.arr [])
  validated allowed reasons action fields

/-- What `evaluate` makes of a response. -/
def read_response (policy_name : String) (response : HttpResponse) : Except Exc PolicyResult := do
  if 500 ≤ response.status_code then
    throw ⟨.OpaUnavailableError, [.lit "OPA server returned HTTP ",
      .int response.status_code, .lit " for policy ", .repr policy_name]⟩
  response.raise_for_status
  read_result (← response.json)

/-- What `evaluate` makes of what `client.post` answers. -/
def read_reply (opa_url policy_name : String) : Except Exc HttpResponse → Except Exc PolicyResult
  | .error e =>
      if e.kind = .other "ConnectError" then .error ⟨.OpaUnavailableError,
        [.lit "OPA server unreachable at ", .repr opa_url, .lit ": "] ++ e.str⟩
      else if isTimeoutException e then .error ⟨.OpaUnavailableError,
        [.lit "OPA request timed out for policy ", .repr policy_name, .lit ": "] ++ e.str⟩
      else .error e
  | .ok response => read_response policy_name response

theorem read_response_5xx {policy_name : String} {response : HttpResponse}
    (h : 500 ≤ response.status_code) :
    read_response policy_name response = .error ⟨.OpaUnavailableError,
      [.lit "OPA server returned HTTP ", .int response.status_code, .lit " for policy ",
        .repr policy_name]⟩ := by
  simp [read_response, h, bind, Except.bind, throw, throwThe, MonadExceptOf.throw]

theorem read_response_error {policy_name : String} {response : HttpResponse}
    (h5 : ¬500 ≤ response.status_code)
    (h2 : ¬(200 ≤ response.status_code ∧ response.status_code < 300)) :
    read_response policy_name response =
      .error ⟨.other "HTTPStatusError", [.int response.status_code]⟩ := by
  simp [read_response, HttpResponse.raise_for_status, h5, h2, bind, Except.bind]

theorem read_response_2xx {policy_name : String} {response : HttpResponse}
    (h2 : 200 ≤ response.status_code ∧ response.status_code < 300) :
    read_response policy_name response =
      response.body.elim (.error ⟨.other "JSONDecodeError", []⟩) read_result := by
  have h5 : ¬500 ≤ response.status_code := by omega
  cases hb : response.body with
  | none =>
      simp [read_response, HttpResponse.raise_for_status, HttpResponse.json, h5, h2, hb, bind,
        Except.bind]
  | some body =>
      simp [read_response, HttpResponse.raise_for_status, HttpResponse.json, h5, h2, hb, bind,
        Except.bind]

/-! ## What permits -/

/-- The body permits, with these instructions. -/
structure Permits (body : Json) (pr : PolicyResult) : Prop where
  document : ∃ members result, body = .obj members ∧
    Json.member "result" members = some (.obj result) ∧
    (∃ allow, Json.member "allow" result = some allow ∧ allow.truthy = true) ∧
    (Json.member "action" result = none ∧ pr.action = "allow" ∨
      Json.member "action" result = some (.str pr.action)) ∧
    ((Json.member "reasons" result).getD (.arr [])).texts = some pr.reasons ∧
    ((Json.member "fields" result).getD (.arr [])).texts = some pr.fields
  allowed : pr.allowed = true
  action : pr.action ≠ "reject"

theorem validated_eq_ok {allowed : Bool} {reasons action fields : Json} {pr : PolicyResult} :
    validated allowed reasons action fields = .ok pr ↔ allowed = pr.allowed ∧
      reasons.texts = some pr.reasons ∧ action.text = some pr.action ∧
      fields.texts = some pr.fields := by
  obtain ⟨allowed', reasons', action', fields'⟩ := pr
  unfold validated
  cases reasons.texts <;> cases action.text <;> cases fields.texts <;> simp

theorem read_result_eq_ok {body : Json} {pr : PolicyResult} :
    read_result body = .ok pr ↔ ∃ members result, body = .obj members ∧
      (Json.member "result" members).getD (.obj []) = .obj result ∧
      ((Json.member "allow" result).getD (.bool false)).truthy = pr.allowed ∧
      ((Json.member "reasons" result).getD (.arr [])).texts = some pr.reasons ∧
      ((Json.member "action" result).getD
        (.str (if ¬pr.allowed then "reject" else "allow"))).text = some pr.action ∧
      ((Json.member "fields" result).getD (.arr [])).texts = some pr.fields := by
  simp only [read_result, except_bind_eq_ok_iff, access_eq_ok, Json.get_eq_ok, validated_eq_ok]
  constructor
  · rintro ⟨_, ⟨members, rfl, rfl⟩, _, ⟨result, hresult, rfl⟩, reasons, ⟨_, hsame, rfl⟩,
      action, ⟨_, hsame', rfl⟩, fields, ⟨_, hsame'', rfl⟩, hallowed, hreasons, haction, hfields⟩
    rw [hresult, Json.obj.injEq] at hsame hsame' hsame''
    subst hsame hsame' hsame''
    rw [hallowed] at haction
    exact ⟨members, result, rfl, hresult, hallowed, hreasons, haction, hfields⟩
  · rintro ⟨members, result, rfl, hresult, hallowed, hreasons, haction, hfields⟩
    rw [← hallowed] at haction
    exact ⟨_, ⟨members, rfl, rfl⟩, _, ⟨result, hresult, rfl⟩, _, ⟨result, hresult, rfl⟩,
      _, ⟨result, hresult, rfl⟩, _, ⟨result, hresult, rfl⟩, hallowed, hreasons, haction, hfields⟩

/-- **What permits.**  The engine hands on a permission exactly where the body holds one. -/
theorem read_result_permits_iff {body : Json} {pr : PolicyResult} :
    read_result body = .ok pr ∧ pr.allowed = true ∧ pr.action ≠ "reject" ↔ Permits body pr := by
  rw [read_result_eq_ok]
  constructor
  · rintro ⟨⟨members, result, rfl, hresult, hallowed, hreasons, haction, hfields⟩, hallow, hne⟩
    rw [hallow] at hallowed haction
    refine ⟨⟨members, result, rfl, ?_, ?_, ?_, hreasons, hfields⟩, hallow, hne⟩
    · cases hm : Json.member "result" members with
      | none =>
          -- without a result there is nothing to allow
          rw [hm] at hresult
          cases hresult
          cases hallowed
      | some v =>
          rw [hm] at hresult
          exact congrArg some hresult
    · cases hm : Json.member "allow" result with
      | none =>
          rw [hm] at hallowed
          cases hallowed
      | some allow =>
          rw [hm] at hallowed
          exact ⟨allow, rfl, hallowed⟩
    · cases hm : Json.member "action" result with
      | none =>
          rw [hm] at haction
          exact .inl ⟨rfl, (Option.some.inj haction).symm⟩
      | some action =>
          rw [hm] at haction
          exact .inr (congrArg some (Json.text_eq_some.mp haction))
  · rintro ⟨⟨members, result, rfl, hresult, ⟨allow, hmember, htruthy⟩, haction, hreasons, hfields⟩,
      hallow, hne⟩
    refine ⟨⟨members, result, rfl, by rw [hresult]; rfl, ?_, hreasons, ?_, hfields⟩, hallow, hne⟩
    · rw [hmember, hallow]
      exact htruthy
    · rw [hallow]
      obtain ⟨hm, hdefault⟩ | hm := haction
      · rw [hm, hdefault]
        rfl
      · rw [hm]
        rfl

/-- The answer is a good response whose body permits. -/
def Permitted (answer : Except Exc HttpResponse) (pr : PolicyResult) : Prop :=
  ∃ response body, answer = .ok response ∧ 200 ≤ response.status_code ∧
    response.status_code < 300 ∧ response.body = some body ∧ Permits body pr

theorem read_reply_permits_iff {opa_url policy_name : String} {answer : Except Exc HttpResponse}
    {pr : PolicyResult} :
    read_reply opa_url policy_name answer = .ok pr ∧ pr.allowed = true ∧ pr.action ≠ "reject" ↔
      Permitted answer pr := by
  constructor
  · rintro ⟨hread, hpermits⟩
    cases answer with
    | error e =>
        simp only [read_reply] at hread
        split_ifs at hread
    | ok response =>
        replace hread : read_response policy_name response = .ok pr := hread
        by_cases h2 : 200 ≤ response.status_code ∧ response.status_code < 300
        · rw [read_response_2xx h2] at hread
          cases hbody : response.body with
          | none =>
              rw [hbody] at hread
              cases hread
          | some body =>
              rw [hbody] at hread
              exact ⟨response, body, rfl, h2.1, h2.2, hbody,
                read_result_permits_iff.mp ⟨hread, hpermits⟩⟩
        · by_cases h5 : 500 ≤ response.status_code
          · rw [read_response_5xx h5] at hread
            cases hread
          · rw [read_response_error h5 h2] at hread
            cases hread
  · rintro ⟨response, body, rfl, hle, hlt, hbody, hpermits⟩
    obtain ⟨hread, hallowed⟩ := read_result_permits_iff.mpr hpermits
    refine ⟨?_, hallowed⟩
    show read_response policy_name response = .ok pr
    rw [read_response_2xx ⟨hle, hlt⟩, hbody]
    exact hread

end PolicyEngine

/-! ## A server of the policies -/

/-- What the server writes for a document. -/
def OpaDocument.toJson (doc : OpaDocument) : Json :=
  .obj [("result", .obj (
    Json.optional "allow" .bool doc.allow ++
    Json.optional "reasons" (fun ss => .arr (ss.map .str)) doc.reasons ++
    Json.optional "action" .str doc.action ++
    Json.optional "fields" (fun ss => .arr (ss.map .str)) doc.fields))]

/-- A reply as the HTTP client sees it. -/
def OpaReply.wire : OpaReply → Except Exc HttpResponse
  | .connect_error text => .error ⟨.other "ConnectError", [.lit text]⟩
  | .timeout text => .error ⟨.other "ReadTimeout", [.lit text]⟩
  | .transport_error e => .error e
  | .response status_code body => .ok ⟨status_code, body.map OpaDocument.toJson⟩

/-- The classes have no instance in common. -/
def OpaReply.Classified : OpaReply → Prop
  | .transport_error e => e.kind ≠ .other "ConnectError" ∧ ¬isTimeoutException e
  | _ => True

namespace PolicyEngine

theorem texts_optional (ss : Option (List String)) :
    ((ss.map fun ss => Json.arr (ss.map .str)).getD (.arr [])).texts = some (ss.getD []) := by
  cases ss with
  | none => rfl
  | some ss => exact Json.texts_map_str ss

theorem read_result_toJson (doc : OpaDocument) :
    read_result doc.toJson = .ok
      { allowed := doc.allow.getD false
        reasons := doc.reasons.getD []
        action := doc.action.getD (if ¬doc.allow.getD false then "reject" else "allow")
        fields := doc.fields.getD [] } := by
  refine read_result_eq_ok.mpr ⟨_, _, rfl, rfl, ?_, ?_, ?_, ?_⟩
  · cases doc.allow <;> simp [Json.member_append, Json.member_optional, Json.truthy]
  · rw [← texts_optional]
    simp [Json.member_append, Json.member_optional]
  · cases doc.action <;> simp [Json.member_append, Json.member_optional, Json.text]
  · rw [← texts_optional]
    simp [Json.member_append, Json.member_optional]

/-- **The document model is the wire model** on a server of documents. -/
theorem read_reply_wire (opa_url policy_name : String) {reply : OpaReply} (h : reply.Classified) :
    read_reply opa_url policy_name reply.wire = evaluate opa_url policy_name reply := by
  cases reply with
  | connect_error text => rfl
  | timeout text => rfl
  | transport_error e => simp [OpaReply.wire, read_reply, evaluate, h.1, h.2]
  | response status_code body =>
      by_cases h5 : 500 ≤ status_code
      · simp only [evaluate, if_pos h5]
        exact read_response_5xx h5
      · by_cases h2 : 200 ≤ status_code ∧ status_code < 300
        · simp only [evaluate, if_neg h5, if_neg (not_not.mpr h2)]
          refine (read_response_2xx h2).trans ?_
          cases body with
          | none => rfl
          | some doc => exact read_result_toJson doc
        · simp only [evaluate, if_neg h5, if_pos h2]
          exact read_response_error h5 h2

end PolicyEngine

end AegisOs
