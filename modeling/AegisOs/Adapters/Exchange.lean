/-
# `AegisOs.Adapters.Exchange` — what the adapters read in a response

Behind the gate an adapter posts its request and takes the body of the response apart, each
in the dialect of its provider:

| | text | tokens | finish |
| :-- | :-- | :-- | :-- |
| OpenAI | `choices[0].message.content` | `usage.total_tokens` | `choices[0].finish_reason` |
| Llama | as OpenAI | as OpenAI, or 0 | as OpenAI |
| Anthropic | `content[0].text` | sum of `usage`'s two, each or 0 | `stop_reason` |

where a missing finish is "stop".  Each reads exactly the bodies that have these places
(`read_eq_ok_iff` of each), and `LLMResponse` then wants texts and a number in them.  The
Llama dialect is the OpenAI dialect with the count optional (`llama_reads_openai`).
-/
import AegisOs.Http
import AegisOs.Adapters.Base

namespace AegisOs

open Lib Lib.EState

/-- The arguments of `LLMResponse(...)` that come from a body. -/
structure RawReply where
  content : Json
  tokens_used : Json
  finish_reason : Json

/-! ## The dialects -/

/-- `OpenAIAdapter.complete`, from `choice = body["choices"][0]`. -/
def OpenAIAdapter.read (body : Json) : Except Json.AccessError RawReply := do
  let choice ← (← body.item "choices").head
  let content ← (← choice.item "message").item "content"
  let tokens_used ← (← body.item "usage").item "total_tokens"
  let finish_reason := (← choice.get "finish_reason").getD (.str "stop")
  return ⟨content, tokens_used, finish_reason⟩

/-- `LocalLlamaAdapter.complete`, from `choice = body["choices"][0]`. -/
def LocalLlamaAdapter.read (body : Json) : Except Json.AccessError RawReply := do
  let choice ← (← body.item "choices").head
  let usage := (← body.get "usage").getD (.obj [])
  let tokens_used := (← usage.get "total_tokens").getD (.num 0)
  let content ← (← choice.item "message").item "content"
  let finish_reason := (← choice.get "finish_reason").getD (.str "stop")
  return ⟨content, tokens_used, finish_reason⟩

/-- `AnthropicAdapter.complete`, from `content_block = body["content"][0]`. -/
def AnthropicAdapter.read (body : Json) : Except Json.AccessError RawReply := do
  let content_block ← (← body.item "content").head
  let usage := (← body.get "usage").getD (.obj [])
  let input_tokens := (← usage.get "input_tokens").getD (.num 0)
  let output_tokens := (← usage.get "output_tokens").getD (.num 0)
  let tokens_used ← input_tokens.add output_tokens
  let content ← content_block.item "text"
  let finish_reason := (← body.get "stop_reason").getD (.str "stop")
  return ⟨content, tokens_used, finish_reason⟩

/-- An adapter with the reading of its responses. -/
structure Provider where
  adapter : LLMAdapter
  read : Json → Except Json.AccessError RawReply

def openai (api_key : String) (default_model : String := "gpt-4o-mini") : Provider :=
  ⟨OpenAIAdapter api_key default_model, OpenAIAdapter.read⟩

def anthropic (api_key : String) (default_model : String := "claude-3-5-haiku-20241022") :
    Provider :=
  ⟨AnthropicAdapter api_key default_model, AnthropicAdapter.read⟩

def local_llama (base_url : String := "http://localhost:11434/v1")
    (default_model : String := "llama3") : Provider :=
  ⟨LocalLlamaAdapter base_url default_model, LocalLlamaAdapter.read⟩

/-! ## From a response to a reply -/

/-- The validation of `LLMResponse`; `lax_int` is the library's reading of a value as an `int`. -/
def RawReply.validated (lax_int : Json → Option ℤ) (raw : RawReply) : Except Exc ProviderReply :=
  match raw.content.text, lax_int raw.tokens_used, raw.finish_reason.text with
  | some content, some tokens_used, some finish_reason => .ok ⟨content, tokens_used, finish_reason⟩
  | _, _, _ => .error ⟨.ValidationError, []⟩

/-- What an adapter makes of a response. -/
def Provider.read_response (lax_int : Json → Option ℤ) (P : Provider) (response : HttpResponse) :
    Except Exc ProviderReply := do
  let body ← response.raise_for_status >>= fun _ => response.json
  (← access (P.read body)).validated lax_int

/-- `client.post` and the reading of what it hands back. -/
def Provider.exchange (lax_int : Json → Option ℤ) (P : Provider)
    (client : HttpPost → Except Exc HttpResponse) (request : HttpPost) :
    Except Exc ProviderReply := do
  P.read_response lax_int (← client request)

/-! ## What is read -/

section
variable {body : Json} {raw : RawReply}

/-- The first of the choices. -/
def IsChoice (body : Json) (choice : List (String × Json)) : Prop :=
  body.path [.key "choices", .first] = some (.obj choice)

theorem OpenAIAdapter.read_eq_ok_iff : OpenAIAdapter.read body = .ok raw ↔ ∃ choice,
    IsChoice body choice ∧
    (Json.obj choice).path [.key "message", .key "content"] = some raw.content ∧
    body.path [.key "usage", .key "total_tokens"] = some raw.tokens_used ∧
    (Json.member "finish_reason" choice).getD (.str "stop") = raw.finish_reason := by
  obtain ⟨content, tokens_used, finish_reason⟩ := raw
  simp only [OpenAIAdapter.read, except_bind_eq_ok_iff, IsChoice, Json.path_key, Json.path_nil,
    Json.path_first_obj, Json.get_eq_ok, Option.some.injEq, exists_eq_right]
  constructor
  · rintro ⟨choices, hchoices, choice, hhead, message, hmessage, text, htext, usage, husage, tokens,
      htokens, _, ⟨members, rfl, rfl⟩, hraw⟩
    cases hraw
    exact ⟨members, ⟨choices, hchoices, hhead⟩, ⟨message, hmessage, htext⟩,
      ⟨usage, husage, htokens⟩, rfl⟩
  · rintro ⟨members, ⟨choices, hchoices, hhead⟩, ⟨message, hmessage, htext⟩,
      ⟨usage, husage, htokens⟩, rfl⟩
    exact ⟨choices, hchoices, _, hhead, message, hmessage, _, htext, usage, husage, _, htokens, _,
      ⟨members, rfl, rfl⟩, rfl⟩

/-- The `usage` of a body, nothing if there is none. -/
def IsUsage (body : Json) (usage : List (String × Json)) : Prop :=
  ∃ members, body = .obj members ∧ (Json.member "usage" members).getD (.obj []) = .obj usage

theorem LocalLlamaAdapter.read_eq_ok_iff : LocalLlamaAdapter.read body = .ok raw ↔
    ∃ choice usage, IsChoice body choice ∧ IsUsage body usage ∧
      (Json.obj choice).path [.key "message", .key "content"] = some raw.content ∧
      (Json.member "total_tokens" usage).getD (.num 0) = raw.tokens_used ∧
      (Json.member "finish_reason" choice).getD (.str "stop") = raw.finish_reason := by
  obtain ⟨content, tokens_used, finish_reason⟩ := raw
  simp only [LocalLlamaAdapter.read, except_bind_eq_ok_iff, IsChoice, IsUsage, Json.path_key,
    Json.path_nil, Json.path_first_obj, Json.get_eq_ok, Option.some.injEq, exists_eq_right]
  constructor
  · rintro ⟨choices, hchoices, choice, hhead, _, ⟨members, rfl, rfl⟩, _, ⟨usage, husage, rfl⟩,
      message, hmessage, text, htext, _, ⟨choice, rfl, rfl⟩, hraw⟩
    cases hraw
    exact ⟨choice, usage, ⟨choices, hchoices, hhead⟩, ⟨members, rfl, husage⟩,
      ⟨message, hmessage, htext⟩, rfl, rfl⟩
  · rintro ⟨choice, usage, ⟨choices, hchoices, hhead⟩, ⟨members, rfl, husage⟩,
      ⟨message, hmessage, htext⟩, rfl, rfl⟩
    exact ⟨choices, hchoices, _, hhead, _, ⟨members, rfl, rfl⟩, _, ⟨usage, husage, rfl⟩,
      message, hmessage, _, htext, _, ⟨choice, rfl, rfl⟩, rfl⟩

theorem AnthropicAdapter.read_eq_ok_iff : AnthropicAdapter.read body = .ok raw ↔
    ∃ members block usage, body = .obj members ∧
      body.path [.key "content", .first] = some (.obj block) ∧ IsUsage body usage ∧
      ((Json.member "input_tokens" usage).getD (.num 0)).add
        ((Json.member "output_tokens" usage).getD (.num 0)) = .ok raw.tokens_used ∧
      Json.member "text" block = some raw.content ∧
      (Json.member "stop_reason" members).getD (.str "stop") = raw.finish_reason := by
  obtain ⟨content, tokens_used, finish_reason⟩ := raw
  simp only [AnthropicAdapter.read, except_bind_eq_ok_iff, IsUsage, Json.path_key,
    Json.path_first_obj, Json.get_eq_ok, Json.item_eq_ok]
  constructor
  · rintro ⟨contents, ⟨members, rfl, hcontents⟩, _, hhead, _, ⟨_, hsame, rfl⟩, _,
      ⟨usage, husage, rfl⟩, _, ⟨_, husage', rfl⟩, tokens, htokens, text, ⟨block, rfl, htext⟩, _, ⟨_, hsame', rfl⟩, hraw⟩
    cases hsame
    cases hsame'
    cases husage.symm.trans husage'
    cases hraw
    exact ⟨members, block, usage, rfl, ⟨contents, ⟨members, rfl, hcontents⟩, hhead⟩,
      ⟨members, rfl, husage⟩, htokens, htext, rfl⟩
  · rintro ⟨members, block, usage, rfl, ⟨contents, ⟨_, hsame, hcontents⟩, hhead⟩,
      ⟨_, hsame', husage⟩, htokens, htext, rfl⟩
    cases hsame
    cases hsame'
    exact ⟨contents, ⟨members, rfl, hcontents⟩, _, hhead, _, ⟨members, rfl, rfl⟩, _,
      ⟨usage, husage, rfl⟩, _, ⟨usage, husage, rfl⟩, _, htokens, _, ⟨block, rfl, htext⟩, _,
      ⟨members, rfl, rfl⟩, rfl⟩

/-- Whatever the OpenAI adapter reads, the Llama adapter reads too. -/
theorem llama_reads_openai (h : OpenAIAdapter.read body = .ok raw) :
    LocalLlamaAdapter.read body = .ok raw := by
  obtain ⟨choice, hchoice, hcontent, husage, hfinish⟩ := OpenAIAdapter.read_eq_ok_iff.mp h
  obtain ⟨usage, hitem, hpath⟩ := Json.path_key.mp husage
  obtain ⟨members, rfl, hmember⟩ := Json.item_eq_ok.mp hitem
  obtain ⟨tokens, hitem', hsame⟩ := Json.path_key.mp hpath
  obtain ⟨usage, rfl, htokens⟩ := Json.item_eq_ok.mp hitem'
  refine LocalLlamaAdapter.read_eq_ok_iff.mpr ⟨choice, usage, hchoice, ⟨members, rfl, ?_⟩, hcontent,
    ?_, hfinish⟩
  · rw [hmember]
    rfl
  · rw [htokens]
    exact Option.some.inj hsame

end

theorem RawReply.validated_eq_ok {lax_int : Json → Option ℤ} {raw : RawReply}
    {reply : ProviderReply} :
    raw.validated lax_int = .ok reply ↔ raw.content = .str reply.content ∧
      lax_int raw.tokens_used = some reply.tokens_used ∧
      raw.finish_reason = .str reply.finish_reason := by
  obtain ⟨content, tokens_used, finish_reason⟩ := reply
  simp only [← Json.text_eq_some]
  unfold RawReply.validated
  cases raw.content.text <;> cases lax_int raw.tokens_used <;> cases raw.finish_reason.text <;> simp

/-- An adapter returns a reply exactly for a response with a good status and such a body. -/
theorem Provider.read_response_eq_ok_iff {lax_int : Json → Option ℤ} {P : Provider}
    {response : HttpResponse} {reply : ProviderReply} :
    P.read_response lax_int response = .ok reply ↔
      200 ≤ response.status_code ∧ response.status_code < 300 ∧ ∃ body raw,
        response.body = some body ∧ P.read body = .ok raw ∧ raw.content = .str reply.content ∧
        lax_int raw.tokens_used = some reply.tokens_used ∧
        raw.finish_reason = .str reply.finish_reason := by
  unfold Provider.read_response
  simp only [except_bind_eq_ok_iff (x := response.raise_for_status >>= fun _ => response.json),
    except_bind_eq_ok_iff (x := access _), decoded_eq_ok, access_eq_ok, RawReply.validated_eq_ok]
  constructor
  · rintro ⟨body, ⟨hle, hlt, hbody⟩, raw, hread, hraw⟩
    exact ⟨hle, hlt, body, raw, hbody, hread, hraw⟩
  · rintro ⟨hle, hlt, body, raw, hbody, hread, hraw⟩
    exact ⟨body, ⟨hle, hlt, hbody⟩, raw, hread, hraw⟩

end AegisOs
