/-
What `request_hash` identifies.

The hash is taken of the system prompt, the messages, the tools and the
params, and of nothing else (`hashRequest_eq_iff`). Two calls that agree on
these have one hash, and if they were made of different models the hash
does not tell them apart.
-/
import AgentAnvil.Sdk.Proofs.Conversation

namespace AgentAnvil.Sdk

-- ============================================================ agreement

def Request.messagesJson (request : Request) : Json :=
  .arr (request.messages.map Message.toJson)

def Request.toolsJson (request : Request) : Json :=
  .arr (request.tools.map ToolSchema.toJson)

def Request.paramsJson (request : Request) : Json :=
  .obj (request.params.map fun kv => (kv.1, .str kv.2))

/-- The entries of the hashed payload. -/
def Request.entries (request : Request) : List (String × Json) := [
  ("system", .str request.system), ("messages", request.messagesJson),
  ("tools", request.toolsJson), ("params", request.paramsJson)]

/-- The requests agree as JSON values, the order of object keys aside. -/
structure Request.Agrees (a b : Request) : Prop where
  system : a.system = b.system
  messages : Json.Same a.messagesJson b.messagesJson
  tools : Json.Same a.toolsJson b.toolsJson
  params : Json.Same a.paramsJson b.paramsJson

/-- The calls agree on the model and on the request. -/
structure LLMCall.Agrees (a b : LLMCall) : Prop where
  provider : a.provider = b.provider
  model : a.model = b.model
  request : a.request.Agrees b.request

-- ============================================================== the hash

/-- The canonical payloads are the same just when every part of the requests
agrees; the model is no part of it. -/
theorem payload_same_iff (a b : Request) :
    Json.Same a.payload b.payload ↔ a.Agrees b := by
  have hkeys : a.entries.map Prod.fst = b.entries.map Prod.fst := rfl
  have hnodup : (a.entries.map Prod.fst).Nodup := by
    show ["system", "messages", "tools", "params"].Nodup
    decide
  refine (Json.same_obj_iff hkeys hnodup).trans ?_
  constructor
  · intro h
    simp only [Request.entries, Json.canonEntries, Json.canon,
      List.cons.injEq, Prod.mk.injEq, true_and, and_true,
      Json.str.injEq] at h
    exact ⟨h.1, h.2.1, h.2.2.1, h.2.2.2⟩
  · intro h
    have hmessages : Json.canon a.messagesJson = Json.canon b.messagesJson :=
      h.messages
    have htools : Json.canon a.toolsJson = Json.canon b.toolsJson := h.tools
    have hparams : Json.canon a.paramsJson = Json.canon b.paramsJson :=
      h.params
    simp only [Request.entries, Json.canonEntries, h.system, hmessages,
      htools, hparams]

/-- On messages without a collision the hash says which it was. -/
theorem sha256Text_eq_iff {m n : List UInt8}
    (hfree : Sha256.CollisionFree {m, n}) :
    sha256Text m = sha256Text n ↔ m = n := by
  constructor
  · intro h
    refine hfree.eq (Or.inl rfl) (Or.inr rfl) ?_
    exact Sha256.hexdigest_injective ((String.append_right_inj _).mp h)
  · intro h
    rw [h]

/-- So equal hashes mean requests that agree, and nothing about who was asked.
-/
theorem hashRequest_eq_iff {a b : Request}
    (hfree : Sha256.CollisionFree
      {canonicalJson a.payload, canonicalJson b.payload}) :
    hashRequest a = hashRequest b ↔ a.Agrees b := by
  unfold hashRequest
  rw [sha256Text_eq_iff hfree, canonicalJson, canonicalJson,
    Json.dumps_eq_iff, payload_same_iff]

-- ============================================================ the calls

section

variable {ω₁ ω₂ : Type}

/-- The calls of a run, each with the `data` of the `llm_call_start` event
that announces it. -/
def announcedCalls {ω : Type} (inv : Invocation ω) (world : ω)
    (clock : Clock) : List (EventData × LLMCall) :=
  (callStarts (eventsOf inv world clock)).zip (callsOf inv world clock)

/-- The event zipped with a call is the one that announces it. -/
theorem announced_startData {ω : Type} {inv : Invocation ω} {world : ω}
    {clock : Clock} {data : EventData} {call : LLMCall}
    (hlasts : clock.Lasts (lineCount ((transcriptOf inv world).script inv)))
    (h : (data, call) ∈ announcedCalls inv world clock) :
    data = call.startData := by
  have hzip : ∀ calls : List LLMCall, (calls.map LLMCall.startData).zip calls
      = calls.map fun c => (c.startData, c) := by
    intro calls
    induction calls with
    | nil => rfl
    | cons c calls ih =>
        rw [List.map_cons, List.zip_cons_cons, ih, List.map_cons]
  unfold announcedCalls at h
  rw [callStarts_eventsOf inv hlasts, hzip] at h
  obtain ⟨c, -, hc⟩ := List.mem_map.mp h
  injection hc with hdata hcall
  rw [← hdata, ← hcall]

/-- The recorded hashes of two calls are equal just when the calls agree,
if and only if the calls are of one model when their requests agree. -/
theorem requestHash_identifies {inv₁ : Invocation ω₁} {inv₂ : Invocation ω₂}
    {world₁ : ω₁} {world₂ : ω₂} {clock₁ clock₂ : Clock}
    {provider₁ provider₂ model₁ model₂ hash₁ hash₂ : String}
    {count₁ count₂ : Nat} {params₁ params₂ : List (String × String)}
    {call₁ call₂ : LLMCall}
    (hlasts₁ : clock₁.Lasts
      (lineCount ((transcriptOf inv₁ world₁).script inv₁)))
    (hlasts₂ : clock₂.Lasts
      (lineCount ((transcriptOf inv₂ world₂).script inv₂)))
    (h₁ : (.llmCallStart provider₁ model₁ hash₁ count₁ params₁, call₁)
      ∈ announcedCalls inv₁ world₁ clock₁)
    (h₂ : (.llmCallStart provider₂ model₂ hash₂ count₂ params₂, call₂)
      ∈ announcedCalls inv₂ world₂ clock₂)
    (hfree : Sha256.CollisionFree {canonicalJson call₁.request.payload,
      canonicalJson call₂.request.payload}) :
    (hash₁ = hash₂ ↔ call₁.Agrees call₂)
      ↔ (call₁.request.Agrees call₂.request →
          call₁.provider = call₂.provider ∧ call₁.model = call₂.model) := by
  have hdata₁ := announced_startData hlasts₁ h₁
  have hdata₂ := announced_startData hlasts₂ h₂
  unfold LLMCall.startData at hdata₁ hdata₂
  injection hdata₁ with _ _ hhash₁ _ _
  injection hdata₂ with _ _ hhash₂ _ _
  rw [hhash₁, hhash₂, hashRequest_eq_iff hfree]
  constructor
  · intro h hagrees
    have hcalls := h.mp hagrees
    exact ⟨hcalls.provider, hcalls.model⟩
  · intro h
    constructor
    · intro hagrees
      exact ⟨(h hagrees).1, (h hagrees).2, hagrees⟩
    · intro hcalls
      exact hcalls.request

/-- The first call of a scripted task. -/
def firstCall (model : String) : LLMCall where
  step := 0
  provider := "mock"
  model := model
  request := (scriptedTask model [saysDone]).request [userPrompt "hi"]
  outcome := .ok saysDone

/-- The sample's first call is announced by its event. -/
theorem firstCall_announced (model : String) :
    ((firstCall model).startData, firstCall model)
      ∈ announcedCalls (scriptedTask model [saysDone]) 0 everyMs := by
  have hlasts : everyMs.Lasts (lineCount ((transcriptOf
      (scriptedTask model [saysDone]) 0).script
      (scriptedTask model [saysDone]))) := Clock.lasts_system ..
  have hcalls : (transcriptOf (scriptedTask model [saysDone]) 0).calls
      (scriptedTask model [saysDone]) 0 = [firstCall model] := rfl
  unfold announcedCalls
  rw [callStarts_eventsOf _ hlasts, callsOf_eq _ hlasts, hcalls]
  exact List.mem_cons_self ..

/-- Two runs that differ in the model: one request, two calls. -/
theorem requestHash_identifies_demo :
    (hashRequest (firstCall "claude-opus-4-7").request
        = hashRequest (firstCall "claude-haiku-4-5").request
      ↔ (firstCall "claude-opus-4-7").Agrees (firstCall "claude-haiku-4-5"))
      ↔ ((firstCall "claude-opus-4-7").request.Agrees
          (firstCall "claude-haiku-4-5").request →
        "mock" = "mock" ∧ "claude-opus-4-7" = "claude-haiku-4-5") := by
  refine requestHash_identifies
    (show everyMs.Lasts _ from Clock.lasts_system ..)
    (show everyMs.Lasts _ from Clock.lasts_system ..)
    (firstCall_announced "claude-opus-4-7")
    (firstCall_announced "claude-haiku-4-5") ?_
  rintro m (rfl | rfl) n (rfl | rfl) h
  · rfl
  · rfl
  · rfl
  · rfl

/-- The hash does not say which model was asked. -/
theorem requestHash_without_model :
    ¬ (hashRequest (firstCall "claude-opus-4-7").request
        = hashRequest (firstCall "claude-haiku-4-5").request
      ↔ (firstCall "claude-opus-4-7").Agrees (firstCall "claude-haiku-4-5"))
    ∧ ((firstCall "claude-opus-4-7").startData, firstCall "claude-opus-4-7")
        ∈ announcedCalls (scriptedTask "claude-opus-4-7" [saysDone]) 0 everyMs
    ∧ ((firstCall "claude-haiku-4-5").startData, firstCall "claude-haiku-4-5")
        ∈ announcedCalls (scriptedTask "claude-haiku-4-5" [saysDone]) 0
          everyMs
    ∧ Sha256.CollisionFree
        {canonicalJson (firstCall "claude-opus-4-7").request.payload,
          canonicalJson (firstCall "claude-haiku-4-5").request.payload} := by
  refine ⟨?_, firstCall_announced _, firstCall_announced _, ?_⟩
  · intro h
    have hmodel : "claude-opus-4-7" = "claude-haiku-4-5" :=
      (h.mp rfl).model
    revert hmodel
    decide
  · rintro m (rfl | rfl) n (rfl | rfl) h
    · rfl
    · rfl
    · rfl
    · rfl

end

end AgentAnvil.Sdk
