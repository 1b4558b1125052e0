/-
The conversation: what the client is sent, call after call.

`WellFormed` is what a provider asks of the messages of a request: the
user's prompt first, the roles in turn, a user message last, and every
assistant message asking for tools and answered, one result for each
`tool_use` in order. `Conversation k` is how the loop builds them, one
answered response after the other, and the only way it does
(`exchange_conversation`); so all its requests are well formed
(`Conversation.wellFormed`).

`callStarts_eventsOf` ties the calls to the events that announce them.
-/
import AgentAnvil.Sdk.Transcript

namespace AgentAnvil.Sdk

variable {ω : Type} (inv : Invocation ω)

-- ============================================= the events of the calls

/-- The `data` of the event that announces a call. -/
def LLMCall.startData (call : LLMCall) : EventData :=
  .llmCallStart call.provider call.model (hashRequest call.request)
    call.request.messages.length call.request.params

def EventData.isCallStart : EventData → Bool
  | .llmCallStart .. => true
  | _ => false

/-- The `data` of the `llm_call_start` events, in order. -/
def callStarts (events : List Event) : List EventData :=
  (events.map EventEnvelope.data).filter EventData.isCallStart

/-- `llm_call_start` events measure no latency, so they can be read off the
`data` without it. -/
theorem callStarts_eq (events : List Event) :
    callStarts events = (events.map fun e => e.data.withoutLatency).filter
      EventData.isCallStart := by
  unfold callStarts
  induction events with
  | nil => rfl
  | cons e events ih =>
      rw [List.map_cons, List.map_cons, List.filter_cons, List.filter_cons,
        ih]
      cases e.data <;> rfl

/-- No tool call announces a model call. -/
theorem toolCalls_no_callStart (calls : List ToolCall) :
    ((calls.flatMap ToolCall.script).flatMap Act.datas).filter
      EventData.isCallStart = [] := by
  induction calls with
  | nil => rfl
  | cons call calls ih =>
      rw [List.flatMap_cons, List.flatMap_append, List.filter_append, ih,
        List.append_nil]
      cases call with
      | unavailable use => rfl
      | executed use mutations result =>
          rw [List.filter_eq_nil_iff]
          intro data hdata
          simp only [ToolCall.script, List.flatMap_cons, List.flatMap_nil,
            Act.datas, List.map_map, List.append_nil, List.mem_append,
            List.mem_singleton, List.mem_map] at hdata
          rcases hdata with rfl | ⟨m, -, rfl⟩ | rfl
          · exact Bool.false_ne_true
          · exact Bool.false_ne_true
          · exact Bool.false_ne_true

/-- Each turn announces its own call, and no other. -/
theorem turns_callStarts (k : Nat) (ts : List Turn) :
    ((turnsScript inv k ts).flatMap Act.datas).filter EventData.isCallStart
      = (turnsCalls inv k ts).map LLMCall.startData := by
  induction ts generalizing k with
  | nil => rfl
  | cons t ts ih =>
      rw [turnsScript, List.flatMap_append, List.filter_append, ih,
        turnsCalls, List.map_cons, Turn.script, List.flatMap_append,
        List.flatMap_append, List.filter_append, List.filter_append,
        toolCalls_no_callStart]
      rfl

theorem script_callStarts (tr : Transcript ω) :
    ((tr.script inv).flatMap Act.datas).filter EventData.isCallStart
      = (tr.calls inv 0).map LLMCall.startData := by
  unfold Transcript.script Transcript.body
  rw [Transcript.calls]
  simp only [List.flatMap_append, List.filter_append, turns_callStarts,
    List.map_append, Nat.zero_add]
  cases tr.ending with
  | stopped stopReason => exact List.append_nil _
  | maxSteps => exact List.append_nil _
  | crashed messages exc => exact List.append_nil _

/-- Each call is announced by one `llm_call_start` event, in order. -/
theorem callStarts_eventsOf {world : ω} {clock : Clock}
    (h : clock.Lasts (lineCount ((transcriptOf inv world).script inv))) :
    callStarts (eventsOf inv world clock)
      = (callsOf inv world clock).map LLMCall.startData := by
  rw [callStarts_eq, eventsOf_eq inv h, callsOf_eq inv h, perform_lines]
  show ((newLines _ _).map _).filter _ = _
  rw [newLines_datas, script_callStarts]

-- ====================================================== well-formedness

def Block.toolUse? : Block → Option ToolUse
  | .toolUse use => some use
  | .text _ => none
  | .toolResult .. => none

/-- The id a block answers, if it is a `tool_result`. -/
def Block.answers? : Block → Option String
  | .toolResult toolUseId _ _ => some toolUseId
  | .text _ => none
  | .toolUse _ => none

/-- The `tool_use` blocks of a message. -/
def Message.toolUses (m : Message) : List ToolUse :=
  match m.content with
  | .text _ => []
  | .blocks items => items.filterMap Block.toolUse?

structure WellFormed (prompt : String) (messages : List Message) : Prop where
  opening : messages.head? = some (userPrompt prompt)
  alternating : ∀ i m, messages[i]? = some m →
    m.role = if i % 2 = 0 then .user else .assistant
  closing : ∃ m, messages.getLast? = some m ∧ m.role = .user
  /-- what an assistant message asks for, the next message answers: one
  `tool_result` for each `tool_use`, and nothing else -/
  answered : ∀ i m, messages[i]? = some m → m.role = .assistant →
    m.toolUses ≠ [] ∧ ∃ results : List Block,
      messages[i + 1]? = some (toolResultsMessage results)
        ∧ results.map Block.answers?
            = m.toolUses.map fun use => some use.id

/-- The messages after `k` answered responses. -/
inductive Conversation (prompt : String) : Nat → List Message → Prop
  | opening : Conversation prompt 0 [userPrompt prompt]
  | answered {k : Nat} {t : Turn} (h : Conversation prompt k t.messages)
      (hne : t.response.toolUses ≠ [])
      (huses : t.toolCalls.map ToolCall.use = t.response.toolUses) :
      Conversation prompt (k + 1) t.answered

-- ================================================ building a conversation

section

variable {prompt : String} {k : Nat} {messages : List Message}

/-- The block of a tool call answers the use it was called for. -/
@[simp] theorem answers?_block (call : ToolCall) :
    call.block.answers? = some call.use.id := by
  cases call with
  | unavailable use => rfl
  | executed use mutations result => rfl

/-- The assistant's message has the tool uses of the response, after its
texts. -/
theorem toolUses_buildAssistantMessage (resp : LLMResponse) :
    (buildAssistantMessage resp).toolUses = resp.toolUses := by
  have htext : (resp.textBlocks.map Block.text).filterMap Block.toolUse?
      = [] := by
    rw [List.filterMap_map, List.filterMap_eq_nil_iff]
    intro body hbody
    rfl
  have huse : (resp.toolUses.map Block.toolUse).filterMap Block.toolUse?
      = resp.toolUses := by
    rw [List.filterMap_map]
    exact List.filterMap_some
  show (resp.textBlocks.map Block.text
    ++ resp.toolUses.map Block.toolUse).filterMap Block.toolUse? = _
  rw [List.filterMap_append, htext, huse, List.nil_append]

theorem answered_length (t : Turn) :
    t.answered.length = t.messages.length + 2 := by
  simp only [Turn.answered, List.length_append, List.length_singleton]

/-- Every message after a turn is one from before, the response or the
results. -/
theorem getElem?_answered {t : Turn} {i : Nat} {m : Message}
    (h : t.answered[i]? = some m) :
    t.messages[i]? = some m
      ∨ (i = t.messages.length ∧ m = buildAssistantMessage t.response)
      ∨ (i = t.messages.length + 1
          ∧ m = toolResultsMessage (t.toolCalls.map ToolCall.block)) := by
  unfold Turn.answered at h
  rw [List.append_assoc] at h
  by_cases hi : i < t.messages.length
  · rw [List.getElem?_append_left hi] at h
    exact Or.inl h
  · rw [List.getElem?_append_right (Nat.le_of_not_lt hi)] at h
    right
    rcases hj : i - t.messages.length with _ | _ | j
    · rw [hj] at h
      exact Or.inl ⟨by omega, (Option.some.inj h).symm⟩
    · rw [hj] at h
      exact Or.inr ⟨by omega, (Option.some.inj h).symm⟩
    · rw [hj] at h
      cases h

/-- The prompt, and two messages a step. -/
theorem Conversation.length (h : Conversation prompt k messages) :
    messages.length = 2 * k + 1 := by
  induction h with
  | opening => rfl
  | answered h hne huses ih =>
      rw [answered_length, ih]
      omega

theorem wellFormed_opening : WellFormed prompt [userPrompt prompt] where
  opening := rfl
  alternating := by
    intro i m hm
    cases i with
    | zero =>
        cases hm
        rfl
    | succ i => cases hm
  closing := ⟨userPrompt prompt, rfl, rfl⟩
  answered := by
    intro i m hm hrole
    cases i with
    | zero =>
        cases hm
        cases hrole
    | succ i => cases hm

/-- A turn that calls tools keeps the messages well formed. -/
theorem WellFormed.answer {t : Turn} (h : WellFormed prompt t.messages)
    (hlength : t.messages.length = 2 * k + 1)
    (hne : t.response.toolUses ≠ [])
    (huses : t.toolCalls.map ToolCall.use = t.response.toolUses) :
    WellFormed prompt t.answered where
  opening := by
    unfold Turn.answered
    rw [List.append_assoc, List.head?_append, h.opening]
    rfl
  alternating := by
    intro i m hm
    rcases getElem?_answered hm with hm | ⟨hi, rfl⟩ | ⟨hi, rfl⟩
    · exact h.alternating i m hm
    · rw [if_neg (by omega)]
      rfl
    · rw [if_pos (by omega)]
      rfl
  closing := ⟨_, List.getLast?_concat .., rfl⟩
  answered := by
    intro i m hm hrole
    rcases getElem?_answered hm with hm | ⟨hi, rfl⟩ | ⟨hi, rfl⟩
    · obtain ⟨huse, results, hnext, hids⟩ := h.answered i m hm hrole
      refine ⟨huse, results, ?_, hids⟩
      obtain ⟨hlt, -⟩ := List.getElem?_eq_some_iff.mp hnext
      unfold Turn.answered
      rw [List.append_assoc, List.getElem?_append_left hlt]
      exact hnext
    · rw [toolUses_buildAssistantMessage]
      refine ⟨hne, t.toolCalls.map ToolCall.block, ?_, ?_⟩
      · rw [hi, Turn.answered, List.append_assoc,
          List.getElem?_append_right (by omega), Nat.add_sub_cancel_left]
        rfl
      · rw [← huses, List.map_map, List.map_map]
        exact List.map_congr_left fun call _ => answers?_block call
    · cases hrole

/-- A conversation is well-formed: each exchange adds an assistant's message
and the answers to its tool uses. -/
theorem Conversation.wellFormed (h : Conversation prompt k messages) :
    WellFormed prompt messages := by
  induction h with
  | opening => exact wellFormed_opening
  | answered h hne huses ih => exact ih.answer h.length hne huses

end

-- ======================================================= the calls of a run

/-- The calls of an exchange that starts from these messages at step `k`:
each is made on a conversation, and each takes the one before further. -/
structure Exchanged (prompt : String) (k : Nat) (messages : List Message)
    (calls : List LLMCall) : Prop where
  conversation : ∀ i call, calls[i]? = some call →
    call.step = k + i ∧ Conversation prompt (k + i) call.request.messages
  first : ∀ call, calls[0]? = some call → call.request.messages = messages
  extends_ : ∀ i call next, calls[i]? = some call →
    calls[i + 1]? = some next →
    call.request.messages <+: next.request.messages

theorem Exchanged.nil (prompt : String) (k : Nat) (messages : List Message) :
    Exchanged prompt k messages [] where
  conversation := by
    intro i call hcall
    cases hcall
  first := by
    intro call hcall
    cases hcall
  extends_ := by
    intro i call next hcall
    cases hcall

/-- A call on a conversation, and then the rest of the exchange. -/
theorem Exchanged.cons {prompt : String} {k : Nat}
    {outcome : Except Exc LLMResponse} {messages later : List Message}
    {calls : List LLMCall} (hcall : Conversation prompt k messages)
    (hfront : messages <+: later)
    (h : Exchanged prompt (k + 1) later calls) :
    Exchanged prompt k messages (⟨k, inv.modelProvider, inv.modelName,
      inv.request messages, outcome⟩ :: calls) where
  conversation := by
    intro i call hi
    cases i with
    | zero =>
        cases hi
        exact ⟨rfl, hcall⟩
    | succ i =>
        have hrest := h.conversation i call hi
        rwa [Nat.add_right_comm, Nat.add_assoc k i 1] at hrest
  first := by
    intro call hi
    cases hi
    rfl
  extends_ := by
    intro i call next hi hnext
    cases i with
    | zero =>
        cases hi
        rw [h.first next hnext]
        exact hfront
    | succ i => exact h.extends_ i call next hi hnext

/-- The exchange makes its calls on a conversation it takes further. -/
theorem exchange_conversation (remaining k : Nat) {messages : List Message}
    (world : ω) (h : Conversation inv.spec.prompt k messages) :
    Exchanged inv.spec.prompt k messages
      ((transcript inv remaining messages world).calls inv k) := by
  induction remaining generalizing k messages world with
  | zero => exact Exchanged.nil ..
  | succ remaining ih =>
      rw [transcript]
      rcases inv.client.complete (inv.request messages) world with
        ⟨answer, world⟩
      cases answer with
      | error exc =>
          exact Exchanged.cons inv h (List.prefix_refl _) (Exchanged.nil ..)
      | ok resp =>
          by_cases htools : resp.callsTools
          · have hne : resp.toolUses ≠ [] := by
              intro hnil
              unfold LLMResponse.callsTools at htools
              rw [hnil] at htools
              cases htools.2
            simp only [htools, if_true]
            rw [Transcript.calls_cons]
            refine Exchanged.cons inv h ?_ (ih (k + 1) _
              (Conversation.answered h hne (toolCalls_use ..)))
            unfold Turn.answered
            rw [List.append_assoc]
            exact List.prefix_append ..
          · simp only [htools, if_false]
            exact Exchanged.cons inv h (List.prefix_refl _)
              (Exchanged.nil ..)

/-- Every request is a well-formed conversation, with the prompt and two
messages for each step before it; its event announces it, and the next
request only adds to it. -/
theorem requests_wellFormed (world : ω) {clock : Clock}
    (hlasts : clock.Lasts (lineCount ((transcriptOf inv world).script inv)))
    (k : Nat) (call : LLMCall)
    (hcall : (callsOf inv world clock)[k]? = some call) :
    call.step = k
      ∧ call.request.messages.length = 2 * k + 1
      ∧ (callStarts (eventsOf inv world clock))[k]?
          = some (.llmCallStart call.provider call.model
              (hashRequest call.request) call.request.messages.length
              call.request.params)
      ∧ WellFormed inv.spec.prompt call.request.messages
      ∧ ∀ next, (callsOf inv world clock)[k + 1]?
          = some next → call.request.messages <+: next.request.messages := by
  have hstarts := callStarts_eventsOf inv hlasts
  rw [callsOf_eq inv hlasts] at hcall hstarts ⊢
  have hexchange := exchange_conversation inv inv.maxSteps.toNat 0 world
    (.opening : Conversation inv.spec.prompt 0 _)
  obtain ⟨hstep, hconversation⟩ := hexchange.conversation k call hcall
  rw [Nat.zero_add] at hstep hconversation
  refine ⟨hstep, hconversation.length, ?_, hconversation.wellFormed, ?_⟩
  · rw [hstarts, List.getElem?_map, hcall]
    rfl
  · intro next hnext
    exact hexchange.extends_ k call next hcall hnext

/-- The request after the call of a tool there is none of. -/
theorem requests_wellFormed_demo : ∃ call,
    (callsOf (scriptedTask "scripted" [callsBash, saysDone]) 0 everyMs)[1]?
        = some call
      ∧ call.request.messages.length = 3
      ∧ WellFormed "hi" call.request.messages := by
  have hlasts : everyMs.Lasts (lineCount ((transcriptOf
      (scriptedTask "scripted" [callsBash, saysDone]) 0).script
      (scriptedTask "scripted" [callsBash, saysDone]))) :=
    Clock.lasts_system ..
  have hcall : ((transcriptOf (scriptedTask "scripted" [callsBash, saysDone])
      0).calls (scriptedTask "scripted" [callsBash, saysDone]) 0)[1]?
      = some ⟨1, "mock", "scripted", (scriptedTask "scripted" [callsBash,
          saysDone]).request [userPrompt "hi", buildAssistantMessage callsBash,
            toolResultsMessage [.toolResult "tu-1" (notAvailable "bash")
              true]], .ok saysDone⟩ := rfl
  rw [← callsOf_eq _ hlasts] at hcall
  obtain ⟨-, hlength, -, hwell, -⟩ := requests_wellFormed _ _ hlasts _ _ hcall
  exact ⟨_, hcall, hlength, hwell⟩

end AgentAnvil.Sdk
