/-
What `request_hash` commits a run to.

A request carries the whole conversation, and every conversation of a run
is the one before with the response and the tool results behind it
(`Chained`). So the hash of a request is the head of a chain: two runs that
record one `request_hash`, the one at its call `i` and the other at its call
`j`, are at the same step, and up to there nothing that was asked, answered
or shown as a tool's result tells them apart (`requestHash_commits`). All
the hashes recorded before agree too.

The step back is `Chained.before`: agreement on a request gives agreement
on the request before and on the response between the two.
-/
import AgentAnvil.Sdk.Proofs.RequestHash
import AgentAnvil.Sdk.Proofs.Totals

namespace AgentAnvil.Sdk

-- ============================================================ agreement

/-- A tool use, as the response's hash has it. -/
def ToolUse.payload (t : ToolUse) : Json :=
  .obj [("id", .str t.id), ("name", .str t.name), ("input", .obj t.input)]

def LLMResponse.toolUsesJson (resp : LLMResponse) : Json :=
  .arr (resp.toolUses.map ToolUse.payload)

/-- The payload `hashResponse` hashes. -/
def LLMResponse.payload (resp : LLMResponse) : Json :=
  .obj [("text_blocks", .arr (resp.textBlocks.map .str)),
    ("tool_uses", resp.toolUsesJson), ("stop_reason", .str resp.stopReason)]

/-- The responses agree as JSON values, the order of object keys aside. -/
structure LLMResponse.Agrees (a b : LLMResponse) : Prop where
  textBlocks : a.textBlocks = b.textBlocks
  toolUses : Json.Same a.toolUsesJson b.toolUsesJson
  stopReason : a.stopReason = b.stopReason

/-- Responses that agree have one hash. -/
theorem hashResponse_of_agrees {a b : LLMResponse} (h : a.Agrees b) :
    hashResponse a = hashResponse b := by
  have hkeys : ["text_blocks", "tool_uses", "stop_reason"].Nodup := by decide
  have huses : Json.canon a.toolUsesJson = Json.canon b.toolUsesJson :=
    h.toolUses
  have hpayload : Json.Same a.payload b.payload := by
    refine (Json.same_obj_iff (by rfl) (by exact hkeys)).mpr ?_
    simp only [Json.canonEntries, h.textBlocks, h.stopReason, huses]
  show sha256Text (Json.dumps a.payload) = sha256Text (Json.dumps b.payload)
  rw [(Json.dumps_eq_iff _ _).mpr hpayload]

/-- Requests that agree have one hash, and this without any assumption on the
hash function. -/
theorem hashRequest_of_agrees {a b : Request} (h : a.Agrees b) :
    hashRequest a = hashRequest b := by
  unfold hashRequest canonicalJson
  rw [(Json.dumps_eq_iff _ _).mpr ((payload_same_iff a b).mpr h)]

-- ========================================================= their messages

/-- A text block is its text. -/
theorem textBlock_injective {body body' : String}
    (h : Json.Same (Block.text body).toJson (Block.text body').toJson) :
    body = body' := by
  have hkeys : ["type", "text"].Nodup := by decide
  have hentries := (Json.same_obj_iff (by rfl) (by exact hkeys)).mp h
  simp [Json.canonEntries, Json.canon] at hentries
  exact hentries

/-- The type tells a text from a tool use. -/
theorem textBlock_ne_toolUse (body : String) (use : ToolUse) :
    ¬ Json.Same (Block.text body).toJson (Block.toolUse use).toJson := by
  intro h
  unfold Json.Same Block.toJson Json.canon at h
  injection h with hentries
  have hlength := congrArg List.length hentries
  rw [List.length_insertionSort, List.length_insertionSort] at hlength
  cases hlength

/-- A tool use in a message is the tool use of a response, under one more key.
-/
theorem toolUse_canon {t u : ToolUse}
    (h : Json.Same (Block.toolUse t).toJson (Block.toolUse u).toJson) :
    Json.Same t.payload u.payload := by
  have hkeys : ["type", "id", "name", "input"].Nodup := by decide
  have hentries := (Json.same_obj_iff (by rfl) (by exact hkeys)).mp h
  refine (Json.same_obj_iff (by rfl) ?_).mpr (List.cons.inj hentries).2
  exact (List.nodup_cons.mp hkeys).2

theorem message_same_iff {m n : Message} :
    Json.Same m.toJson n.toJson
      ↔ m.role.text = n.role.text
        ∧ Json.Same m.content.toJson n.content.toJson := by
  have hkeys : ["role", "content"].Nodup := by decide
  refine (Json.same_obj_iff (by rfl) (by exact hkeys)).trans ?_
  simp [Json.canonEntries, Json.canon, Json.Same]

/-- Conversations that agree start from one prompt. -/
theorem Conversation.prompt_eq {prompt prompt' : String} {k k' : Nat}
    {messages messages' : List Message}
    (h : Conversation prompt k messages)
    (h' : Conversation prompt' k' messages')
    (hsame : (messages.map Message.toJson).map Json.canon
      = (messages'.map Message.toJson).map Json.canon) :
    prompt = prompt' := by
  have hhead := congrArg List.head? hsame
  simp only [List.head?_map, h.wellFormed.opening, h'.wellFormed.opening,
    Option.map_some, Option.some.injEq] at hhead
  have hcontent := (message_same_iff.mp hhead).2
  simpa [Json.Same, userPrompt, Content.toJson, Json.canon] using hcontent

/-- Of two lists that each hold items of one kind and then of another, the
kinds never to be confused, each half agrees on its own. -/
theorem append_map_inj {α β γ : Type} {f : α → γ} {g : β → γ}
    (hf : ∀ a a', f a = f a' → a = a') (hfg : ∀ a b, f a ≠ g b)
    {as as' : List α} {bs bs' : List β}
    (h : as.map f ++ bs.map g = as'.map f ++ bs'.map g) :
    as = as' ∧ bs.map g = bs'.map g := by
  induction as generalizing as' with
  | nil =>
      cases as' with
      | nil => exact ⟨rfl, h⟩
      | cons a' as' =>
          cases bs with
          | nil => cases h
          | cons b bs => exact absurd (List.cons.inj h).1.symm (hfg a' b)
  | cons a as ih =>
      cases as' with
      | nil =>
          cases bs' with
          | nil => cases h
          | cons b bs' => exact absurd (List.cons.inj h).1 (hfg a b)
      | cons a' as' =>
          obtain ⟨hhead, hrest⟩ := List.cons.inj h
          obtain ⟨has, hbs⟩ := ih hrest
          exact ⟨by rw [hf a a' hhead, has], hbs⟩

/-- What holds of the images holds of the images under a coarser map. -/
theorem map_eq_of_map_eq {α β γ : Type} {f : α → β} {g : α → γ}
    (hfg : ∀ a a', f a = f a' → g a = g a') {as as' : List α}
    (h : as.map f = as'.map f) : as.map g = as'.map g := by
  induction as generalizing as' with
  | nil =>
      cases as' with
      | nil => rfl
      | cons a' as' => cases h
  | cons a as ih =>
      cases as' with
      | nil => cases h
      | cons a' as' =>
          obtain ⟨hhead, hrest⟩ := List.cons.inj h
          rw [List.map_cons, List.map_cons, hfg a a' hhead, ih hrest]

/-- The message of a response tells what the response was. -/
theorem assistantMessage_same {a b : LLMResponse}
    (h : Json.Same (buildAssistantMessage a).toJson
      (buildAssistantMessage b).toJson) :
    a.textBlocks = b.textBlocks ∧ Json.Same a.toolUsesJson b.toolUsesJson := by
  obtain ⟨-, hcontent⟩ := message_same_iff.mp h
  have hitems := Json.same_arr_iff.mp hcontent
  simp only [List.map_append, List.map_map] at hitems
  obtain ⟨htexts, huses⟩ := append_map_inj
    (f := Json.canon ∘ Block.toJson ∘ Block.text)
    (g := Json.canon ∘ Block.toJson ∘ Block.toolUse)
    (fun _ _ => textBlock_injective) textBlock_ne_toolUse hitems
  refine ⟨htexts, Json.same_arr_iff.mpr ?_⟩
  rw [List.map_map, List.map_map]
  exact map_eq_of_map_eq (fun _ _ => toolUse_canon) huses

-- ============================================================== the chain

variable {ω : Type} (inv : Invocation ω)

/-- The calls of an exchange: each request is the invocation's, and the
next one has the response to it and the tool results behind. -/
structure Chained (calls : List LLMCall) : Prop where
  asked : ∀ (i : Nat) call, calls[i]? = some call →
    call.request = inv.request call.request.messages
  linked : ∀ (i : Nat) call next, calls[i]? = some call →
    calls[i + 1]? = some next → ∃ resp results,
      call.outcome = .ok resp ∧ resp.stopReason = "tool_use"
        ∧ next.request.messages
            = call.request.messages ++ [buildAssistantMessage resp]
              ++ [toolResultsMessage results]

theorem Chained.nil : Chained inv [] where
  asked := by
    intro i call hcall
    cases hcall
  linked := by
    intro i call next hcall
    cases hcall

theorem Chained.one (k : Nat) (messages : List Message)
    (outcome : Except Exc LLMResponse) :
    Chained inv [⟨k, inv.modelProvider, inv.modelName, inv.request messages,
      outcome⟩] where
  asked := by
    intro i call hcall
    cases i with
    | zero =>
        cases hcall
        rfl
    | succ i => cases hcall
  linked := by
    intro i call next hcall hnext
    cases hnext

/-- An answered turn, and then the rest of the exchange. -/
theorem Chained.cons {k : Nat} {t : Turn} {calls : List LLMCall}
    (hstop : t.response.stopReason = "tool_use")
    (hfirst : ∀ call, calls[0]? = some call →
      call.request.messages = t.answered)
    (h : Chained inv calls) :
    Chained inv (⟨k, inv.modelProvider, inv.modelName,
      inv.request t.messages, .ok t.response⟩ :: calls) where
  asked := by
    intro i call hcall
    cases i with
    | zero =>
        cases hcall
        rfl
    | succ i => exact h.asked i call hcall
  linked := by
    intro i call next hcall hnext
    cases i with
    | zero =>
        cases hcall
        exact ⟨t.response, _, rfl, hstop, hfirst next hnext⟩
    | succ i => exact h.linked i call next hcall hnext

/-- The first call of an exchange is made on the messages it starts from. -/
theorem exchange_first (remaining k : Nat) (messages : List Message)
    (world : ω) (call : LLMCall)
    (h : ((transcript inv remaining messages world).calls inv k)[0]?
      = some call) : call.request.messages = messages := by
  cases remaining with
  | zero => cases h
  | succ remaining =>
      rw [transcript] at h
      rcases hcall : inv.client.complete (inv.request messages) world with
        ⟨answer, after⟩
      rw [hcall] at h
      cases answer with
      | error exc =>
          cases h
          rfl
      | ok resp =>
          by_cases htools : resp.callsTools
          · simp only [htools, if_true] at h
            rw [Transcript.calls_cons] at h
            cases h
            rfl
          · simp only [htools, if_false] at h
            cases h
            rfl

/-- The calls of an exchange are chained. -/
theorem exchange_chained (remaining k : Nat) (messages : List Message)
    (world : ω) :
    Chained inv ((transcript inv remaining messages world).calls inv k) := by
  induction remaining generalizing k messages world with
  | zero => exact Chained.nil inv
  | succ remaining ih =>
      rw [transcript]
      rcases inv.client.complete (inv.request messages) world with
        ⟨answer, world⟩
      cases answer with
      | error exc => exact Chained.one inv k messages _
      | ok resp =>
          by_cases htools : resp.callsTools
          · simp only [htools, if_true]
            rw [Transcript.calls_cons]
            exact Chained.cons inv htools.1
              (exchange_first inv remaining (k + 1) _ _) (ih ..)
          · simp only [htools, if_false]
            exact Chained.one inv k messages _

-- =========================================================== the step back

/-- Two answered calls that nothing they asked or were answered tells
apart. -/
structure LLMCall.AgreesAnswered (a b : LLMCall) : Prop where
  request : a.request.Agrees b.request
  answers : ∃ resp resp', a.outcome = .ok resp ∧ b.outcome = .ok resp'
    ∧ resp.Agrees resp'

theorem getElem?_pred {calls : List LLMCall} {i : Nat} {next : LLMCall}
    (h : calls[i + 1]? = some next) : ∃ call, calls[i]? = some call := by
  obtain ⟨hlt, -⟩ := List.getElem?_eq_some_iff.mp h
  exact ⟨calls[i], List.getElem?_eq_getElem (by omega)⟩

section

variable {ω₁ ω₂ : Type} {inv₁ : Invocation ω₁} {inv₂ : Invocation ω₂}
  {calls₁ calls₂ : List LLMCall} {i : Nat} {next₁ next₂ : LLMCall}

/-- Requests of two runs that agree agree on the messages before. -/
theorem Chained.before (hchain₁ : Chained inv₁ calls₁)
    (hchain₂ : Chained inv₂ calls₂)
    (hlength : ∀ (j : Nat) a b, calls₁[j]? = some a → calls₂[j]? = some b →
      a.request.messages.length = b.request.messages.length)
    (h₁ : calls₁[i + 1]? = some next₁) (h₂ : calls₂[i + 1]? = some next₂)
    (hagrees : next₁.request.Agrees next₂.request) :
    ∃ a b, calls₁[i]? = some a ∧ calls₂[i]? = some b
      ∧ a.AgreesAnswered b := by
  obtain ⟨a, ha⟩ := getElem?_pred h₁
  obtain ⟨b, hb⟩ := getElem?_pred h₂
  obtain ⟨resp, results, hresp, hstop, hmessages⟩ :=
    hchain₁.linked i a next₁ ha h₁
  obtain ⟨resp', results', hresp', hstop', hmessages'⟩ :=
    hchain₂.linked i b next₂ hb h₂
  have hitems := Json.same_arr_iff.mp hagrees.messages
  simp only [hmessages, hmessages', List.map_append, List.append_assoc]
    at hitems
  obtain ⟨hfront, hback⟩ := List.append_inj hitems (by
    simp only [List.length_map]
    exact hlength i a b ha hb)
  obtain ⟨htexts, huses⟩ := assistantMessage_same (List.cons.inj hback).1
  refine ⟨a, b, ha, hb, ?_, resp, resp', hresp, hresp', htexts, huses,
    hstop.trans hstop'.symm⟩
  have hsystem := hagrees.system
  have htools := hagrees.tools
  have hparams := hagrees.params
  rw [hchain₁.asked _ _ h₁, hchain₂.asked _ _ h₂] at hsystem htools hparams
  rw [hchain₁.asked _ _ ha, hchain₂.asked _ _ hb]
  exact ⟨hsystem, Json.same_arr_iff.mpr hfront, htools, hparams⟩

/-- Agreement on a request is agreement on all that came before. -/
theorem Chained.all_before (hchain₁ : Chained inv₁ calls₁)
    (hchain₂ : Chained inv₂ calls₂)
    (hlength : ∀ (j : Nat) a b, calls₁[j]? = some a → calls₂[j]? = some b →
      a.request.messages.length = b.request.messages.length)
    (h₁ : calls₁[i]? = some next₁) (h₂ : calls₂[i]? = some next₂)
    (hagrees : next₁.request.Agrees next₂.request) :
    ∀ j < i, ∃ a b, calls₁[j]? = some a ∧ calls₂[j]? = some b
      ∧ a.AgreesAnswered b := by
  induction i generalizing next₁ next₂ with
  | zero =>
      intro j hj
      exact absurd hj (Nat.not_lt_zero j)
  | succ i ih =>
      obtain ⟨a, b, ha, hb, hab⟩ :=
        hchain₁.before hchain₂ hlength h₁ h₂ hagrees
      intro j hj
      by_cases hlast : j = i
      · subst hlast
        exact ⟨a, b, ha, hb, hab⟩
      · exact ih ha hb hab.request j (by omega)

end

-- ===================================================== the recorded hashes

/-- The hashes an `llm_call_end` event records: of the request, and of the
response to it. -/
def EventData.hashes : EventData → Option (String × String)
  | .llmCallEnd requestHash responseHash _ _ _ _ _ =>
      some (requestHash, responseHash)
  | _ => none

def Turn.hashes (t : Turn) : String × String :=
  (hashRequest (inv.request t.messages), hashResponse t.response)

theorem hashes_withoutLatency (data : EventData) :
    data.withoutLatency.hashes = data.hashes := by
  cases data <;> rfl

theorem hashes_ofTool (data : EventData) (h : data.ofTool = true) :
    data.hashes = none := by
  cases data <;> first | rfl | cases h

theorem turnsCalls_getElem? (k i : Nat) (turns : List Turn) :
    (turnsCalls inv k turns)[i]? = turns[i]?.map fun t =>
      ⟨k + i, inv.modelProvider, inv.modelName, inv.request t.messages,
        .ok t.response⟩ := by
  induction turns generalizing k i with
  | nil => rfl
  | cons t turns ih =>
      cases i with
      | zero => rfl
      | succ i =>
          rw [turnsCalls, List.getElem?_cons_succ, List.getElem?_cons_succ,
            ih, Nat.add_right_comm, Nat.add_assoc]

section

variable {world : ω} {clock : Clock}

/-- The `llm_call_end` events record the hashes of the turns, one by one. -/
theorem readOff_hashes
    (hlasts : clock.Lasts (lineCount ((transcriptOf inv world).script inv))) :
    readOff EventData.hashes (eventsOf inv world clock)
      = (transcriptOf inv world).turns.map (Turn.hashes inv) := by
  have hending : ∀ (ending : Ending) (k : Nat),
      ((ending.script inv k).flatMap Act.datas).filterMap EventData.hashes
        = [] := by
    intro ending k
    cases ending <;> rfl
  rw [readOff_turns inv (g := fun _ t => some (t.hashes inv)) hlasts
    hashes_withoutLatency hashes_ofTool (fun _ _ => rfl) rfl hending
    (fun _ => rfl), List.filterMap_eq_map']
  show ((transcriptOf inv world).turns.zipIdx 0).map
    (Turn.hashes inv ∘ Prod.fst) = _
  rw [← List.map_map, List.zipIdx_map_fst]

/-- An answered call is recorded under its hashes, in its place. -/
theorem readOff_hashes_getElem? {i : Nat} {call : LLMCall}
    {resp : LLMResponse}
    (hlasts : clock.Lasts (lineCount ((transcriptOf inv world).script inv)))
    (hcall : ((transcriptOf inv world).calls inv 0)[i]? = some call)
    (hresp : call.outcome = .ok resp) :
    (readOff EventData.hashes
      (eventsOf inv world clock))[i]?
      = some (hashRequest call.request, hashResponse resp) := by
  rw [readOff_hashes inv hlasts, List.getElem?_map]
  unfold Transcript.calls at hcall
  by_cases hi : i < (turnsCalls inv 0 (transcriptOf inv world).turns).length
  · rw [List.getElem?_append_left hi, turnsCalls_getElem?] at hcall
    obtain ⟨t, ht, hcall⟩ := Option.map_eq_some_iff.mp hcall
    subst hcall
    injection hresp with hresp
    rw [ht, ← hresp]
    rfl
  · rw [List.getElem?_append_right (by omega)] at hcall
    have hmem := List.mem_of_getElem? hcall
    cases hending : (transcriptOf inv world).ending with
    | stopped stopReason =>
        rw [hending] at hmem
        cases hmem
    | maxSteps =>
        rw [hending] at hmem
        cases hmem
    | crashed messages exc =>
        rw [hending] at hmem
        rw [List.mem_singleton.mp hmem] at hresp
        cases hresp

/-- Call `i` asks with a conversation of `i` exchanges. -/
theorem call_conversation {i : Nat} {call : LLMCall}
    (hcall : ((transcriptOf inv world).calls inv 0)[i]? = some call) :
    Conversation inv.spec.prompt i call.request.messages := by
  have hexchange := exchange_conversation inv inv.maxSteps.toNat 0 world
    (.opening : Conversation inv.spec.prompt 0 _)
  have hconversation := (hexchange.conversation i call hcall).2
  rwa [Nat.zero_add] at hconversation

end

-- ========================================================== the commitment

section

variable {ω₁ ω₂ : Type}

/-- Two requests of one hash, in whatever runs: they are at the same step,
the runs were given one prompt, and every call before was asked and
answered the same in both; so all the hashes recorded before agree. -/
theorem requestHash_commits {inv₁ : Invocation ω₁} {inv₂ : Invocation ω₂}
    {world₁ : ω₁} {world₂ : ω₂} {clock₁ clock₂ : Clock} {i₁ i₂ : Nat}
    {call₁ call₂ : LLMCall}
    (hlasts₁ : clock₁.Lasts
      (lineCount ((transcriptOf inv₁ world₁).script inv₁)))
    (hlasts₂ : clock₂.Lasts
      (lineCount ((transcriptOf inv₂ world₂).script inv₂)))
    (h₁ : (callsOf inv₁ world₁ clock₁)[i₁]?
      = some call₁)
    (h₂ : (callsOf inv₂ world₂ clock₂)[i₂]?
      = some call₂)
    (hhash : hashRequest call₁.request = hashRequest call₂.request)
    (hfree : Sha256.CollisionFree {canonicalJson call₁.request.payload,
      canonicalJson call₂.request.payload}) :
    i₁ = i₂ ∧ inv₁.spec.prompt = inv₂.spec.prompt
      ∧ (∀ j < i₁, ∃ a b,
          (callsOf inv₁ world₁ clock₁)[j]? = some a
          ∧ (callsOf inv₂ world₂ clock₂)[j]? = some b
          ∧ a.AgreesAnswered b)
      ∧ (readOff EventData.hashes
            (eventsOf inv₁ world₁ clock₁)).take i₁
          = (readOff EventData.hashes
            (eventsOf inv₂ world₂ clock₂)).take i₂ := by
  rw [callsOf_eq inv₁ hlasts₁, callsOf_eq inv₂ hlasts₂] at *
  have hagrees := (hashRequest_eq_iff hfree).mp hhash
  have hconv₁ := call_conversation inv₁ h₁
  have hconv₂ := call_conversation inv₂ h₂
  have hmessages := congrArg List.length
    (Json.same_arr_iff.mp hagrees.messages)
  simp only [List.length_map, hconv₁.length, hconv₂.length] at hmessages
  have hi : i₁ = i₂ := by omega
  subst hi
  have hbefore := (exchange_chained inv₁ inv₁.maxSteps.toNat 0 _
      world₁).all_before (exchange_chained inv₂ inv₂.maxSteps.toNat 0 _ world₂)
    (fun j a b ha hb => by
      rw [(call_conversation inv₁ ha).length, (call_conversation inv₂ hb).length])
    h₁ h₂ hagrees
  refine ⟨rfl, ?_, hbefore, ?_⟩
  · exact hconv₁.prompt_eq hconv₂ (Json.same_arr_iff.mp hagrees.messages)
  · apply List.ext_getElem?
    intro j
    by_cases hj : j < i₁
    · obtain ⟨a, b, ha, hb, hab⟩ := hbefore j hj
      obtain ⟨resp, resp', hresp, hresp', hanswers⟩ := hab.answers
      rw [List.getElem?_take_of_lt hj, List.getElem?_take_of_lt hj,
        readOff_hashes_getElem? inv₁ hlasts₁ ha hresp,
        readOff_hashes_getElem? inv₂ hlasts₂ hb hresp',
        hashRequest_of_agrees hab.request, hashResponse_of_agrees hanswers]
    · rw [List.getElem?_take_eq_none (by omega),
        List.getElem?_take_eq_none (by omega)]

/-- The request after the call of a tool there is none of. -/
def toldNoBash : Request where
  system := ""
  messages := [userPrompt "hi", buildAssistantMessage callsBash,
    toolResultsMessage [.toolResult "tu-1" (notAvailable "bash") true]]
  tools := []
  params := []

/-- The sample asks again with what it was told. -/
theorem toldNoBash_asked (model : String) :
    (callsOf (scriptedTask model [callsBash, saysDone]) 0 everyMs)[1]?
      = some ⟨1, "mock", model, toldNoBash, .ok saysDone⟩ := by
  have hlasts : everyMs.Lasts (lineCount ((transcriptOf
      (scriptedTask model [callsBash, saysDone]) 0).script
      (scriptedTask model [callsBash, saysDone]))) := Clock.lasts_system ..
  rw [callsOf_eq _ hlasts]
  rfl

/-- Runs of two models that call one tool each: at the second call the
requests have one hash. -/
theorem requestHash_commits_demo : ∃ a b,
    (callsOf (scriptedTask "claude-opus-4-7" [callsBash, saysDone]) 0
        everyMs)[0]? = some a
      ∧ (callsOf (scriptedTask "claude-haiku-4-5" [callsBash, saysDone]) 0
        everyMs)[0]? = some b
      ∧ a.AgreesAnswered b := by
  have hfree : ∀ m : List UInt8, Sha256.CollisionFree {m, m} := by
    intro m a ha b hb h
    rw [Set.pair_eq_singleton] at ha hb
    rw [ha, hb]
  obtain ⟨-, -, hbefore, -⟩ := requestHash_commits
    (show everyMs.Lasts _ from Clock.lasts_system ..)
    (show everyMs.Lasts _ from Clock.lasts_system ..)
    (toldNoBash_asked "claude-opus-4-7") (toldNoBash_asked "claude-haiku-4-5")
    rfl (hfree _)
  exact hbefore 0 (Nat.lt_succ_self 0)

end

end AgentAnvil.Sdk
