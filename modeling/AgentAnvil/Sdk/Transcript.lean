/-
Transcripts: what a run is about, without its events and its clock.

A transcript is the exchange between the loop, the client and the tools: a
turn for each response, with the tool calls it led to, and how the exchange
ended. It depends on the invocation and the world, and on no clock.
`Transcript.script` says what the run does to its event writer.

`execute_eq` is the bridge: under a clock that lasts for the script's
lines, `run` performs the script, and its calls, its world and its result
are the transcript's. It goes up through one lemma for each function of the
loop: `runOneTool_eq`, `runTools_eq`, `oneStep_ok` and `oneStep_error`,
`whileLoop_eq`.
-/
import AgentAnvil.Sdk.Script

namespace AgentAnvil.Sdk

variable {ω : Type}

-- ============================================================ tool calls

/-- A tool call that was asked for: of no tool, or carried out, with the
mutations it reported and the result it came to. -/
inductive ToolCall where
  | unavailable (use : ToolUse)
  | executed (use : ToolUse) (mutations : List FileMutation)
      (result : ToolResult)

def ToolCall.use : ToolCall → ToolUse
  | unavailable use => use
  | executed use _ _ => use

/-- What an exception makes of a call. -/
def raisedResult (name : String) (exc : Exc) : ToolResult where
  content := raisedText name exc
  exitCode := 1
  isError := true
  truncated := false

/-- The result a call of `_run` comes to. -/
def ToolRun.result (name : String) (ran : ToolRun ω) : ToolResult :=
  match ran.outcome with
  | .error exc => raisedResult name exc
  | .ok result => result.clamp

def toolCall (tools : List (Tool ω)) (tu : ToolUse) (world : ω) :
    ToolCall × ω :=
  match toolMap tools tu.name with
  | none => (.unavailable tu, world)
  | some tool =>
      let ran := tool.cls._run tool.timeoutSeconds tu.input world
      (.executed tu ran.mutations (ran.result tu.name), ran.world)

def toolCalls (tools : List (Tool ω)) : List ToolUse → ω → List ToolCall × ω
  | [], world => ([], world)
  | tu :: tus, world =>
      let first := toolCall tools tu world
      let rest := toolCalls tools tus first.2
      (first.1 :: rest.1, rest.2)

theorem toolCall_use (tools : List (Tool ω)) (tu : ToolUse) (world : ω) :
    (toolCall tools tu world).1.use = tu := by
  unfold toolCall
  cases toolMap tools tu.name with
  | none => rfl
  | some tool => rfl

/-- The calls of a step are of the tools the response asked for, in its
order. -/
theorem toolCalls_use (tools : List (Tool ω)) (tus : List ToolUse)
    (world : ω) : (toolCalls tools tus world).1.map ToolCall.use = tus := by
  induction tus generalizing world with
  | nil => rfl
  | cons tu tus ih =>
      rw [toolCalls, List.map_cons, ih, toolCall_use]

/-- The closing line of a call that was carried out. -/
def toolCallEnd (use : ToolUse) (result : ToolResult) : Measured :=
  .toolCallEnd use.id result.content result.truncated result.exitCode

namespace ToolCall

def startData (call : ToolCall) : EventData :=
  .toolCallStart call.use.name (.obj call.use.input) call.use.id

def script : ToolCall → List Act
  | unavailable use => [
      .line (startData (unavailable use)),
      .read,
      .line (.toolCallEnd use.id (notAvailable use.name) false 127 0)]
  | executed use mutations result => [
      .line (startData (executed use mutations result)),
      .timed (mutations.map FileMutation.data) (toolCallEnd use result)]

/-- The `tool_result` block the model is shown. -/
def block : ToolCall → Block
  | unavailable use => .toolResult use.id (notAvailable use.name) true
  | executed use _ result => .toolResult use.id result.content result.isError

end ToolCall

-- ================================================================= turns

/-- A response, the messages it answers and the tool calls it led to. -/
structure Turn where
  messages : List Message
  response : LLMResponse
  toolCalls : List ToolCall

inductive Ending where
  /-- after a response that calls no tools -/
  | stopped (stopReason : String)
  | maxSteps
  /-- the client raised on these messages -/
  | crashed (messages : List Message) (exc : Exc)

structure Transcript (ω : Type) where
  turns : List Turn
  ending : Ending
  /-- the messages at the end -/
  messages : List Message
  /-- the world at the end -/
  world : ω

variable (inv : Invocation ω)

/-- The messages after a turn that calls tools. -/
def Turn.answered (t : Turn) : List Message :=
  t.messages ++ [buildAssistantMessage t.response]
    ++ [toolResultsMessage (t.toolCalls.map ToolCall.block)]

/-- The exchange from these messages on. -/
def transcript : Nat → List Message → ω → Transcript ω
  | 0, messages, world => ⟨[], .maxSteps, messages, world⟩
  | remaining + 1, messages, world =>
      match inv.client.complete (inv.request messages) world with
      | (.error exc, world) => ⟨[], .crashed messages exc, messages, world⟩
      | (.ok resp, world) =>
          if resp.callsTools then
            let ran := toolCalls inv.tools resp.toolUses world
            let turn : Turn := ⟨messages, resp, ran.1⟩
            let rest := transcript remaining turn.answered ran.2
            { rest with turns := turn :: rest.turns }
          else
            ⟨[⟨messages, resp, []⟩], .stopped resp.stopReason,
              messages ++ [buildAssistantMessage resp], world⟩

/-- The exchange of a run. -/
def transcriptOf (world : ω) : Transcript ω :=
  transcript inv inv.maxSteps.toNat [userPrompt inv.spec.prompt] world

-- ============================================================ the script

def llmCallStart (messages : List Message) : EventData :=
  .llmCallStart inv.modelProvider inv.modelName
    (hashRequest (inv.request messages)) messages.length inv.params

def Turn.cost (t : Turn) : Rat :=
  computeCost inv.modelName t.response.inputTokens t.response.outputTokens

def llmCallEnd (t : Turn) : Measured :=
  .llmCallEnd (hashRequest (inv.request t.messages)) (hashResponse t.response)
    t.response.inputTokens t.response.outputTokens t.response.stopReason
    (roundTo 6 (t.cost inv))

def Turn.script (k : Nat) (t : Turn) : List Act :=
  [.setStep k, .line (.agentStepStart k), .line (llmCallStart inv t.messages),
    .timed [] (llmCallEnd inv t)]
    ++ t.toolCalls.flatMap ToolCall.script
    ++ [.line (.agentStepEnd k)]

/-- The turns in order, the first of them step `k`. -/
def turnsScript : Nat → List Turn → List Act
  | _, [] => []
  | k, t :: ts => t.script inv k ++ turnsScript (k + 1) ts

/-- The calls the turns answer. -/
def turnsCalls : Nat → List Turn → List LLMCall
  | _, [] => []
  | k, t :: ts =>
      ⟨k, inv.modelProvider, inv.modelName, inv.request t.messages,
        .ok t.response⟩ :: turnsCalls (k + 1) ts

namespace Ending

def calls (k : Nat) : Ending → List LLMCall
  | crashed messages exc =>
      [⟨k, inv.modelProvider, inv.modelName, inv.request messages,
        .error exc⟩]
  | stopped _ => []
  | maxSteps => []

def script (k : Nat) : Ending → List Act
  | crashed messages exc => [
      .setStep k, .line (.agentStepStart k),
      .line (llmCallStart inv messages), .read,
      .line (.agentError exc.type exc.message)]
  | stopped _ => []
  | maxSteps => []

def outcome : Ending → String
  | stopped stopReason => outcomeOf stopReason
  | maxSteps => "max_steps"
  | crashed _ _ => "failed"

end Ending

namespace Transcript

variable (tr : Transcript ω)

/-- The while loop's part of the script, from step `k`. -/
def body (k : Nat) : List Act :=
  turnsScript inv k tr.turns ++ tr.ending.script inv (k + tr.turns.length)

def inputTokens : Int := (tr.turns.map fun t => t.response.inputTokens).sum

def outputTokens : Int := (tr.turns.map fun t => t.response.outputTokens).sum

def cost : Rat := (tr.turns.map (Turn.cost inv)).sum

/-- The calls of the client, the first of them at step `k`. -/
def calls (k : Nat) : List LLMCall :=
  turnsCalls inv k tr.turns ++ tr.ending.calls inv (k + tr.turns.length)

def doneData : EventData :=
  .agentDone tr.ending.outcome tr.turns.length (roundTo 6 (tr.cost inv))
    tr.inputTokens tr.outputTokens (roundTo 3 (inv.wallEnd - inv.wallStart))

def startData : EventData :=
  .agentStart inv.taskId inv.spec.prompt inv.modelProvider inv.modelName
    (inv.toolSchemas.map ToolSchema.name) inv.maxSteps

def script : List Act :=
  [.setStep 0, .line (startData inv)] ++ tr.body inv 0
    ++ [.line (tr.doneData inv)]

/-- The variables of `run` after the exchange. -/
def after (s : Frame ω) : Frame ω where
  runtime :=
    { events := perform (tr.body inv s.step) s.runtime.events
      world := tr.world }
  messages := tr.messages
  totalInputTokens := s.totalInputTokens + tr.inputTokens
  totalOutputTokens := s.totalOutputTokens + tr.outputTokens
  totalCost := s.totalCost + tr.cost inv
  step := s.step + tr.turns.length
  unhashable := s.unhashable
  calls := s.calls ++ tr.calls inv s.step

end Transcript

-- ========================================================== one tool call

/-- A tool call performs its script, and its block is what the model is shown.
-/
theorem runOneTool_eq (tools : List (Tool ω)) (tu : ToolUse) (rt : Runtime ω)
    (h : rt.events.Lasts
      (lineCount (toolCall tools tu rt.world).1.script)) :
    runOneTool tools tu rt = (.ok (toolCall tools tu rt.world).1.block, {
      events := perform (toolCall tools tu rt.world).1.script rt.events
      world := (toolCall tools tu rt.world).2 }) := by
  unfold runOneTool
  unfold toolCall at h ⊢
  cases htool : toolMap tools tu.name with
  | none =>
      rw [htool] at h
      have h2 : rt.events.Lasts 2 := h
      have hread := h2.emitted (.toolCallStart tu.name (.obj tu.input) tu.id)
      rw [Py.bind_ok (Runtime.emit_eq (h2.mono (by omega)) _),
        Py.bind_ok (Runtime.monotonicNs_eq hread.clock)]
      exact Py.bind_ok (Runtime.emit_eq hread.afterRead _)
  | some tool =>
      rw [htool] at h
      cases hran : tool.cls._run tool.timeoutSeconds tu.input rt.world with
      | mk mutations outcome world =>
          simp only [hran] at h ⊢
          have hlast : rt.events.Lasts (mutations.length + 1 + 1) :=
            h.mono (by
              simp only [ToolCall.script, lineCount_cons, lineCount_nil,
                Act.lineCount, List.length_map]
              omega)
          have hread := hlast.emitted
            (.toolCallStart tu.name (.obj tu.input) tu.id)
          have hrun := hread.afterRead
          have hstop : (((rt.events.emitted (.toolCallStart tu.name
              (.obj tu.input) tu.id)).afterRead).emittedAll
              (mutations.map FileMutation.data)).Lasts 1 :=
            EventWriter.Lasts.emittedAll (by rwa [List.length_map])
          rw [Py.bind_ok (Runtime.emit_eq (hlast.mono (by omega)) _),
            Py.bind_ok (Runtime.monotonicNs_eq (hread.mono (by omega)).clock)]
          have hcall : tool.run tu.input
              { events := (rt.events.emitted (.toolCallStart tu.name
                  (.obj tu.input) tu.id)).afterRead
                world := rt.world }
              = _ := Tool.run_eq tool tu.input hran (hrun.mono (by simp))
          have htry := Py.attempt_eq hcall
          show (Py.attempt (tool.run tu.input) >>= _) _ = _
          rw [Py.bind_ok htry]
          cases outcome with
          | error exc =>
              rw [show (Except.error exc : Except Exc ToolResult).map
                ToolResult.clamp = .error exc from rfl]
              show (Runtime.monotonicNs >>= _) _ = _
              rw [Py.bind_ok (Runtime.monotonicNs_eq hstop.clock)]
              exact Py.bind_ok (Runtime.emit_eq hstop.afterRead _)
          | ok result =>
              rw [show (Except.ok result : Except Exc ToolResult).map
                ToolResult.clamp = .ok result.clamp from rfl]
              show (Runtime.monotonicNs >>= _) _ = _
              rw [Py.bind_ok (Runtime.monotonicNs_eq hstop.clock)]
              exact Py.bind_ok (Runtime.emit_eq hstop.afterRead _)

/-- The tool calls of a step, by induction on the tool uses: each starts in
the world the one before it left. -/
theorem runTools_eq (tools : List (Tool ω)) (tus : List ToolUse)
    (rt : Runtime ω)
    (h : rt.events.Lasts (lineCount
      ((toolCalls tools tus rt.world).1.flatMap ToolCall.script))) :
    runTools tools tus rt
      = (.ok ((toolCalls tools tus rt.world).1.map ToolCall.block), {
        events := perform
          ((toolCalls tools tus rt.world).1.flatMap ToolCall.script) rt.events
        world := (toolCalls tools tus rt.world).2 }) := by
  induction tus generalizing rt with
  | nil => rfl
  | cons tu tus ih =>
      simp only [toolCalls, List.flatMap_cons, lineCount_append] at h
      have hfirst := runOneTool_eq tools tu rt (h.mono (by omega))
      have hrest := ih
        { events := perform (toolCall tools tu rt.world).1.script rt.events
          world := (toolCall tools tu rt.world).2 } h.perform
      unfold runTools
      rw [Py.bind_ok hfirst, Py.bind_ok hrest]
      simp only [toolCalls, List.flatMap_cons, List.map_cons, perform_append,
        Py.pure_apply]

-- ============================================================== one step

/-- The variables after a call of the client. -/
def Frame.called (s : Frame ω) (request : Request)
    (outcome : Except Exc LLMResponse) (world : ω) : Frame ω :=
  { s with
    runtime := { s.runtime with world }
    calls := s.calls
      ++ [⟨s.step, inv.modelProvider, inv.modelName, request, outcome⟩] }

theorem complete_eq {s : Frame ω} {request : Request}
    {outcome : Except Exc LLMResponse} {world : ω}
    (hcall : inv.client.complete request s.runtime.world = (outcome, world)) :
    complete inv request s
      = (outcome, s.called inv request outcome world) := by
  unfold complete Frame.called
  rw [hcall]

/-- The variables when the client is called. -/
def Frame.calling (s : Frame ω) : Frame ω :=
  (s.did (.line (llmCallStart inv s.messages))).did .read

/-- A call that raises writes `llm_call_start` and nothing after it. -/
theorem callModel_error {s : Frame ω} {exc : Exc} {world : ω}
    (hcall : inv.client.complete (inv.request s.messages) s.runtime.world
      = (.error exc, world))
    (h : s.Lasts 2) :
    callModel inv s = (.error exc, (s.calling inv).called inv
      (inv.request s.messages) (.error exc) world) := by
  unfold callModel
  rw [Py.bind_ok (Py.get_apply s)]
  rw [Py.bind_ok (Frame.emit_eq (h.mono (by omega)) _),
    Py.bind_ok (Frame.monotonicNs_eq (h.line _))]
  exact Py.bind_error (complete_eq inv (s := s.calling inv) hcall)

/-- The variables after a response. -/
def Frame.responded (s : Frame ω) (resp : LLMResponse) (world : ω) :
    Frame ω where
  runtime :=
    { events := perform
        [.line (llmCallStart inv s.messages),
          .timed [] (llmCallEnd inv ⟨s.messages, resp, []⟩)]
        s.runtime.events
      world }
  messages := s.messages ++ [buildAssistantMessage resp]
  totalInputTokens := s.totalInputTokens + resp.inputTokens
  totalOutputTokens := s.totalOutputTokens + resp.outputTokens
  totalCost := s.totalCost
    + computeCost inv.modelName resp.inputTokens resp.outputTokens
  step := s.step
  unhashable := s.unhashable
  calls := s.calls ++ [⟨s.step, inv.modelProvider, inv.modelName,
    inv.request s.messages, .ok resp⟩]

/-- A call that is answered writes both events of the model call, counts the
tokens and appends the assistant's message. -/
theorem callModel_ok {s : Frame ω} {resp : LLMResponse} {world : ω}
    (hcall : inv.client.complete (inv.request s.messages) s.runtime.world
      = (.ok resp, world))
    (h : s.Lasts 2) :
    callModel inv s = (.ok resp, s.responded inv resp world) := by
  have hstop : ((s.calling inv).called inv (inv.request s.messages)
      (.ok resp) world).Lasts 1 :=
    Frame.Lasts.performed [.line (llmCallStart inv s.messages), .read] h rfl
      rfl
  have hcount : (Frame.count resp
      (computeCost inv.modelName resp.inputTokens resp.outputTokens)
      (((s.calling inv).called inv (inv.request s.messages) (.ok resp)
        world).did .read)).Lasts 1 :=
    ⟨hstop.read.events, hstop.hashes⟩
  unfold callModel
  rw [Py.bind_ok (Py.get_apply s)]
  rw [Py.bind_ok (Frame.emit_eq (h.mono (by omega)) _),
    Py.bind_ok (Frame.monotonicNs_eq (h.line _))]
  refine (Py.bind_ok (complete_eq inv (s := s.calling inv) hcall)).trans ?_
  rw [Py.bind_ok (Frame.monotonicNs_eq hstop)]
  rw [Py.bind_ok (Py.modify_apply _ _),
    Py.bind_ok (Frame.hashed_eq (hcount.mono (Nat.zero_le 1)) resp)]
  exact (Py.bind_ok (Frame.emit_eq hcount _)).trans rfl

/-- A step whose client call raises ends there. -/
theorem oneStep_error {s : Frame ω} {exc : Exc} {world : ω}
    (hcall : inv.client.complete (inv.request s.messages) s.runtime.world
      = (.error exc, world))
    (h : s.Lasts 3) :
    oneStep inv s = (.error exc,
      ((((s.did (.setStep s.step)).did (.line (.agentStepStart s.step))).calling
        inv).called inv (inv.request s.messages) (.error exc) world)) := by
  have hstep := h.setStep s.step
  unfold oneStep
  rw [Py.bind_ok (Py.get_apply s), Py.bind_ok (Frame.setStep_eq s.step),
    Py.bind_ok (Frame.emit_eq (hstep.mono (by omega)) _)]
  exact Py.bind_error (callModel_error inv hcall (hstep.line _))

/-- The variables after the tool calls of a step. -/
def Frame.answered (s : Frame ω) (calls : List ToolCall) (world : ω) :
    Frame ω :=
  { s with
    runtime :=
      { events := perform (calls.flatMap ToolCall.script) s.runtime.events
        world }
    messages :=
      s.messages ++ [toolResultsMessage (calls.map ToolCall.block)] }

/-- The variables after a turn. -/
def Frame.turned (s : Frame ω) (t : Turn) (messages : List Message)
    (world : ω) : Frame ω where
  runtime :=
    { events := perform (t.script inv s.step) s.runtime.events
      world }
  messages := messages
  totalInputTokens := s.totalInputTokens + t.response.inputTokens
  totalOutputTokens := s.totalOutputTokens + t.response.outputTokens
  totalCost := s.totalCost + t.cost inv
  step := s.step + 1
  unhashable := s.unhashable
  calls := s.calls ++ [⟨s.step, inv.modelProvider, inv.modelName,
    inv.request s.messages, .ok t.response⟩]

/-- A step whose response calls no tools. -/
theorem oneStep_stops {s : Frame ω} {resp : LLMResponse} {world : ω}
    (hcall : inv.client.complete (inv.request s.messages) s.runtime.world
      = (.ok resp, world))
    (hstop : ¬ resp.callsTools) (h : s.Lasts 4) :
    oneStep inv s = (.ok (some (outcomeOf resp.stopReason)),
      s.turned inv ⟨s.messages, resp, []⟩
        (s.messages ++ [buildAssistantMessage resp]) world) := by
  have hstep := h.setStep s.step
  have hend : ((((s.did (.setStep s.step)).did
      (.line (.agentStepStart s.step)))).responded inv resp world).Lasts 1 :=
    Frame.Lasts.performed [.line (llmCallStart inv s.messages),
      .timed [] (llmCallEnd inv ⟨s.messages, resp, []⟩)]
      (hstep.line (.agentStepStart s.step)) rfl rfl
  unfold oneStep
  rw [Py.bind_ok (Py.get_apply s), Py.bind_ok (Frame.setStep_eq s.step),
    Py.bind_ok (Frame.emit_eq (hstep.mono (by omega)) _)]
  refine (Py.bind_ok (callModel_ok inv
    (s := (s.did (.setStep s.step)).did (.line (.agentStepStart s.step)))
    hcall ((hstep.line _).mono (by omega)))).trans ?_
  rw [if_neg hstop]
  exact (Py.bind_ok (Frame.emit_eq hend _)).trans rfl

/-- A step whose response calls tools. -/
theorem oneStep_continues {s : Frame ω} {resp : LLMResponse} {world : ω}
    {t : Turn}
    (hcall : inv.client.complete (inv.request s.messages) s.runtime.world
      = (.ok resp, world))
    (htools : resp.callsTools)
    (ht : t = ⟨s.messages, resp, (toolCalls inv.tools resp.toolUses world).1⟩)
    (h : s.Lasts (lineCount (t.script inv s.step))) :
    oneStep inv s = (.ok none, s.turned inv t t.answered
      (toolCalls inv.tools resp.toolUses world).2) := by
  subst ht
  have hlast : s.Lasts (lineCount ((toolCalls inv.tools resp.toolUses
      world).1.flatMap ToolCall.script) + 1 + 3) :=
    h.mono (by
      simp only [Turn.script, lineCount_append, lineCount_cons, lineCount_nil,
        Act.lineCount, List.length_nil]
      omega)
  have hstep := hlast.setStep s.step
  have hresp : ((((s.did (.setStep s.step)).did
      (.line (.agentStepStart s.step)))).responded inv resp world).Lasts
      (lineCount ((toolCalls inv.tools resp.toolUses world).1.flatMap
        ToolCall.script) + 1) :=
    Frame.Lasts.performed [.line (llmCallStart inv s.messages),
        .timed [] (llmCallEnd inv ⟨s.messages, resp, []⟩)]
      ((hstep.line (.agentStepStart s.step)).mono (by
        simp only [lineCount_cons, lineCount_nil, Act.lineCount,
          List.length_nil]
        omega)) rfl rfl
  have hend : (Frame.answered (((s.did (.setStep s.step)).did
      (.line (.agentStepStart s.step))).responded inv resp world)
      (toolCalls inv.tools resp.toolUses world).1
      (toolCalls inv.tools resp.toolUses world).2).Lasts 1 :=
    hresp.performed _ rfl rfl
  have hrun := runTools_eq inv.tools resp.toolUses
    (((s.did (.setStep s.step)).did
      (.line (.agentStepStart s.step))).responded inv resp world).runtime
    (hresp.mono (Nat.le_succ _)).events
  unfold oneStep
  rw [Py.bind_ok (Py.get_apply s), Py.bind_ok (Frame.setStep_eq s.step),
    Py.bind_ok (Frame.emit_eq (hstep.mono (by omega)) _)]
  refine (Py.bind_ok (callModel_ok inv
    (s := (s.did (.setStep s.step)).did (.line (.agentStepStart s.step)))
    hcall ((hstep.line _).mono (by omega)))).trans ?_
  rw [if_pos htools]
  refine (Py.bind_ok (Py.zoom_eq hrun)).trans ?_
  refine (Py.bind_ok (Py.modify_apply _ _)).trans ?_
  refine (Py.bind_ok (Frame.emit_eq hend _)).trans ?_
  unfold Frame.turned
  rw [Turn.script, perform_append, perform_append]
  rfl

-- ============================================================== the loop

/-- An exchange is its first turn, and then the rest from the next step
on. -/
theorem Transcript.body_cons (t : Turn) (tr : Transcript ω) (k : Nat) :
    ({ tr with turns := t :: tr.turns } : Transcript ω).body inv k
      = t.script inv k ++ tr.body inv (k + 1) := by
  have hsteps : k + (tr.turns.length + 1) = k + 1 + tr.turns.length := by
    omega
  simp only [Transcript.body, turnsScript, List.length_cons,
    List.append_assoc, hsteps]

theorem Transcript.calls_cons (t : Turn) (tr : Transcript ω) (k : Nat) :
    ({ tr with turns := t :: tr.turns } : Transcript ω).calls inv k
      = ⟨k, inv.modelProvider, inv.modelName, inv.request t.messages,
          .ok t.response⟩ :: tr.calls inv (k + 1) := by
  have hsteps : k + (tr.turns.length + 1) = k + 1 + tr.turns.length := by
    omega
  simp only [Transcript.calls, turnsCalls, List.length_cons,
    List.cons_append, hsteps]

/-- The variables after an exchange: those after its first turn, and then
after the rest. -/
theorem Transcript.after_cons {t : Turn} {s : Frame ω}
    (ht : t.messages = s.messages) (tr : Transcript ω)
    (messages : List Message) (world : ω) :
    ({ tr with turns := t :: tr.turns } : Transcript ω).after inv s
      = tr.after inv (s.turned inv t messages world) := by
  have hsteps : s.step + (tr.turns.length + 1)
      = s.step + 1 + tr.turns.length := by omega
  simp only [Transcript.after, Frame.turned, Transcript.body_cons,
    perform_append, Transcript.inputTokens, Transcript.outputTokens,
    Transcript.cost, Transcript.calls_cons, List.map_cons, List.sum_cons,
    List.length_cons, List.cons_append, List.append_assoc, List.nil_append,
    add_assoc, hsteps, ht]

/-- An exchange that ends at once in a crash. -/
theorem Transcript.after_crashed (s : Frame ω) (exc : Exc) (world : ω) :
    (⟨[], .crashed s.messages exc, s.messages, world⟩ :
        Transcript ω).after inv s
      = ((((s.did (.setStep s.step)).did
          (.line (.agentStepStart s.step))).calling inv).called inv
          (inv.request s.messages) (.error exc) world).did
          (.line (.agentError exc.type exc.message)) := by
  simp only [Transcript.after, Transcript.inputTokens,
    Transcript.outputTokens, Transcript.cost, List.map_nil, List.sum_nil,
    add_zero]
  rfl

theorem Transcript.after_stopped (s : Frame ω) (resp : LLMResponse)
    (messages : List Message) (world : ω) :
    (⟨[⟨s.messages, resp, []⟩], .stopped resp.stopReason, messages, world⟩ :
        Transcript ω).after inv s
      = s.turned inv ⟨s.messages, resp, []⟩ messages world := by
  simp only [Transcript.after, Transcript.inputTokens,
    Transcript.outputTokens, Transcript.cost, List.map_cons, List.map_nil,
    List.sum_cons, List.sum_nil, add_zero]
  rfl

/-- The while loop in its try block performs the exchange's part of the
script. -/
theorem whileLoop_eq (remaining : Nat) (s : Frame ω)
    {tr : Transcript ω}
    (htr : transcript inv remaining s.messages s.runtime.world = tr)
    (h : s.Lasts (lineCount (tr.body inv s.step) + 1)) :
    Py.tryExcept (whileLoop inv remaining) agentError s
      = (.ok tr.ending.outcome, tr.after inv s) := by
  induction remaining generalizing s tr with
  | zero =>
      subst htr
      unfold whileLoop
      rw [Py.tryExcept_ok (Py.pure_apply _ _)]
      simp [transcript, Transcript.after, Transcript.body,
        Transcript.inputTokens, Transcript.outputTokens, Transcript.cost,
        Transcript.calls, turnsScript, turnsCalls, Ending.script,
        Ending.calls, Ending.outcome]
  | succ remaining ih =>
      unfold whileLoop
      rw [transcript] at htr
      rcases hcall : inv.client.complete (inv.request s.messages)
        s.runtime.world with ⟨answer, world⟩
      rw [hcall] at htr
      cases answer with
      | error exc =>
          subst htr
          have hfour : s.Lasts 4 := h.mono (by
            simp [Transcript.body, turnsScript, Ending.script, Act.lineCount])
          have hend : ((((s.did (.setStep s.step)).did
              (.line (.agentStepStart s.step))).calling inv).called inv
              (inv.request s.messages) (.error exc) world).Lasts 2 :=
            Frame.Lasts.performed [.setStep s.step,
              .line (.agentStepStart s.step),
              .line (llmCallStart inv s.messages), .read] hfour rfl rfl
          rw [Py.tryExcept_bind_error
            (oneStep_error inv hcall (hfour.mono (by omega)))]
          unfold agentError
          rw [Py.bind_ok (Frame.emit_eq (hend.mono (by omega)) _),
            Transcript.after_crashed]
          rfl
      | ok resp =>
          by_cases htools : resp.callsTools
          · simp only [htools, if_true] at htr
            subst htr
            rw [Transcript.body_cons, lineCount_append, Nat.add_assoc] at h
            rw [Py.tryExcept_bind_ok (oneStep_continues inv hcall htools rfl
              (h.mono (Nat.le_add_right ..)))]
            have hnext : (s.turned inv
                ⟨s.messages, resp,
                  (toolCalls inv.tools resp.toolUses world).1⟩
                (Turn.answered ⟨s.messages, resp,
                  (toolCalls inv.tools resp.toolUses world).1⟩)
                (toolCalls inv.tools resp.toolUses world).2).Lasts _ :=
              h.performed _ rfl rfl
            refine (ih _ rfl hnext).trans ?_
            rw [Transcript.after_cons inv rfl]
            rfl
          · simp only [htools, if_false] at htr
            subst htr
            have hfour : s.Lasts 4 := h.mono (by
              simp [Transcript.body, turnsScript, Turn.script, Ending.script,
                Act.lineCount])
            rw [Py.tryExcept_bind_ok (oneStep_stops inv hcall htools hfour),
              Py.tryExcept_ok (Py.pure_apply _ _),
              Transcript.after_stopped]
            rfl

-- =============================================================== the run

/-- Under a clock that lasts for its script, a run goes through its
transcript. -/
theorem execute_eq {world : ω} {clock : Clock} {tr : Transcript ω}
    (htr : transcriptOf inv world = tr)
    (h : clock.Lasts (lineCount (tr.script inv))) :
    execute inv world clock = (.ok (tr.doneData inv),
      (tr.after inv (((Frame.start inv world clock).did (.setStep 0)).did
        (.line (Transcript.startData inv)))).did
        (.line (tr.doneData inv))) := by
  have hlast : (Frame.start inv world clock).Lasts
      (lineCount (tr.body inv 0) + 1 + 1) := by
    refine ⟨.new (Clock.Lasts.mono h ?_) inv.taskId, fun _ => rfl⟩
    simp only [Transcript.script, lineCount_append, lineCount_cons,
      lineCount_nil, Act.lineCount]
    omega
  have hbody := (hlast.setStep 0).line (Transcript.startData inv)
  have hend : (tr.after inv (((Frame.start inv world clock).did
      (.setStep 0)).did (.line (Transcript.startData inv)))).Lasts 1 :=
    hbody.performed _ rfl rfl
  unfold execute run
  rw [Py.bind_ok (Frame.setStep_eq 0)]
  refine (Py.bind_ok (Frame.emit_eq
    ((hlast.setStep 0).mono (by omega)) _)).trans ?_
  refine (Py.bind_ok (whileLoop_eq inv inv.maxSteps.toNat
    (((Frame.start inv world clock).did (.setStep 0)).did
      (.line (Transcript.startData inv))) htr hbody)).trans ?_
  have hdone : doneData inv (tr.after inv (((Frame.start inv world clock).did
      (.setStep 0)).did (.line (Transcript.startData inv))))
      tr.ending.outcome = tr.doneData inv := by
    simp only [doneData, Transcript.doneData, Transcript.after, Frame.did,
      Frame.start, Frame.into, zero_add]
  rw [Py.bind_ok (Py.get_apply _), hdone]
  exact Py.bind_ok (Frame.emit_eq hend _)

section

variable {world : ω} {clock : Clock}

/-- Under a clock that lasts for its script a run returns. -/
theorem execute_returns
    (h : clock.Lasts (lineCount ((transcriptOf inv world).script inv))) :
    (execute inv world clock).1
      = .ok ((transcriptOf inv world).doneData inv) := by
  rw [execute_eq inv rfl h]

/-- Its events are the lines of its script. -/
theorem eventsOf_eq
    (h : clock.Lasts (lineCount ((transcriptOf inv world).script inv))) :
    eventsOf inv world clock
      = (perform ((transcriptOf inv world).script inv)
          (EventWriter.new inv.taskId clock)).lines := by
  unfold eventsOf
  rw [execute_eq inv rfl h, Transcript.script, perform_append, perform_append]
  rfl

theorem callsOf_eq
    (h : clock.Lasts (lineCount ((transcriptOf inv world).script inv))) :
    callsOf inv world clock = (transcriptOf inv world).calls inv 0 := by
  unfold callsOf
  rw [execute_eq inv rfl h]
  rfl

/-- What is read off the events, and does not read a latency, is read off
the script. -/
theorem filterMap_eventsOf {β : Type} {f : EventData → Option β}
    (hf : ∀ data, f data.withoutLatency = f data)
    (h : clock.Lasts (lineCount ((transcriptOf inv world).script inv))) :
    (eventsOf inv world clock).filterMap (fun e => f e.data)
      = (((transcriptOf inv world).script inv).flatMap Act.datas).filterMap
          f := by
  rw [eventsOf_eq inv h, perform_lines]
  show (newLines _ _).filterMap (fun e => f e.data) = _
  rw [← newLines_datas, List.filterMap_map]
  congr 1
  funext e
  exact (hf e.data).symm

end

theorem turnsCalls_ok (k : Nat) (ts : List Turn) :
    ∀ call ∈ turnsCalls inv k ts, ∃ resp, call.outcome = .ok resp := by
  induction ts generalizing k with
  | nil =>
      intro call hcall
      cases hcall
  | cons t ts ih =>
      intro call hcall
      rcases List.mem_cons.mp hcall with rfl | hcall
      · exact ⟨t.response, rfl⟩
      · exact ih (k + 1) call hcall

/-- What is read off a script, if nothing is read off the events around the
steps: what each step gives, and what the ending gives. -/
theorem Transcript.filterMap_datas {β : Type} {f : EventData → Option β}
    (tr : Transcript ω)
    (hstart : f (startData inv).withoutLatency = none)
    (hdone : f (tr.doneData inv).withoutLatency = none) :
    ((tr.script inv).flatMap Act.datas).filterMap f
      = ((turnsScript inv 0 tr.turns).flatMap Act.datas).filterMap f
        ++ ((tr.ending.script inv tr.turns.length).flatMap
            Act.datas).filterMap f := by
  simp only [script, body, List.flatMap_append, List.filterMap_append,
    Nat.zero_add, List.flatMap_cons, List.flatMap_nil, Act.datas,
    List.nil_append, List.append_nil, List.filterMap_cons, hstart, hdone,
    List.filterMap_nil]

end AgentAnvil.Sdk
