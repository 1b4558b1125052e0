/-
The agent loop (`loop.py`).

`run` is the source's `run`: its local variables are the fields of a
`Frame`, next to the runtime they belong to, so that what was assigned
before an exception is still there in the except branch. The while loop
recurses on `max_steps - step`. `calls` is a ghost: the calls of
`client.complete` that were made, with their outcomes.

Logging is left out. `time.time()` is read twice; the two readings are
arguments of a run. A response may hold values that `json.dumps` does not
take, which no `Json` is: which responses those are is `unhashable`. A run
is under any event writer (`executeInto`), or under one that takes every
event (`execute`).
-/
import AgentAnvil.Sdk.Pricing
import AgentAnvil.Sdk.Tools
import Mathlib

namespace AgentAnvil.Sdk

def DEFAULT_MAX_STEPS : Int := 25

-- ================================================================ hashes

def canonicalJson (a : Json) : List UInt8 := a.dumps

/-- The payload `hashRequest` hashes. -/
def Request.payload (request : Request) : Json :=
  .obj [
    ("system", .str request.system),
    ("messages", .arr (request.messages.map Message.toJson)),
    ("tools", .arr (request.tools.map ToolSchema.toJson)),
    ("params", .obj (request.params.map fun kv => (kv.1, .str kv.2)))]

def sha256Text (bytes : List UInt8) : String :=
  "sha256:" ++ Sha256.hexdigest (Sha256.sum256 bytes)

def hashRequest (request : Request) : String :=
  sha256Text (canonicalJson request.payload)

def hashResponse (resp : LLMResponse) : String :=
  sha256Text (canonicalJson (.obj [
    ("text_blocks", .arr (resp.textBlocks.map .str)),
    ("tool_uses", .arr (resp.toolUses.map fun t =>
      .obj [("id", .str t.id), ("name", .str t.name),
        ("input", .obj t.input)])),
    ("stop_reason", .str resp.stopReason)]))

-- ============================================================== messages

def buildAssistantMessage (resp : LLMResponse) : Message where
  role := .assistant
  content :=
    .blocks (resp.textBlocks.map .text ++ resp.toolUses.map .toolUse)

def userPrompt (prompt : String) : Message where
  role := .user
  content := .text prompt

def toolResultsMessage (toolResults : List Block) : Message where
  role := .user
  content := .blocks toolResults

-- ============================================================ a tool call

/-- Whole milliseconds between two readings, and never less than none. -/
def elapsedMs (start stop : Int) : Int := max ((stop - start) / 1000000) 0

def notAvailable (name : String) : String := "Tool not available: " ++ name

def raisedText (name : String) (exc : Exc) : String :=
  "Tool " ++ name ++ " raised " ++ exc.type ++ ": " ++ exc.message

variable {ω : Type}

/-- `_run_one_tool`: the `tool_result` block of one `tool_use` block. -/
def runOneTool (tools : List (Tool ω)) (tu : ToolUse) :
    Py (Runtime ω) Block := do
  Runtime.emit (.toolCallStart tu.name (.obj tu.input) tu.id)
  let t0 ← Runtime.monotonicNs
  match toolMap tools tu.name with
  | none => do
      Runtime.emit (.toolCallEnd tu.id (notAvailable tu.name) false 127 0)
      return .toolResult tu.id (notAvailable tu.name) true
  | some tool => do
      match ← Py.attempt (tool.run tu.input) with
      | .error exc => do
          let t1 ← Runtime.monotonicNs
          Runtime.emit (.toolCallEnd tu.id (raisedText tu.name exc) false 1
            (elapsedMs t0 t1))
          return .toolResult tu.id (raisedText tu.name exc) true
      | .ok result => do
          let t1 ← Runtime.monotonicNs
          Runtime.emit (.toolCallEnd tu.id result.content result.truncated
            result.exitCode (elapsedMs t0 t1))
          return .toolResult tu.id result.content result.isError

/-- `[_run_one_tool(tu, ...) for tu in resp.tool_uses]`, as the for loop
builds it. -/
def runTools (tools : List (Tool ω)) :
    List ToolUse → Py (Runtime ω) (List Block)
  | [] => return []
  | tu :: tus => do
      let block ← runOneTool tools tu
      let blocks ← runTools tools tus
      return block :: blocks

-- ================================================================ the run

/-- What `run` is given and only reads: the task, the runtime's task id and
client, the tool registry, and the two readings of `time.time()`. -/
structure Invocation (ω : Type) where
  spec : AgentTaskSpec
  taskId : String
  registry : List (ToolClass ω)
  client : LLMClient ω
  wallStart : Rat
  wallEnd : Rat

/-- One call of `client.complete`: at which step and on behalf of which
model, what it was asked and what came of it. -/
structure LLMCall where
  step : Nat
  provider : String
  model : String
  request : Request
  outcome : Except Exc LLMResponse

namespace Invocation

variable (inv : Invocation ω)

def tools : List (Tool ω) := buildTools inv.registry inv.spec.tools

def toolSchemas : List ToolSchema := inv.tools.map Tool.schema

def modelProvider : String :=
  match inv.spec.model with
  | some model => model.provider
  | none => ""

def modelName : String :=
  match inv.spec.model with
  | some model => model.name
  | none => ""

def params : List (String × String) :=
  match inv.spec.model with
  | some model => model.params
  | none => []

def maxSteps : Int := inv.spec.maxSteps.getD DEFAULT_MAX_STEPS

/-- The arguments of `complete` on these messages. -/
def request (messages : List Message) : Request where
  system := inv.spec.systemPrompt
  messages := messages
  tools := inv.toolSchemas
  params := inv.params

end Invocation

/-- The variables of `run`. -/
structure Frame (ω : Type) where
  runtime : Runtime ω
  messages : List Message
  totalInputTokens : Int
  totalOutputTokens : Int
  totalCost : Rat
  step : Nat
  /-- what `json.dumps` raises of a response -/
  unhashable : LLMResponse → Option Exc
  /-- ghost: the calls made so far -/
  calls : List LLMCall

namespace Frame

variable {α : Type}

def onRuntime (m : Py (Runtime ω) α) : Py (Frame ω) α :=
  Py.zoom Frame.runtime (fun runtime s => { s with runtime }) m

def emit (data : EventData) : Py (Frame ω) Unit :=
  onRuntime (Runtime.emit data)

def setStep (step : Nat) : Py (Frame ω) Unit :=
  onRuntime (Runtime.onEvents (EventWriter.setStep step))

/-- The totals with this response's. -/
def count (resp : LLMResponse) (cost : Rat) (s : Frame ω) : Frame ω :=
  { s with
    totalInputTokens := s.totalInputTokens + resp.inputTokens
    totalOutputTokens := s.totalOutputTokens + resp.outputTokens
    totalCost := s.totalCost + cost }

def append (message : Message) : Py (Frame ω) Unit :=
  Py.modify fun s => { s with messages := s.messages ++ [message] }

/-- `_hash_response(resp)`. -/
def hashed (resp : LLMResponse) : Py (Frame ω) String := fun s =>
  match s.unhashable resp with
  | some exc => (.error exc, s)
  | none => (.ok (hashResponse resp), s)

end Frame

/-- `resp.stop_reason == "tool_use" and resp.tool_uses`. -/
def LLMResponse.callsTools (resp : LLMResponse) : Prop :=
  resp.stopReason = "tool_use" ∧ resp.toolUses.isEmpty = false

instance (resp : LLMResponse) : Decidable resp.callsTools :=
  instDecidableAnd

/-- Every branch of the loop's end that sets `outcome` from the stop
reason. -/
def outcomeOf (stopReason : String) : String :=
  if stopReason = "end_turn" then "completed"
  else if stopReason = "max_tokens" then "failed"
  else if stopReason = "error" then "failed"
  else "completed"

variable (inv : Invocation ω)

/-- `runtime.client.complete(...)`, remembered in `calls`. -/
def complete (request : Request) : Py (Frame ω) LLMResponse := fun s =>
  let answer := inv.client.complete request s.runtime.world
  (answer.1, { s with
    runtime := { s.runtime with world := answer.2 }
    calls := s.calls
      ++ [⟨s.step, inv.modelProvider, inv.modelName, request, answer.1⟩] })

/-- The first half of a step: the call of the model, between its two
events. -/
def callModel : Py (Frame ω) LLMResponse := do
  let messages := (← Py.get).messages
  let requestHash := hashRequest (inv.request messages)
  Frame.emit (.llmCallStart inv.modelProvider inv.modelName requestHash
    messages.length inv.params)
  let tLlmStartNs ← Frame.onRuntime Runtime.monotonicNs
  let resp ← complete inv (inv.request messages)
  let tLlmEndNs ← Frame.onRuntime Runtime.monotonicNs
  let cost := computeCost inv.modelName resp.inputTokens resp.outputTokens
  Py.modify (Frame.count resp cost)
  let responseHash ← Frame.hashed resp
  Frame.emit (.llmCallEnd requestHash responseHash resp.inputTokens
    resp.outputTokens resp.stopReason (roundTo 6 cost)
    (elapsedMs tLlmStartNs tLlmEndNs))
  Frame.append (buildAssistantMessage resp)
  return resp

/-- The body of the while loop: `none` continues, an outcome breaks. -/
def oneStep : Py (Frame ω) (Option String) := do
  let step := (← Py.get).step
  Frame.setStep step
  Frame.emit (.agentStepStart step)
  let resp ← callModel inv
  if resp.callsTools then do
    let toolResults ← Frame.onRuntime (runTools inv.tools resp.toolUses)
    Frame.append (toolResultsMessage toolResults)
    Frame.emit (.agentStepEnd step)
    Py.modify fun s => { s with step := s.step + 1 }
    return none
  else do
    Frame.emit (.agentStepEnd step)
    Py.modify fun s => { s with step := s.step + 1 }
    return some (outcomeOf resp.stopReason)

/-- The while loop, with `max_steps - step` iterations left at most; its
else branch when none is left. -/
def whileLoop : Nat → Py (Frame ω) String
  | 0 => return "max_steps"
  | remaining + 1 => do
      match ← oneStep inv with
      | some outcome => return outcome
      | none => whileLoop remaining

def agentError (exc : Exc) : Py (Frame ω) String := do
  Frame.emit (.agentError exc.type exc.message)
  return "failed"

def doneData (s : Frame ω) (outcome : String) : EventData :=
  .agentDone outcome s.step (roundTo 6 s.totalCost) s.totalInputTokens
    s.totalOutputTokens (roundTo 3 (inv.wallEnd - inv.wallStart))

/-- `run(spec, runtime)`: the `data` of `agent_done`. -/
def run : Py (Frame ω) EventData := do
  Frame.setStep 0
  Frame.emit (.agentStart inv.taskId inv.spec.prompt inv.modelProvider
    inv.modelName (inv.toolSchemas.map ToolSchema.name) inv.maxSteps)
  let outcome ← Py.tryExcept (whileLoop inv inv.maxSteps.toNat) agentError
  let done := doneData inv (← Py.get) outcome
  Frame.emit done
  return done

/-- The variables of `run` before its first event, under a new writer. -/
def Frame.into (world : ω) (clock : Clock)
    (sink : List Event → Event → Receipt)
    (unhashable : LLMResponse → Option Exc) : Frame ω where
  runtime := { events := EventWriter.into inv.taskId clock sink, world }
  messages := [userPrompt inv.spec.prompt]
  totalInputTokens := 0
  totalOutputTokens := 0
  totalCost := 0
  step := 0
  unhashable := unhashable
  calls := []

/-- A run from a world, under a clock, whatever becomes of its events and
whichever responses cannot be hashed: its result and its variables at the
end. -/
def executeInto (world : ω) (clock : Clock)
    (sink : List Event → Event → Receipt)
    (unhashable : LLMResponse → Option Exc) :
    Except Exc EventData × Frame ω :=
  run inv (Frame.into inv world clock sink unhashable)

/-- The variables of `run` before its first event, where the file takes
every event and every response can be hashed. -/
def Frame.start (world : ω) (clock : Clock) : Frame ω :=
  Frame.into inv world clock (fun _ _ => .written) fun _ => none

/-- A run of which no event is refused, but by its clock. -/
def execute (world : ω) (clock : Clock) : Except Exc EventData × Frame ω :=
  run inv (Frame.start inv world clock)

/-- The events a run emits. -/
def eventsOf (world : ω) (clock : Clock) : List Event :=
  (execute inv world clock).2.runtime.events.lines

/-- The calls of `client.complete` a run makes. -/
def callsOf (world : ω) (clock : Clock) : List LLMCall :=
  (execute inv world clock).2.calls

-- ========================================================= scripted runs

/-- A task for a model, with a scripted client and no tools. -/
def scriptedTask (model : String) (responses : List LLMResponse) :
    Invocation Nat where
  spec :=
    { prompt := "hi"
      systemPrompt := ""
      model := some
        { provider := "mock", name := model, apiKeySecretRef := none,
          params := [] }
      tools := []
      workspace := none
      timeoutSeconds := none
      maxSteps := none
      resources := none
      checkpointPolicy := none
      replay := none }
  taskId := "task-1"
  registry := []
  client := scriptedClient responses
  wallStart := 0
  wallEnd := 0

/-- A response that ends the turn. -/
def saysDone : LLMResponse where
  textBlocks := ["done"]
  toolUses := []
  stopReason := "end_turn"
  inputTokens := 3
  outputTokens := 1

/-- A response that calls a tool. -/
def callsBash : LLMResponse where
  textBlocks := []
  toolUses := [⟨"tu-1", "bash", [("command", .str "ls")]⟩]
  stopReason := "tool_use"
  inputTokens := 3
  outputTokens := 1

/-- Readings a millisecond apart. -/
def everyMsNs (n : Nat) : Int := n * 1000000

/-- A system clock that is read every millisecond. -/
def everyMs : Clock :=
  .system (fun _ => "2026-01-15T10:30:00.123Z") everyMsNs 0

theorem everyMsNs_monotone : Monotone everyMsNs := by
  intro m n h
  unfold everyMsNs
  omega

end AgentAnvil.Sdk
