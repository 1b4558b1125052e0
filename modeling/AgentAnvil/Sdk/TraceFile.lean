/-
`events.jsonl` on disk: how an emitted event is written, and how
`read_events` (`events.py`) and `load_trace` (`trace.py`) read it back.

An event is written as the JSON object pydantic dumps it to, by alias, and
is read by validating the object a line decodes to. The texts are a
parameter: what an object is written as, what a line decodes to, and what
pydantic accepts for an `int`.

Reading decodes the file as a whole. Where a file has both bytes that are
not UTF-8 and a line that is no event, which of the two Python reports
depends on the size of its buffer; here it is the first.
-/
import AgentAnvil.Lib.Disk
import AgentAnvil.Lib.Lines
import AgentAnvil.Lib.Utf8
import AgentAnvil.Sdk.Pydantic
import AgentAnvil.Sdk.Trace

namespace AgentAnvil.Sdk

open Fs

-- ============================================================ the envelope

/-- An event whose `data` is a JSON object. -/
abbrev JsonEvent := EventEnvelope (List (String × Json))

def EventType.text : EventType → String
  | .agentStart => "agent_start"
  | .agentStepStart => "agent_step_start"
  | .llmCallStart => "llm_call_start"
  | .llmCallEnd => "llm_call_end"
  | .toolCallStart => "tool_call_start"
  | .toolCallEnd => "tool_call_end"
  | .fileMutation => "file_mutation"
  | .networkRequest => "network_request"
  | .networkResponse => "network_response"
  | .checkpointStart => "checkpoint_start"
  | .checkpointEnd => "checkpoint_end"
  | .agentStepEnd => "agent_step_end"
  | .agentDone => "agent_done"
  | .agentError => "agent_error"

def EventType.all : List EventType := [
  .agentStart, .agentStepStart, .llmCallStart, .llmCallEnd, .toolCallStart,
  .toolCallEnd, .fileMutation, .networkRequest, .networkResponse,
  .checkpointStart, .checkpointEnd, .agentStepEnd, .agentDone, .agentError]

/-- The type a text names, if it names one. -/
def EventType.ofText (s : String) : Option EventType :=
  EventType.all.find? fun type => type.text = s

theorem EventType.ofText_text (type : EventType) :
    EventType.ofText type.text = some type := by
  cases type <;> rfl

/-- `model_dump(by_alias=True)`. -/
def EventEnvelope.dump (e : JsonEvent) : Json := .obj [
  ("schema", .str e.schema), ("task_id", .str e.taskId), ("step", .int e.step),
  ("ts", .str e.ts), ("monotonic_ns", .int e.monotonicNs),
  ("type", .str e.type.text), ("data", .obj e.data)]

-- =============================================================== the texts

structure JsonText where
  /-- the text `model_dump_json` writes a dumped object as -/
  dumps : Json → List Char
  loads : List Char → Except Exc Json
  /-- what pydantic accepts for an `int` -/
  int : Json → Except Exc Int
  /-- `str` of the error decoding raises -/
  decodeError : List UInt8 → String

/-- What the writer and the reader rely on of a value's text: it is an
object on one line, and it decodes to the value. -/
structure JsonText.Writes (t : JsonText) (a : Json) : Prop where
  oneLine : '\n' ∉ t.dumps a ∧ '\r' ∉ t.dumps a
  object : ∃ inside, t.dumps a = '{' :: inside ++ ['}']
  inverse : t.loads (t.dumps a) = .ok a

/-- No shorter text at its front decodes. -/
def JsonText.NoShorter (t : JsonText) (a : Json) : Prop :=
  ∀ p, p <+: t.dumps a → p ≠ [] → p ≠ t.dumps a →
    ∃ exc, t.loads p = .error exc

-- ============================================================== validating

def typeField : Json → Except Exc EventType
  | .str s =>
      match EventType.ofText s with
      | some type => .ok type
      | none => .error (validationError "type")
  | _ => .error (validationError "type")

/-- `EventEnvelope.model_validate`. -/
def EventEnvelope.modelValidate (t : JsonText) :
    Json → Except Exc JsonEvent
  | .obj entries => do
      let schema ← defaulted entries ["schema", "schema_"] SCHEMA
        (stringField "schema")
      let taskId ← required entries "task_id" (stringField "task_id")
      let step ← required entries "step" t.int
      let ts ← required entries "ts" (stringField "ts")
      let monotonicNs ← required entries "monotonic_ns" t.int
      let type ← required entries "type" typeField
      let data ← defaulted entries ["data"] [] (dictField "data")
      return { schema, taskId, step, ts, monotonicNs, type, data }
  | _ => .error (validationError "EventEnvelope")

/-- Validating what was dumped gives the event back. -/
theorem modelValidate_dump {t : JsonText} (hints : KeepsInts t.int)
    (e : JsonEvent) : EventEnvelope.modelValidate t e.dump = .ok e := by
  have htype : typeField (.str e.type.text) = .ok e.type := by
    rw [typeField, EventType.ofText_text]
  show (do
    let step ← t.int (.int e.step)
    let monotonicNs ← t.int (.int e.monotonicNs)
    let type ← typeField (.str e.type.text)
    return ({ e with step, monotonicNs, type } : JsonEvent)) = Except.ok e
  rw [hints, hints, htype]
  rfl

-- ================================================================= writing

/-- The line of an event. -/
def eventLine (t : JsonText) (e : JsonEvent) : List Char :=
  t.dumps e.dump ++ ['\n']

def eventsText (t : JsonText) (events : List JsonEvent) : List Char :=
  events.flatMap (eventLine t)

/-- The bytes of the file the writer has written. -/
def EventWriter.file (t : JsonText)
    (w : EventWriter (List (String × Json))) : List UInt8 :=
  Utf8.encode (eventsText t w.lines)

-- ================================================================= reading

/-- The loop of `read_events` over the lines of the file. -/
def readLines (t : JsonText) : List (List Char) → Except Exc (List JsonEvent)
  | [] => .ok []
  | line :: rest =>
      if Lines.strip line = [] then readLines t rest
      else do
        let value ← t.loads (Lines.strip line)
        let event ← EventEnvelope.modelValidate t value
        let events ← readLines t rest
        return event :: events

/-- The events in a file of these bytes. -/
def parseEvents (t : JsonText) (bytes : List UInt8) :
    Except Exc (List JsonEvent) :=
  match Utf8.decode bytes with
  | some text => readLines t (Lines.fileLines (Lines.universalNewlines text))
  | none => .error ⟨"UnicodeDecodeError", t.decodeError bytes⟩

def readEvents (t : JsonText) (path : Location) : Py Disk (List JsonEvent) := do
  let bytes ← readBytes path
  Py.ofExcept (parseEvents t bytes)

/-- The file of a trace, which may be named by its directory (the file in it
is no link). -/
def eventsPath (path : Location) : Py Disk Location := do
  if ← isDir path then return path ++ ["events.jsonl"] else return path

def loadTrace (t : JsonText) (path : Location) :
    Py Disk (Trace (List (String × Json))) := do
  let path ← eventsPath path
  if ← isFile path then
    let events ← readEvents t path
    return Trace.of events
  else Py.raise ⟨"FileNotFoundError", absoluteText path⟩

end AgentAnvil.Sdk
