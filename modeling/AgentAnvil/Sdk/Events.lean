/-
Events and the writer that appends them to `events.jsonl`
(`events.py`).

The writer is generic in the `data` of its events; a line of the file is
the envelope it encodes. An event is refused where the clock has no
timestamp for it, where it has no JSON or no UTF-8 text (Python's text may
hold lone surrogates, which no `String` does), and where the file system
does not take it. What there is of that is the writer's `sink` to say; that
a part of a line is written is left out. What `echo` repeats elsewhere is
left out too, but not that it may raise.

`EventData` is the `data` of the events the loop and the tools emit, one
constructor for each event type they use.
-/
import AgentAnvil.Lib.Json
import AgentAnvil.Sdk.Clock
import Mathlib.Data.Rat.Defs

namespace AgentAnvil.Sdk

-- ============================================================= the schema

inductive EventType where
  | agentStart
  | agentStepStart
  | llmCallStart
  | llmCallEnd
  | toolCallStart
  | toolCallEnd
  | fileMutation
  | networkRequest
  | networkResponse
  | checkpointStart
  | checkpointEnd
  | agentStepEnd
  | agentDone
  | agentError
  deriving DecidableEq, Repr

def SCHEMA : String := "agent-anvil/v1"

structure EventEnvelope (δ : Type) where
  schema : String
  taskId : String
  step : Int
  ts : String
  monotonicNs : Int
  type : EventType
  data : δ

-- ============================================================= the writer

/-- What comes of an event: its line is written; it is refused, and nothing
of it is written; or its line is written, and what comes after it raises
(`flush`, the echo). -/
inductive Receipt where
  | written
  | refused (exc : Exc)
  | interrupted (exc : Exc)

structure EventWriter (δ : Type) where
  taskId : String
  clock : Clock
  /-- what comes of an event after these -/
  sink : List (EventEnvelope δ) → EventEnvelope δ → Receipt
  step : Int
  /-- the lines of the file -/
  lines : List (EventEnvelope δ)
  /-- ghost: the events that were refused -/
  refused : List (EventEnvelope δ)
  /-- ghost: the events whose line was written when something raised -/
  interrupted : List (EventEnvelope δ)

namespace EventWriter

variable {δ : Type}

/-- A writer that opens a new file, whatever there is to become of its
events. -/
def into (taskId : String) (clock : Clock)
    (sink : List (EventEnvelope δ) → EventEnvelope δ → Receipt) :
    EventWriter δ where
  taskId := taskId
  clock := clock
  sink := sink
  step := 0
  lines := []
  refused := []
  interrupted := []

/-- A writer whose new file takes every event. -/
def new (taskId : String) (clock : Clock) : EventWriter δ :=
  into taskId clock fun _ _ => .written

/-- No event is refused or interrupted, but by the clock. -/
def Takes (w : EventWriter δ) : Prop :=
  ∀ lines event, w.sink lines event = .written

def onClock {α : Type} (m : Py Clock α) : Py (EventWriter δ) α :=
  Py.zoom EventWriter.clock (fun clock w => { w with clock }) m

def setStep (step : Int) : Py (EventWriter δ) Unit :=
  Py.modify fun w => { w with step }

/-- The event that is written now, under these timestamps. -/
def envelope (w : EventWriter δ) (stamp : String × Int) (type : EventType)
    (data : δ) : EventEnvelope δ where
  schema := SCHEMA
  taskId := w.taskId
  step := w.step
  ts := stamp.1
  monotonicNs := stamp.2
  type := type
  data := data

/-- The line of an event: dumped, written, flushed and repeated. -/
def write (event : EventEnvelope δ) : Py (EventWriter δ) Unit := fun w =>
  match w.sink w.lines event with
  | .written => (.ok (), { w with lines := w.lines ++ [event] })
  | .refused exc => (.error exc, { w with refused := w.refused ++ [event] })
  | .interrupted exc =>
      (.error exc, { w with
        lines := w.lines ++ [event]
        interrupted := w.interrupted ++ [event] })

def emit (type : EventType) (data : δ) :
    Py (EventWriter δ) (EventEnvelope δ) := do
  let ts ← onClock Clock.nowIso
  let monotonicNs ← onClock Clock.monotonicNs
  let event := (← Py.get).envelope (ts, monotonicNs) type data
  write event
  onClock Clock.tick
  return event

/-- The writer after an event was written and the clock ticked. -/
def written (w : EventWriter δ) (type : EventType) (data : δ) :
    EventWriter δ :=
  { w with
    clock := w.clock.afterEmit
    lines := w.lines ++ [w.envelope w.clock.stamp type data] }

/-- The writer when it has read the clock for an event. -/
def stamped (w : EventWriter δ) : EventWriter δ :=
  { w with clock := w.clock.afterRead.afterRead }

/-- The writer after an event was refused. -/
def refusing (w : EventWriter δ) (type : EventType) (data : δ) :
    EventWriter δ :=
  { w.stamped with
    refused := w.refused ++ [w.envelope w.clock.stamp type data] }

/-- The writer after an event was interrupted. -/
def interrupting (w : EventWriter δ) (type : EventType) (data : δ) :
    EventWriter δ :=
  { w.stamped with
    lines := w.lines ++ [w.envelope w.clock.stamp type data]
    interrupted := w.interrupted ++ [w.envelope w.clock.stamp type data] }

/-- While the clock lasts, what comes of an event is for the sink to say. -/
theorem emit_of_stamp {w : EventWriter δ} (h : w.clock.Lasts 1)
    (type : EventType) (data : δ) :
    emit type data w
      = match w.sink w.lines (w.envelope w.clock.stamp type data) with
        | .written => (.ok (w.envelope w.clock.stamp type data),
            w.written type data)
        | .refused exc => (.error exc, w.refusing type data)
        | .interrupted exc => (.error exc, w.interrupting type data) := by
  have hiso : onClock Clock.nowIso w
      = (.ok w.clock.stamp.1, { w with clock := w.clock.afterRead }) := by
    simp only [onClock, Py.zoom, Clock.nowIso_of_lasts h]
  have hns : onClock Clock.monotonicNs { w with clock := w.clock.afterRead }
      = (.ok w.clock.stamp.2, w.stamped) := by
    simp only [onClock, Py.zoom,
      Clock.monotonicNs_of_lasts (Clock.Lasts.afterRead h),
      Clock.time_afterRead, stamped]
  unfold emit
  rw [Py.bind_ok hiso, Py.bind_ok hns, Py.bind_ok (Py.get_apply _)]
  show (write (w.envelope w.clock.stamp type data) >>= fun _ =>
    onClock Clock.tick >>= fun _ =>
      pure (w.envelope w.clock.stamp type data)) w.stamped = _
  cases hsink : w.sink w.lines (w.envelope w.clock.stamp type data) with
  | written =>
      have hwrite : write (w.envelope w.clock.stamp type data) w.stamped
          = (.ok (), { w.stamped with
              lines := w.lines ++ [w.envelope w.clock.stamp type data] }) := by
        simp only [write, stamped, hsink]
      have htick : onClock Clock.tick { w.stamped with
            lines := w.lines ++ [w.envelope w.clock.stamp type data] }
          = (.ok (), w.written type data) := by
        simp only [onClock, Py.zoom, stamped, Clock.tick_of_lasts h, written]
      rw [Py.bind_ok hwrite, Py.bind_ok htick]
      rfl
  | refused exc =>
      have hwrite : write (w.envelope w.clock.stamp type data) w.stamped
          = (.error exc, w.refusing type data) := by
        simp only [write, stamped, refusing, hsink]
      rw [Py.bind_error hwrite]
  | interrupted exc =>
      have hwrite : write (w.envelope w.clock.stamp type data) w.stamped
          = (.error exc, w.interrupting type data) := by
        simp only [write, stamped, interrupting, hsink]
      rw [Py.bind_error hwrite]

/-- Emitting while the clock lasts, where the file takes every event. -/
theorem emit_of_lasts {w : EventWriter δ} (h : w.clock.Lasts 1)
    (htakes : w.Takes) (type : EventType) (data : δ) :
    emit type data w
      = (.ok (w.envelope w.clock.stamp type data), w.written type data) := by
  rw [emit_of_stamp h, htakes]

/-- Emitting past the end of a recording writes nothing. -/
theorem emit_of_spent {w : EventWriter δ} (h : ¬ w.clock.Lasts 1)
    (type : EventType) (data : δ) :
    emit type data w = (.error Clock.indexError, w) := by
  have hiso : onClock Clock.nowIso w = (.error Clock.indexError, w) := by
    simp only [onClock, Py.zoom, Clock.nowIso_of_spent h]
  unfold emit
  rw [Py.bind_error hiso]

/-- All that emitting an event can come to. -/
inductive Emitted (w : EventWriter δ) (type : EventType) (data : δ) :
    Except Exc (EventEnvelope δ) → EventWriter δ → Prop where
  | written (lasts : w.clock.Lasts 1) :
      Emitted w type data (.ok (w.envelope w.clock.stamp type data))
        (w.written type data)
  /-- the clock has no timestamp for it -/
  | spent (spent : ¬ w.clock.Lasts 1) :
      Emitted w type data (.error Clock.indexError) w
  | refused {exc} (lasts : w.clock.Lasts 1) :
      Emitted w type data (.error exc) (w.refusing type data)
  | interrupted {exc} (lasts : w.clock.Lasts 1) :
      Emitted w type data (.error exc) (w.interrupting type data)

/-- There is no other way for `emit` to end. -/
theorem emit_cases {w w' : EventWriter δ} {type : EventType} {data : δ}
    {r : Except Exc (EventEnvelope δ)} (h : emit type data w = (r, w')) :
    Emitted w type data r w' := by
  by_cases hlasts : w.clock.Lasts 1
  · rw [emit_of_stamp hlasts] at h
    split at h
    · cases h
      exact .written hlasts
    · cases h
      exact .refused hlasts
    · cases h
      exact .interrupted hlasts
  · rw [emit_of_spent hlasts] at h
    cases h
    exact .spent hlasts

namespace Emitted

variable {w w' : EventWriter δ} {type : EventType} {data : δ}
  {r : Except Exc (EventEnvelope δ)}

/-- An emission that returns has written its event. -/
theorem ok {event : EventEnvelope δ} (h : Emitted w type data (.ok event) w') :
    w' = w.written type data ∧ event = w.envelope w.clock.stamp type data := by
  cases h
  exact ⟨rfl, rfl⟩

/-- What was refused stays refused. -/
theorem refused_mem (h : Emitted w type data r w') :
    ∀ e ∈ w.refused, e ∈ w'.refused := by
  intro e he
  cases h with
  | written lasts => exact he
  | spent spent => exact he
  | refused lasts => exact List.mem_append_left _ he
  | interrupted lasts => exact he

/-- An emission takes one timestamp at most. -/
theorem lasts {n : Nat} (h : Emitted w type data r w')
    (hlasts : w.clock.Lasts (n + 1)) : w'.clock.Lasts n := by
  have hread : w.clock.afterRead.afterRead.Lasts n :=
    (hlasts.mono (Nat.le_succ n)).afterRead.afterRead
  cases h with
  | written lasts => exact hlasts.afterEmit
  | spent spent => exact hlasts.mono (Nat.le_succ n)
  | refused lasts => exact hread
  | interrupted lasts => exact hread

end Emitted

end EventWriter

-- ======================================================== what is written

/-- The `data` of the events of a run. `result_blob_path`, which is always
null, is left out of `toolCallEnd`. -/
inductive EventData where
  | agentStart (taskId prompt provider name : String) (tools : List String)
      (maxSteps : Int)
  | agentStepStart (step : Int)
  | llmCallStart (provider model requestHash : String) (messagesCount : Nat)
      (params : List (String × String))
  | llmCallEnd (requestHash responseHash : String)
      (inputTokens outputTokens : Int) (stopReason : String) (costUsd : Rat)
      (latencyMs : Int)
  | toolCallStart (toolName : String) (args : Json) (toolCallId : String)
  | toolCallEnd (toolCallId result : String) (resultTruncated : Bool)
      (exitCode latencyMs : Int)
  | fileMutation (path operation : String) (sizeBefore sizeAfter : Nat)
      (hashAfter : String)
  | agentStepEnd (step : Int)
  | agentDone (outcome : String) (totalSteps : Int) (totalCostUsd : Rat)
      (totalInputTokens totalOutputTokens : Int) (wallClockSeconds : Rat)
  | agentError (type message : String)

/-- The event type each `data` is emitted under. -/
def EventData.type : EventData → EventType
  | .agentStart .. => .agentStart
  | .agentStepStart .. => .agentStepStart
  | .llmCallStart .. => .llmCallStart
  | .llmCallEnd .. => .llmCallEnd
  | .toolCallStart .. => .toolCallStart
  | .toolCallEnd .. => .toolCallEnd
  | .fileMutation .. => .fileMutation
  | .agentStepEnd .. => .agentStepEnd
  | .agentDone .. => .agentDone
  | .agentError .. => .agentError

/-- An event of a run. -/
abbrev Event := EventEnvelope EventData

end AgentAnvil.Sdk
