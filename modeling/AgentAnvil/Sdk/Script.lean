/-
Scripts: what a run does to its event writer, without the clock.

An act sets the step, writes a line, reads the clock to no effect, or times
a section: it reads the clock, writes some lines, reads the clock again and
writes a closing line with the milliseconds in between. A script is a list
of acts. Performing one on a writer is total; it is what the run does to
the writer as long as the writer lasts (`Lasts`): its file takes every
event, and its clock has the timestamps for as many as the script has
lines.
-/
import AgentAnvil.Sdk.Loop

namespace AgentAnvil.Sdk

/-- The `data` of an event that reports a latency, but for the latency. -/
inductive Measured where
  | llmCallEnd (requestHash responseHash : String)
      (inputTokens outputTokens : Int) (stopReason : String) (costUsd : Rat)
  | toolCallEnd (toolCallId result : String) (resultTruncated : Bool)
      (exitCode : Int)

def Measured.data : Measured → Int → EventData
  | llmCallEnd requestHash responseHash inputTokens outputTokens stopReason
      costUsd, latencyMs =>
      .llmCallEnd requestHash responseHash inputTokens outputTokens stopReason
        costUsd latencyMs
  | toolCallEnd toolCallId result resultTruncated exitCode, latencyMs =>
      .toolCallEnd toolCallId result resultTruncated exitCode latencyMs

/-- The `data` tells the latency. -/
theorem Measured.data_injective (closing : Measured) :
    Function.Injective closing.data := by
  intro m n h
  cases closing with
  | llmCallEnd =>
      injection h
  | toolCallEnd =>
      injection h

inductive Act where
  | setStep (step : Int)
  | line (data : EventData)
  | read
  | timed (inner : List EventData) (closing : Measured)

abbrev Writer := EventWriter EventData

-- ================================================== the writer afterwards

namespace EventWriter

def emitted (w : Writer) (data : EventData) : Writer :=
  w.written data.type data

def emittedAll (w : Writer) (datas : List EventData) : Writer :=
  datas.foldl emitted w

def afterRead (w : Writer) : Writer := { w with clock := w.clock.afterRead }

/-- The writer takes this many events: it knows their timestamps, and its
file refuses none. -/
structure Lasts (w : Writer) (n : Nat) : Prop where
  clock : w.clock.Lasts n
  takes : w.Takes

variable {w : Writer} {n : Nat}

/-- A new writer lasts as long as its clock. -/
theorem Lasts.new {clock : Clock} (h : clock.Lasts n) (taskId : String) :
    (EventWriter.new taskId clock : Writer).Lasts n :=
  ⟨h, fun _ _ => rfl⟩

theorem Lasts.mono {m : Nat} (h : w.Lasts n) (hle : m ≤ n) : w.Lasts m :=
  ⟨h.clock.mono hle, h.takes⟩

/-- An event takes one of the timestamps. -/
theorem Lasts.emitted (h : w.Lasts (n + 1)) (data : EventData) :
    (w.emitted data).Lasts n :=
  ⟨h.clock.afterEmit, h.takes⟩

theorem Lasts.afterRead (h : w.Lasts n) : w.afterRead.Lasts n :=
  ⟨h.clock.afterRead, h.takes⟩

theorem Lasts.setStep (h : w.Lasts n) (step : Int) :
    ({ w with step } : Writer).Lasts n :=
  ⟨h.clock, h.takes⟩

theorem Lasts.emittedAll {datas : List EventData}
    (h : w.Lasts (datas.length + n)) : (w.emittedAll datas).Lasts n := by
  induction datas generalizing w with
  | nil => exact h.mono (by omega)
  | cons data datas ih =>
      refine ih (Lasts.emitted ?_ data)
      exact h.mono (by rw [List.length_cons]; omega)

end EventWriter

-- ====================================================== performing a script

/-- The writer after a timed section. -/
def EventWriter.timed (w : Writer) (inner : List EventData)
    (closing : Measured) : Writer :=
  let stop := w.afterRead.emittedAll inner
  stop.afterRead.emitted
    (closing.data (elapsedMs w.clock.time stop.clock.time))

namespace Act

def perform : Act → Writer → Writer
  | setStep step, w => { w with step }
  | line data, w => w.emitted data
  | read, w => w.afterRead
  | timed inner closing, w => w.timed inner closing

/-- The number of lines an act writes. -/
def lineCount : Act → Nat
  | setStep _ => 0
  | line _ => 1
  | read => 0
  | timed inner _ => inner.length + 1

end Act

def perform (script : List Act) (w : Writer) : Writer :=
  script.foldl (fun w act => act.perform w) w

def lineCount (script : List Act) : Nat := (script.map Act.lineCount).sum

@[simp] theorem perform_nil (w : Writer) : perform [] w = w := rfl

@[simp] theorem perform_cons (act : Act) (script : List Act) (w : Writer) :
    perform (act :: script) w = perform script (act.perform w) := rfl

/-- Scripts are performed one after the other. -/
@[simp] theorem perform_append (s t : List Act) (w : Writer) :
    perform (s ++ t) w = perform t (perform s w) := by
  rw [perform, List.foldl_append]
  rfl

@[simp] theorem lineCount_nil : lineCount [] = 0 := rfl

@[simp] theorem lineCount_cons (act : Act) (script : List Act) :
    lineCount (act :: script) = act.lineCount + lineCount script := rfl

@[simp] theorem lineCount_append (s t : List Act) :
    lineCount (s ++ t) = lineCount s + lineCount t := by
  rw [lineCount, List.map_append, List.sum_append]
  rfl

/-- An act takes the timestamps of the lines it writes. -/
theorem EventWriter.Lasts.act {w : Writer} {n : Nat} (act : Act)
    (h : w.Lasts (act.lineCount + n)) : (act.perform w).Lasts n := by
  cases act with
  | setStep step => exact (h.mono (Nat.le_add_left ..)).setStep step
  | line data => exact (h.mono (by rw [Act.lineCount]; omega)).emitted data
  | read => exact (h.mono (Nat.le_add_left ..)).afterRead
  | timed inner closing =>
      have h' : w.Lasts (inner.length + (n + 1)) :=
        h.mono (by rw [Act.lineCount]; omega)
      exact h'.afterRead.emittedAll.afterRead.emitted _

theorem EventWriter.Lasts.perform {w : Writer} {n : Nat} {script : List Act}
    (h : w.Lasts (lineCount script + n)) :
    (Sdk.perform script w).Lasts n := by
  induction script generalizing w with
  | nil => exact h.mono (by rw [lineCount_nil]; omega)
  | cons act script ih =>
      refine ih (Lasts.act act (h.mono ?_))
      rw [lineCount_cons]
      omega

-- ======================================================= the lines it adds

/-- The line a writer writes next. -/
def EventWriter.next (w : Writer) (data : EventData) : Event :=
  w.envelope w.clock.stamp data.type data

/-- The lines `emittedAll` adds. -/
def EventWriter.nextAll (w : Writer) : List EventData → List Event
  | [] => []
  | data :: datas => w.next data :: (w.emitted data).nextAll datas

/-- The closing line of a timed section. -/
def EventWriter.closing (w : Writer) (inner : List EventData)
    (closing : Measured) : Event :=
  let stop := w.afterRead.emittedAll inner
  stop.afterRead.next
    (closing.data (elapsedMs w.clock.time stop.clock.time))

def Act.newLines : Act → Writer → List Event
  | setStep _, _ => []
  | line data, w => [w.next data]
  | read, _ => []
  | timed inner closing, w =>
      w.afterRead.nextAll inner ++ [w.closing inner closing]

/-- The lines a script adds. -/
def newLines : List Act → Writer → List Event
  | [], _ => []
  | act :: script, w => act.newLines w ++ newLines script (act.perform w)

/-- The lines of the second script are those it writes after the first. -/
theorem newLines_append (s t : List Act) (w : Writer) :
    newLines (s ++ t) w = newLines s w ++ newLines t (perform s w) := by
  induction s generalizing w with
  | nil => rfl
  | cons act s ih =>
      rw [List.cons_append, newLines, newLines, ih, perform_cons,
        List.append_assoc]

theorem EventWriter.nextAll_length (w : Writer) (datas : List EventData) :
    (w.nextAll datas).length = datas.length := by
  induction datas generalizing w with
  | nil => rfl
  | cons data datas ih =>
      rw [nextAll, List.length_cons, List.length_cons, ih]

theorem Act.newLines_length (act : Act) (w : Writer) :
    (act.newLines w).length = act.lineCount := by
  cases act with
  | setStep step => rfl
  | line data => rfl
  | read => rfl
  | timed inner closing =>
      rw [newLines, List.length_append, EventWriter.nextAll_length]
      rfl

/-- A script adds as many lines as it says. -/
theorem newLines_length (script : List Act) (w : Writer) :
    (newLines script w).length = lineCount script := by
  induction script generalizing w with
  | nil => rfl
  | cons act script ih =>
      rw [newLines, List.length_append, ih, lineCount_cons,
        Act.newLines_length]

/-- Emitting only adds lines. -/
theorem EventWriter.emittedAll_lines (w : Writer) (datas : List EventData) :
    (w.emittedAll datas).lines = w.lines ++ w.nextAll datas := by
  induction datas generalizing w with
  | nil => exact (List.append_nil _).symm
  | cons data datas ih =>
      show ((w.emitted data).emittedAll datas).lines = _
      rw [ih]
      show w.lines ++ [w.next data] ++ _ = _
      rw [List.append_assoc]
      rfl

theorem emittedAll_step (w : Writer) (datas : List EventData) :
    (w.emittedAll datas).step = w.step := by
  induction datas generalizing w with
  | nil => rfl
  | cons data datas ih => exact ih (w.emitted data)

theorem Act.perform_lines (act : Act) (w : Writer) :
    (act.perform w).lines = w.lines ++ act.newLines w := by
  cases act with
  | setStep step => exact (List.append_nil _).symm
  | line data => rfl
  | read => exact (List.append_nil _).symm
  | timed inner closing =>
      show (w.afterRead.emittedAll inner).lines ++ [w.closing inner closing]
        = w.lines ++ (w.afterRead.nextAll inner ++ [w.closing inner closing])
      rw [EventWriter.emittedAll_lines, List.append_assoc]
      rfl

/-- The `data` with no latency in it. -/
def EventData.withoutLatency : EventData → EventData
  | .llmCallEnd requestHash responseHash inputTokens outputTokens stopReason
      costUsd _ =>
      .llmCallEnd requestHash responseHash inputTokens outputTokens stopReason
        costUsd 0
  | .toolCallEnd toolCallId result resultTruncated exitCode _ =>
      .toolCallEnd toolCallId result resultTruncated exitCode 0
  | data => data

/-- The latency is all that a closing line measures. -/
@[simp] theorem Measured.withoutLatency (closing : Measured)
    (latencyMs : Int) :
    (closing.data latencyMs).withoutLatency = closing.data 0 := by
  cases closing with
  | llmCallEnd => rfl
  | toolCallEnd => rfl

/-- What an act writes, but for the latencies. -/
def Act.datas : Act → List EventData
  | setStep _ => []
  | line data => [data.withoutLatency]
  | read => []
  | timed inner closing =>
      inner.map EventData.withoutLatency ++ [closing.data 0]

theorem EventWriter.nextAll_datas (w : Writer) (datas : List EventData) :
    (w.nextAll datas).map (fun e => e.data.withoutLatency)
      = datas.map EventData.withoutLatency := by
  induction datas generalizing w with
  | nil => rfl
  | cons data datas ih =>
      rw [nextAll, List.map_cons, List.map_cons, ih]
      rfl

/-- What a script writes does not depend on the clock, but for the
latencies. -/
theorem newLines_datas (script : List Act) (w : Writer) :
    (newLines script w).map (fun e => e.data.withoutLatency)
      = script.flatMap Act.datas := by
  induction script generalizing w with
  | nil => rfl
  | cons act script ih =>
      rw [newLines, List.map_append, ih, List.flatMap_cons]
      congr 1
      cases act with
      | setStep step => rfl
      | line data => rfl
      | read => rfl
      | timed inner closing =>
          rw [Act.newLines, List.map_append, EventWriter.nextAll_datas,
            Act.datas, List.map_singleton]
          congr 2
          exact closing.withoutLatency _

/-- A script only adds lines: nothing in the trace is ever taken back. -/
theorem perform_lines (script : List Act) (w : Writer) :
    (perform script w).lines = w.lines ++ newLines script w := by
  induction script generalizing w with
  | nil => exact (List.append_nil _).symm
  | cons act script ih =>
      rw [perform_cons, ih, Act.perform_lines, newLines, List.append_assoc]

-- ========================================== what the loop's primitives do

variable {ω : Type} {rt : Runtime ω} {s : Frame ω}

/-- Emitting goes through as long as the writer lasts. -/
theorem Runtime.emit_eq (h : rt.events.Lasts 1) (data : EventData) :
    Runtime.emit data rt
      = (.ok (), { rt with events := rt.events.emitted data }) := by
  unfold Runtime.emit Runtime.onEvents
  rw [Py.bind_ok (Py.zoom_eq
    (EventWriter.emit_of_lasts h.clock h.takes data.type data))]
  rfl

/-- On a clock that is spent it raises, and nothing was written. -/
theorem Runtime.emit_spent (h : ¬ rt.events.clock.Lasts 1)
    (data : EventData) :
    Runtime.emit data rt = (.error Clock.indexError, rt) := by
  unfold Runtime.emit Runtime.onEvents
  rw [Py.bind_error (Py.zoom_eq
    (EventWriter.emit_of_spent h data.type data))]

theorem Runtime.monotonicNs_eq (h : rt.events.clock.Lasts 1) :
    Runtime.monotonicNs rt
      = (.ok rt.events.clock.time,
          { rt with events := rt.events.afterRead }) := by
  unfold Runtime.monotonicNs Runtime.onEvents EventWriter.onClock
  exact Py.zoom_eq (Py.zoom_eq (Clock.monotonicNs_of_lasts h))

/-- The variables after an act. -/
def Frame.did (s : Frame ω) (act : Act) : Frame ω :=
  { s with runtime :=
    { s.runtime with events := act.perform s.runtime.events } }

/-- The run's writer takes this many events, and every response can be
hashed. -/
structure Frame.Lasts (s : Frame ω) (n : Nat) : Prop where
  events : s.runtime.events.Lasts n
  hashes : ∀ resp, s.unhashable resp = none

theorem Frame.Lasts.mono {m n : Nat} (h : s.Lasts n) (hle : m ≤ n) :
    s.Lasts m :=
  ⟨h.events.mono hle, h.hashes⟩

theorem Frame.Lasts.setStep {n : Nat} (h : s.Lasts n) (step : Int) :
    (s.did (.setStep step)).Lasts n :=
  ⟨h.events.setStep step, h.hashes⟩

theorem Frame.Lasts.line {n : Nat} (h : s.Lasts (n + 1)) (data : EventData) :
    (s.did (.line data)).Lasts n :=
  ⟨h.events.emitted data, h.hashes⟩

theorem Frame.Lasts.read {n : Nat} (h : s.Lasts n) :
    (s.did .read).Lasts n :=
  ⟨h.events.afterRead, h.hashes⟩

/-- What lasts for a script and more lasts for more after it. -/
theorem Frame.Lasts.performed {s' : Frame ω} {n : Nat} (script : List Act)
    (h : s.Lasts (lineCount script + n))
    (hevents : s'.runtime.events = perform script s.runtime.events)
    (hhashes : s'.unhashable = s.unhashable) : s'.Lasts n where
  events := by
    rw [hevents]
    exact h.events.perform
  hashes := by
    rw [hhashes]
    exact h.hashes

/-- The loop's primitives are acts of the script. This one sets the step. -/
theorem Frame.setStep_eq (step : Nat) :
    Frame.setStep step s = (.ok (), s.did (.setStep step)) := rfl

/-- An event of the loop is a line of the script. -/
theorem Frame.emit_eq (h : s.Lasts 1) (data : EventData) :
    Frame.emit data s = (.ok (), s.did (.line data)) := by
  unfold Frame.emit Frame.onRuntime
  exact Py.zoom_eq (Runtime.emit_eq h.events data)

theorem Frame.monotonicNs_eq (h : s.Lasts 1) :
    Frame.onRuntime Runtime.monotonicNs s
      = (.ok s.runtime.events.clock.time, s.did .read) := by
  unfold Frame.onRuntime
  exact Py.zoom_eq (Runtime.monotonicNs_eq h.events.clock)

/-- Hashing a response is none: where every response can be hashed, it does
nothing to the run. -/
theorem Frame.hashed_eq (h : s.Lasts 0) (resp : LLMResponse) :
    Frame.hashed resp s = (.ok (hashResponse resp), s) := by
  unfold Frame.hashed
  rw [h.hashes]

/-- The events of a tool's mutations, in the order it made them. -/
theorem emitMutations_eq (ms : List FileMutation)
    (h : rt.events.Lasts ms.length) :
    emitMutations ms rt = (.ok (), { rt with
      events := rt.events.emittedAll (ms.map FileMutation.data) }) := by
  induction ms generalizing rt with
  | nil => rfl
  | cons m ms ih =>
      have hone : rt.events.Lasts 1 :=
        h.mono (by rw [List.length_cons]; omega)
      rw [emitMutations, Py.bind_ok (Runtime.emit_eq hone m.data), ih]
      · rfl
      · exact h.emitted m.data

/-- A tool call is its body, its events, and then what it came to. -/
theorem Tool.run_apply (tool : Tool ω) (args : List (String × Json))
    {ran : ToolRun ω}
    (hran : tool.cls._run tool.timeoutSeconds args rt.world = ran) :
    tool.run args rt
      = (emitMutations ran.mutations >>= fun _ =>
          Py.ofExcept (ran.outcome.map ToolResult.clamp))
        { rt with world := ran.world } := by
  unfold Tool.run
  rw [Py.bind_ok (Py.get_apply rt), hran]
  show (Py.modify _ >>= _) rt = _
  rw [Py.bind_ok (Py.modify_apply _ rt)]
  cases ran.outcome with
  | error exc => rfl
  | ok result => rfl

/-- What a tool call does to the runtime, in one piece. -/
theorem Tool.run_eq (tool : Tool ω) (args : List (String × Json))
    {ran : ToolRun ω}
    (hran : tool.cls._run tool.timeoutSeconds args rt.world = ran)
    (h : rt.events.Lasts ran.mutations.length) :
    tool.run args rt = (ran.outcome.map ToolResult.clamp, {
      events := rt.events.emittedAll (ran.mutations.map FileMutation.data)
      world := ran.world }) := by
  have hmut : emitMutations ran.mutations { rt with world := ran.world }
      = _ := emitMutations_eq ran.mutations h
  rw [tool.run_apply args hran, Py.bind_ok hmut, Py.ofExcept_apply]

end AgentAnvil.Sdk
