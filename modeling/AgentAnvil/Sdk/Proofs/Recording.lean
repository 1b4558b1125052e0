/-
From a run to its trace file, and from the file to a replay.

A trace that was written is loaded, by the path of its file or of its
directory, as the events of the run. A second run on the timestamps that
were loaded comes to its end and emits the same events again, but for the
times it measures (`recording_replays`): two latencies and the seconds of
the OS clock. When the latencies agree too is `TimesAgree`.

The second part goes through the script with both writers side by side, as
`Follows` does it for the whole events.
-/
import AgentAnvil.Sdk.EventJson
import AgentAnvil.Sdk.Proofs.Replay
import AgentAnvil.Sdk.Proofs.TraceReading

namespace AgentAnvil.Sdk

open Fs

-- ==================================================== statement vocabulary

/-- The event without the times that are measured. -/
def Event.untimed (e : Event) : Event :=
  { e with data := e.data.withoutWallClock.withoutLatency }

/-- The keys such a time is under. -/
def isMeasured (key : String) : Bool :=
  key = "latency_ms" || key = "wall_clock_seconds"

/-- The same of an event that was loaded. -/
def EventEnvelope.untimed (e : JsonEvent) : JsonEvent :=
  { e with data := e.data.filter fun entry => !isMeasured entry.1 }

/-- The timestamps of the events, in order. -/
def Trace.pairs {δ : Type} (trace : Trace δ) : List (String × Int) :=
  trace.events.map fun e => (e.ts, e.monotonicNs)

-- ================================================================ one event

section

variable {float : Rat → Json}

/-- What is measured is under those keys and no others. -/
theorem dict_untimed (data : EventData) :
    (data.dict float).filter (fun entry => !isMeasured entry.1)
      = (data.withoutWallClock.withoutLatency.dict float).filter
          fun entry => !isMeasured entry.1 := by
  cases data <;>
    simp [EventData.dict, EventData.withoutWallClock,
      EventData.withoutLatency, isMeasured]

/-- The measured times are all that `untimed` takes out of an event, in memory
or in its JSON. -/
theorem json_untimed (e : Event) :
    (e.json float).untimed = (e.untimed.json float).untimed := by
  unfold EventEnvelope.untimed Event.json
  rw [dict_untimed e.data]
  rfl

/-- Traces that differ in them alone do so in their JSON. -/
theorem json_untimed_congr {events events' : List Event}
    (h : events.map Event.untimed = events'.map Event.untimed) :
    (events.map fun e => (e.json float).untimed)
      = events'.map fun e => (e.json float).untimed := by
  have hjson := congrArg (List.map fun e => (Event.json float e).untimed) h
  rw [List.map_map, List.map_map] at hjson
  have hsame : (fun e : Event => (e.json float).untimed)
      = (fun e => (Event.json float e).untimed) ∘ Event.untimed :=
    funext json_untimed
  rw [hsame]
  exact hjson

end

-- ================================================== two writers in step

section

variable {wall : Nat → String} {mono : Nat → Int}
  {pairs : List (String × Int)} {reads idx : Nat} {w w' : Writer}

theorem next_untimed (closing : Measured) (m n : Int) :
    (w.next (closing.data m)).untimed = (w.next (closing.data n)).untimed := by
  cases closing <;> rfl

/-- An act is replayed as it was recorded, but for what it measures. -/
theorem Follows.untimed_act (h : Follows wall mono pairs reads idx w w')
    (act : Act) (hpairs : pairsOf (act.newLines w) <+: pairs.drop idx) :
    (act.newLines w').map Event.untimed
      = (act.newLines w).map Event.untimed := by
  cases act with
  | setStep step => rfl
  | read => rfl
  | line data =>
      have hhead : [] ++ w.clock.stamp :: [] <+: pairs.drop idx := hpairs
      rw [Act.newLines, Act.newLines, h.next (pairAt_eq_of_below hhead)]
  | timed inner closing =>
      obtain ⟨hpair, -⟩ := h.closing_stamp hpairs
      have hinner : w'.afterRead.nextAll inner = w.afterRead.nextAll inner := by
        refine h.afterRead.nextAll (List.IsPrefix.trans ?_ hpairs)
        rw [Act.newLines, pairsOf, pairsOf, List.map_append]
        exact List.prefix_append ..
      have hclosing : (w'.closing inner closing).untimed
          = (w.closing inner closing).untimed := by
        rw [EventWriter.closing, EventWriter.closing, next_untimed _ _ 0,
          next_untimed _ (elapsedMs w.clock.time _) 0]
        have hstop := (h.afterRead.emittedAll inner).afterRead
        rw [hstop.next hpair]
      rw [Act.newLines, Act.newLines, hinner, List.map_append,
        List.map_append, List.map_singleton, List.map_singleton, hclosing]

/-- A writer that follows another writes what it wrote, up to measured times.
-/
theorem Follows.untimed (h : Follows wall mono pairs reads idx w w')
    (script : List Act)
    (hpairs : pairsOf (newLines script w) <+: pairs.drop idx) :
    (newLines script w').map Event.untimed
      = (newLines script w).map Event.untimed := by
  induction script generalizing reads idx w w' with
  | nil => rfl
  | cons act script ih =>
      rw [newLines, pairsOf, List.map_append] at hpairs
      have hact := h.untimed_act act ((List.prefix_append _ _).trans hpairs)
      have hdrop := prefix_drop hpairs
      rw [List.length_map, Act.newLines_length] at hdrop
      rw [newLines, newLines, List.map_append, List.map_append, hact,
        ih (h.act act) hdrop]

end

-- ============================================================ the replay

section

variable {ω : Type} (inv : Invocation ω) (wallStart wallEnd : Rat)
  (world : ω)

/-- The lines of a run on a clock that lasts. -/
theorem eventsOf_newLines {clock : Clock}
    (h : clock.Lasts (lineCount ((transcriptOf inv world).script inv))) :
    eventsOf inv world clock
      = newLines ((transcriptOf inv world).script inv)
          (.new inv.taskId clock) := by
  rw [eventsOf_eq inv h, perform_lines]
  rfl

/-- A recording lasts for a replay. -/
theorem replay_lasts (wall : Nat → String) (mono : Nat → Int) (reads : Nat) :
    (Clock.replay (pairsOf (eventsOf inv world (.system wall mono reads)))
      0).Lasts (lineCount ((transcriptOf (inv.atWall wallStart wallEnd)
        world).script (inv.atWall wallStart wallEnd))) := by
  have htr : transcriptOf (inv.atWall wallStart wallEnd) world
      = transcriptOf inv world :=
    transcript_atWall inv wallStart wallEnd ..
  rw [htr, lineCount_atWall,
    eventsOf_newLines inv world (Clock.lasts_system wall mono reads _)]
  show 0 + _ ≤ (pairsOf _).length
  rw [pairsOf, List.length_map, newLines_length, Nat.zero_add]

/-- A replay of a recording emits what was recorded, but for the times it
measures. -/
theorem replay_untimed (wall : Nat → String) (mono : Nat → Int)
    (reads : Nat) :
    (eventsOf (inv.atWall wallStart wallEnd) world
        (.replay (pairsOf (eventsOf inv world (.system wall mono reads)))
          0)).map Event.untimed
      = (eventsOf inv world (.system wall mono reads)).map Event.untimed := by
  have htr : transcriptOf (inv.atWall wallStart wallEnd) world
      = transcriptOf inv world :=
    transcript_atWall inv wallStart wallEnd ..
  have hevents := eventsOf_newLines inv world
    (Clock.lasts_system wall mono reads _)
  rw [eventsOf_newLines _ world
    (replay_lasts inv wallStart wallEnd world wall mono reads), htr]
  generalize hpairs : pairsOf (eventsOf inv world (.system wall mono reads))
    = pairs
  rw [hevents] at hpairs ⊢
  have hstart : Follows wall mono pairs reads 0
      (.new inv.taskId (.system wall mono reads))
      (.new inv.taskId (.replay pairs 0)) := ⟨rfl, rfl, rfl, rfl⟩
  have hsame := hstart.untimed ((transcriptOf inv world).script inv)
    (by rw [hpairs]; exact List.prefix_refl _)
  -- the script at another time differs in that time only
  have hother := congrArg (List.map fun e : Event =>
      { e with data := e.data.withoutLatency })
    (newLines_atWall inv wallStart wallEnd (transcriptOf inv world)
      (.new inv.taskId (.replay pairs 0)))
  simp only [List.map_map] at hother
  exact hother.trans hsame

/-- Every run writes a line, and the first has its task's id. -/
theorem eventsOf_taskId (wall : Nat → String) (mono : Nat → Int)
    (reads : Nat) :
    ((eventsOf inv world (.system wall mono reads)).head?.map
      EventEnvelope.taskId) = some inv.taskId := by
  rw [eventsOf_newLines inv world (Clock.lasts_system wall mono reads _)]
  rfl

end

-- ========================================================= the trace file

section

variable {t : JsonText} {d : Disk} {dir path : Location}
  {bytes : List UInt8}

/-- A trace is found by its file, and by the directory that is in. -/
theorem eventsPath_ok (hsound : d.Sound)
    (hfile : d.tree.node (dir ++ ["events.jsonl"]) = some (.file bytes))
    (hpath : path = dir ∨ path = dir ++ ["events.jsonl"]) :
    eventsPath path d = (.ok (dir ++ ["events.jsonl"]), d.called) := by
  unfold eventsPath
  rw [Py.bind_ok (isDir_ok hsound)]
  cases hpath with
  | inl hdir =>
      have hnode : d.tree.node dir = some .directory :=
        d.tree.closed dir "events.jsonl" (by simp [hfile])
      rw [hdir, hnode]
      rfl
  | inr hself =>
      rw [hself, hfile]
      rfl

/-- By either name the same trace is loaded. -/
theorem loadTrace_named (hsound : d.Sound)
    (hfile : d.tree.node (dir ++ ["events.jsonl"]) = some (.file bytes))
    (hpath : path = dir ∨ path = dir ++ ["events.jsonl"]) :
    (loadTrace t path d).1 = (parseEvents t bytes).map Trace.of := by
  have hsame : loadTrace t path d
      = loadTrace t (dir ++ ["events.jsonl"]) d := by
    unfold loadTrace
    rw [Py.bind_ok (eventsPath_ok hsound hfile hpath),
      Py.bind_ok (eventsPath_ok hsound hfile (.inr rfl))]
  rw [hsame, loadTrace_file hsound hfile]

/-- A trace that was written is loaded as the events. -/
theorem loadTrace_written (hints : KeepsInts t.int) {float : Rat → Json}
    {events : List Event}
    (hwrites : ∀ e ∈ events, t.Writes (e.json float).dump)
    (hsound : d.Sound)
    (hfile : d.tree.node (dir ++ ["events.jsonl"])
      = some (.file (traceBytes float t events)))
    (hpath : path = dir ∨ path = dir ++ ["events.jsonl"]) :
    (loadTrace t path d).1
      = .ok (Trace.of (events.map (Event.json float))) := by
  have hlines : ∀ e ∈ events.map (Event.json float), t.Writes e.dump := by
    intro e he
    obtain ⟨event, hevent, rfl⟩ := List.mem_map.mp he
    exact hwrites event hevent
  rw [loadTrace_named hsound hfile hpath, traceBytes,
    parseEvents_complete hints hlines]
  rfl

end

/-- A loaded trace holds the pairs the events carried. -/
theorem pairs_of_json (float : Rat → Json) (events : List Event) :
    (Trace.of (events.map (Event.json float))).pairs = pairsOf events := by
  rw [Trace.pairs, pairsOf, Trace.of, List.map_map]
  rfl

theorem taskId_of_json (float : Rat → Json) {events : List Event}
    {taskId : String}
    (h : events.head?.map EventEnvelope.taskId = some taskId) :
    (Trace.of (events.map (Event.json float))).taskId = taskId := by
  cases events with
  | nil => cases h
  | cons e events => exact Option.some.inj h

/-- The trace of a run is loaded as its events, by its file or the directory
that is in. A second run, at another time of the OS clock, on the timestamps
that were loaded comes to its end, and emits what was loaded but for the
times it measures. -/
theorem recording_replays {ω : Type} (inv : Invocation ω)
    (wallStart wallEnd : Rat) (world : ω) (wall : Nat → String)
    (mono : Nat → Int) (reads : Nat) {t : JsonText}
    (hints : KeepsInts t.int) {float : Rat → Json}
    (hwrites : ∀ e ∈ eventsOf inv world (.system wall mono reads),
      t.Writes (e.json float).dump)
    {d : Disk} (hsound : d.Sound) {dir path : Location}
    (hfile : d.tree.node (dir ++ ["events.jsonl"]) = some (.file
      (traceBytes float t (eventsOf inv world (.system wall mono reads)))))
    (hpath : path = dir ∨ path = dir ++ ["events.jsonl"]) :
    ∃ trace, (loadTrace t path d).1 = .ok trace ∧
      trace.taskId = inv.taskId ∧
      trace.events = (eventsOf inv world (.system wall mono reads)).map
        (Event.json float) ∧
      (∃ done, (execute (inv.atWall wallStart wallEnd) world
        (.replay trace.pairs 0)).1 = .ok done) ∧
      (eventsOf (inv.atWall wallStart wallEnd) world
          (.replay trace.pairs 0)).map (fun e => (e.json float).untimed)
        = trace.events.map EventEnvelope.untimed := by
  refine ⟨_, loadTrace_written hints hwrites hsound hfile hpath,
    taskId_of_json float (eventsOf_taskId inv world wall mono reads), rfl, ?_⟩
  rw [pairs_of_json]
  constructor
  · exact ⟨_, execute_returns _
      (replay_lasts inv wallStart wallEnd world wall mono reads)⟩
  · refine (json_untimed_congr (replay_untimed inv wallStart wallEnd world
      wall mono reads)).trans ?_
    rw [Trace.of, List.map_map]
    rfl

-- ================================================================ examples

/-- The run of a task without a workspace whose model is done at once. -/
def doneAtOnce : List Event :=
  eventsOf (scriptedTask "scripted" [saysDone]) 0 everyMs

/-- The floats of this run are zeros. -/
def zeroFloat (_ : Rat) : Json :=
  .float ⟨['0', '.', '0'], by simp [isNumberChar], ⟨'.', by simp, .inl rfl⟩⟩

def doneText : JsonText :=
  knowing (doneAtOnce.map fun e => (e.json zeroFloat).dump)

theorem doneText_writes : ∀ e ∈ doneAtOnce,
    doneText.Writes (e.json zeroFloat).dump := by
  intro e he
  have hshape : ∀ e ∈ doneAtOnce,
      ('\n' ∉ Json.render (e.json zeroFloat).dump
        ∧ '\r' ∉ Json.render (e.json zeroFloat).dump)
      ∧ Json.render (e.json zeroFloat).dump
        = '{' :: inside (Json.render (e.json zeroFloat).dump) ++ ['}'] := by
    decide +kernel
  exact knowing_writes (List.mem_map_of_mem he) (hshape e he).1
    (hshape e he).2

/-- From the root, where the file is, an hour later. -/
theorem recording_replays_demo :
    ∃ trace, (loadTrace doneText [] (logDisk
        (traceBytes zeroFloat doneText doneAtOnce))).1 = .ok trace ∧
      trace.taskId = "task-1" ∧ trace.events.length = 6 ∧
      (eventsOf ((scriptedTask "scripted" [saysDone]).atWall 3600 3601) 0
          (.replay trace.pairs 0)).map (fun e => (e.json zeroFloat).untimed)
        = trace.events.map EventEnvelope.untimed := by
  obtain ⟨trace, hload, htask, hevents, -, hsame⟩ := recording_replays
    (scriptedTask "scripted" [saysDone]) 3600 3601 0 _ everyMsNs 0
    (fun _ => rfl) doneText_writes (fun _ => rfl)
    (logDisk_file (traceBytes zeroFloat doneText doneAtOnce))
    (.inl (rfl : ([] : Location) = []))
  refine ⟨trace, hload, htask, ?_, hsame⟩
  have hlength : doneAtOnce.length = 6 := by decide +kernel
  rw [hevents, List.length_map]
  exact hlength

end AgentAnvil.Sdk
