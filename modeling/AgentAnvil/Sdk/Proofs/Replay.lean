/-
Replay: a second run on the timestamps of the first.

A replay clock gives each event the pair it had the first time, so the
second run has the same events as the first, with one difference: a
latency is measured between readings that are not those of the first run.
Both readings of a section without events give the pair of its closing
event, and those of a section with events the pairs of its first and its
closing event. `TimesAgree` says that the milliseconds come out the same;
`replay_reproduces` that the events do just when they do.

The proof goes through the script with both writers side by side
(`Follows`).
-/
import AgentAnvil.Sdk.Transcript

namespace AgentAnvil.Sdk

-- ================================================== what a replay is given

/-- The `(ts, monotonic_ns)` pairs of a recording. -/
def pairsOf (events : List Event) : List (String × Int) :=
  events.map fun e => (e.ts, e.monotonicNs)

def EventData.withoutWallClock : EventData → EventData
  | .agentDone outcome totalSteps totalCostUsd totalInputTokens
      totalOutputTokens _ =>
      .agentDone outcome totalSteps totalCostUsd totalInputTokens
        totalOutputTokens 0
  | data => data

/-- The event without the one field that is read from the OS clock. -/
def Event.withoutWallClock (e : Event) : Event :=
  { e with data := e.data.withoutWallClock }

/-- Readings of the clock an act takes. -/
def Act.readCount : Act → Nat
  | setStep _ => 0
  | line _ => 2
  | read => 1
  | timed inner _ => 1 + 2 * inner.length + 1 + 2

/-- The next reading is number `reads`. In a timed section, the milliseconds
between the two readings it is timed with are those between the timestamps
of its first and its closing event, or none where the closing event is the
only one. -/
def Act.TimesAgree (mono : Nat → Int) (reads : Nat) : Act → Prop
  | timed inner _ =>
      let stop := reads + 1 + 2 * inner.length
      elapsedMs (mono reads) (mono stop)
        = if inner = [] then 0
          else elapsedMs (mono (reads + 2)) (mono (stop + 2))
  | setStep _ => True
  | line _ => True
  | read => True

/-- The times agree in every section of the script. -/
def TimesAgree (mono : Nat → Int) : Nat → List Act → Prop
  | _, [] => True
  | reads, act :: script =>
      act.TimesAgree mono reads
        ∧ TimesAgree mono (reads + act.readCount) script

-- ==================================================== two writers in step

/-- One writer on a system clock, and one on a replay clock that stands on
its next event. -/
structure Follows (wall : Nat → String) (mono : Nat → Int)
    (pairs : List (String × Int)) (reads idx : Nat) (w w' : Writer) :
    Prop where
  clock : w.clock = .system wall mono reads
  clock' : w'.clock = .replay pairs idx
  taskId : w'.taskId = w.taskId
  step : w'.step = w.step

namespace Follows

variable {wall : Nat → String} {mono : Nat → Int}
  {pairs : List (String × Int)} {reads idx : Nat} {w w' : Writer}

/-- An event takes two readings of the system clock, and one pair of the
replay clock. -/
theorem emitted (h : Follows wall mono pairs reads idx w w')
    (data : EventData) :
    Follows wall mono pairs (reads + 2) (idx + 1) (w.emitted data)
      (w'.emitted data) where
  clock := by
    show w.clock.afterEmit = _
    rw [h.clock]
    rfl
  clock' := by
    show w'.clock.afterEmit = _
    rw [h.clock']
    rfl
  taskId := h.taskId
  step := h.step

theorem afterRead (h : Follows wall mono pairs reads idx w w') :
    Follows wall mono pairs (reads + 1) idx w.afterRead w'.afterRead where
  clock := by
    show w.clock.afterRead = _
    rw [h.clock]
    rfl
  clock' := by
    show w'.clock.afterRead = _
    rw [h.clock']
    rfl
  taskId := h.taskId
  step := h.step

theorem emittedAll (h : Follows wall mono pairs reads idx w w')
    (datas : List EventData) :
    Follows wall mono pairs (reads + 2 * datas.length) (idx + datas.length)
      (w.emittedAll datas) (w'.emittedAll datas) := by
  induction datas generalizing reads idx w w' with
  | nil => exact h
  | cons data datas ih =>
      have hrest := ih (h.emitted data)
      have hreads : reads + 2 + 2 * datas.length
          = reads + 2 * (datas.length + 1) := by omega
      have hidx : idx + 1 + datas.length = idx + (datas.length + 1) := by
        omega
      rw [hreads, hidx] at hrest
      exact hrest

/-- Whatever the act, the two writers stay in step. -/
theorem act (h : Follows wall mono pairs reads idx w w') (act : Act) :
    Follows wall mono pairs (reads + act.readCount) (idx + act.lineCount)
      (act.perform w) (act.perform w') := by
  cases act with
  | setStep step =>
      exact ⟨h.clock, h.clock', h.taskId, rfl⟩
  | line data => exact h.emitted data
  | read => exact h.afterRead
  | timed inner closing =>
      -- the two closing lines may differ, the clocks after them do not
      have hstop := (h.afterRead.emittedAll inner).afterRead
      have hreads : reads + 1 + 2 * inner.length + 1 + 2
          = reads + (1 + 2 * inner.length + 1 + 2) := by omega
      have hclosing := hstop.emitted (closing.data 0)
      rw [hreads] at hclosing
      exact ⟨hclosing.clock, hclosing.clock', hclosing.taskId,
        hclosing.step⟩

/-- The replayed event is the recorded one, where the replay clock stands
on its timestamps. -/
theorem next (h : Follows wall mono pairs reads idx w w') {data : EventData}
    (hpair : Clock.pairAt pairs idx = w.clock.stamp) :
    w'.next data = w.next data := by
  have hstamp : w'.clock.stamp = w.clock.stamp := by
    rw [h.clock', ← hpair]
    rfl
  unfold EventWriter.next EventWriter.envelope
  rw [hstamp, h.taskId, h.step]

end Follows

-- ======================================================== the recording

section

variable {pairs rest : List (String × Int)} {idx : Nat}

/-- A recording that goes on with these pairs has the next of them where it
stands. -/
theorem pairAt_eq_of_below {before : List (String × Int)}
    {pair : String × Int}
    (h : before ++ pair :: rest <+: pairs.drop idx) :
    Clock.pairAt pairs (idx + before.length) = pair := by
  obtain ⟨after, hafter⟩ := h
  have hget : (pairs.drop idx)[before.length]? = some pair := by
    rw [← hafter, List.append_assoc,
      List.getElem?_append_right (Nat.le_refl _), Nat.sub_self]
    rfl
  rw [List.getElem?_drop] at hget
  unfold Clock.pairAt
  rw [hget]
  rfl

/-- What follows the pairs used so far starts where they end. -/
theorem prefix_drop {before : List (String × Int)}
    (h : before ++ rest <+: pairs.drop idx) :
    rest <+: pairs.drop (idx + before.length) := by
  obtain ⟨after, hafter⟩ := h
  refine ⟨after, ?_⟩
  rw [← List.drop_drop, ← hafter, List.append_assoc, List.drop_left]

end

section

variable {wall : Nat → String} {mono : Nat → Int}
  {pairs : List (String × Int)} {reads idx : Nat} {w w' : Writer}

/-- Events written under the recorded pairs are the recorded events. -/
theorem Follows.nextAll (h : Follows wall mono pairs reads idx w w')
    {datas : List EventData}
    (hpairs : pairsOf (w.nextAll datas) <+: pairs.drop idx) :
    w'.nextAll datas = w.nextAll datas := by
  induction datas generalizing reads idx w w' with
  | nil => rfl
  | cons data datas ih =>
      have hhead : [] ++ w.clock.stamp :: pairsOf ((w.emitted data).nextAll
          datas) <+: pairs.drop idx := hpairs
      have htail : [w.clock.stamp] ++ pairsOf ((w.emitted data).nextAll
          datas) <+: pairs.drop idx := hpairs
      rw [EventWriter.nextAll, EventWriter.nextAll,
        h.next (pairAt_eq_of_below hhead),
        ih (h.emitted data) (prefix_drop htail)]

/-- Two readings of one pair measure nothing. -/
theorem elapsedMs_self (t : Int) : elapsedMs t t = 0 := by
  unfold elapsedMs
  rw [Int.sub_self]
  rfl

/-- The stamp of the closing line, and the pair recorded for it. -/
theorem Follows.closing_stamp (h : Follows wall mono pairs reads idx w w')
    {inner : List EventData} {closing : Measured}
    (hpairs : pairsOf ((Act.timed inner closing).newLines w)
      <+: pairs.drop idx) :
    Clock.pairAt pairs (idx + inner.length)
        = (w.afterRead.emittedAll inner).afterRead.clock.stamp
      ∧ (w.afterRead.emittedAll inner).afterRead.clock.stamp.2
        = mono (reads + 1 + 2 * inner.length + 2) := by
  constructor
  · rw [Act.newLines, pairsOf, List.map_append] at hpairs
    have hlast := pairAt_eq_of_below hpairs
    rwa [List.length_map, EventWriter.nextAll_length] at hlast
  · rw [(h.afterRead.emittedAll inner).afterRead.clock]
    rfl

/-- What a replay measures. -/
theorem Follows.latency (h : Follows wall mono pairs reads idx w w')
    {inner : List EventData} {closing : Measured}
    (hpairs : pairsOf ((Act.timed inner closing).newLines w)
      <+: pairs.drop idx) :
    elapsedMs w'.clock.time (w'.afterRead.emittedAll inner).clock.time
      = if inner = [] then 0
        else elapsedMs (mono (reads + 2))
          (mono (reads + 1 + 2 * inner.length + 2)) := by
  obtain ⟨hpair, hstamp⟩ := h.closing_stamp hpairs
  have hstop : (w'.afterRead.emittedAll inner).clock.time
      = mono (reads + 1 + 2 * inner.length + 2) := by
    rw [(h.afterRead.emittedAll inner).clock', ← hstamp, ← hpair]
    rfl
  rw [hstop]
  cases inner with
  | nil =>
      have hstart : w'.clock.time = (Clock.pairAt pairs idx).2 := by
        rw [h.clock']
        rfl
      rw [if_pos rfl, hstart, ← hstamp]
      have hpair' : Clock.pairAt pairs idx = _ := hpair
      rw [hpair']
      exact elapsedMs_self _
  | cons data inner =>
      have hstart : w'.clock.time = mono (reads + 2) := by
        have hfirst : [] ++ w.afterRead.clock.stamp :: pairsOf
            (((w.afterRead.emitted data).nextAll inner)
              ++ [w.closing (data :: inner) closing])
            <+: pairs.drop idx := hpairs
        rw [h.clock', Clock.time, ← Nat.add_zero idx]
        have hpairAt := pairAt_eq_of_below hfirst
        rw [List.length_nil] at hpairAt
        rw [hpairAt, h.afterRead.clock]
        rfl
      rw [if_neg (List.cons_ne_nil _ _), hstart]

/-- A closing line tells its latency. -/
theorem closing_inj (closing : Measured) (m n : Int) :
    (w.next (closing.data m)).withoutWallClock
        = (w.next (closing.data n)).withoutWallClock ↔ m = n := by
  have hkeep : ∀ ms, (closing.data ms).withoutWallClock = closing.data ms := by
    intro ms
    cases closing with
    | llmCallEnd => rfl
    | toolCallEnd => rfl
  constructor
  · intro h
    have hdata := congrArg EventEnvelope.data h
    have hdata' : (closing.data m).withoutWallClock
        = (closing.data n).withoutWallClock := hdata
    rw [hkeep, hkeep] at hdata'
    exact closing.data_injective hdata'
  · intro h
    rw [h]

/-- An act is replayed as it was recorded just when its times agree. -/
theorem Follows.replayed_act (h : Follows wall mono pairs reads idx w w')
    (act : Act) (hpairs : pairsOf (act.newLines w) <+: pairs.drop idx) :
    (act.newLines w').map Event.withoutWallClock
        = (act.newLines w).map Event.withoutWallClock
      ↔ act.TimesAgree mono reads := by
  cases act with
  | setStep step => exact ⟨fun _ => trivial, fun _ => rfl⟩
  | read => exact ⟨fun _ => trivial, fun _ => rfl⟩
  | line data =>
      have hhead : [] ++ w.clock.stamp :: [] <+: pairs.drop idx := hpairs
      refine ⟨fun _ => trivial, fun _ => ?_⟩
      rw [Act.newLines, Act.newLines, h.next (pairAt_eq_of_below hhead)]
  | timed inner closing =>
      obtain ⟨hpair, -⟩ := h.closing_stamp hpairs
      have hlatency := h.latency hpairs
      have hinner : w'.afterRead.nextAll inner = w.afterRead.nextAll inner := by
        refine h.afterRead.nextAll (List.IsPrefix.trans ?_ hpairs)
        rw [Act.newLines, pairsOf, pairsOf, List.map_append]
        exact List.prefix_append ..
      have hreplayed : w'.closing inner closing
          = (w.afterRead.emittedAll inner).afterRead.next (closing.data
            (if inner = [] then 0
              else elapsedMs (mono (reads + 2))
                (mono (reads + 1 + 2 * inner.length + 2)))) := by
        rw [EventWriter.closing, hlatency]
        exact (h.afterRead.emittedAll inner).afterRead.next hpair
      have hrecorded : w.closing inner closing
          = (w.afterRead.emittedAll inner).afterRead.next (closing.data
            (elapsedMs (mono reads)
              (mono (reads + 1 + 2 * inner.length)))) := by
        rw [EventWriter.closing, (h.afterRead.emittedAll inner).clock, h.clock]
        rfl
      rw [Act.newLines, Act.newLines, hinner, List.map_append,
        List.map_append, List.append_right_inj, List.map_singleton,
        List.map_singleton, List.singleton_inj, hreplayed, hrecorded,
        closing_inj]
      exact eq_comm

/-- A script is replayed as it was recorded just when its times agree. -/
theorem Follows.replayed (h : Follows wall mono pairs reads idx w w')
    (script : List Act)
    (hpairs : pairsOf (newLines script w) <+: pairs.drop idx) :
    (newLines script w').map Event.withoutWallClock
        = (newLines script w).map Event.withoutWallClock
      ↔ TimesAgree mono reads script := by
  induction script generalizing reads idx w w' with
  | nil => exact ⟨fun _ => trivial, fun _ => rfl⟩
  | cons act script ih =>
      rw [newLines, pairsOf, List.map_append] at hpairs
      have hact := h.replayed_act act
        ((List.prefix_append _ _).trans hpairs)
      have hdrop := prefix_drop hpairs
      rw [List.length_map, Act.newLines_length] at hdrop
      have hrest := ih (h.act act) hdrop
      rw [TimesAgree, ← hact, ← hrest, newLines, newLines, List.map_append,
        List.map_append]
      constructor
      · intro heq
        refine List.append_inj heq ?_
        rw [List.length_map, List.length_map, Act.newLines_length,
          Act.newLines_length]
      · rintro ⟨hhead, htail⟩
        rw [hhead, htail]

end

-- ============================================================ the replay

section

variable {ω : Type} (inv : Invocation ω)

/-- The same invocation at another time of the OS clock. -/
def Invocation.atWall (wallStart wallEnd : Rat) : Invocation ω :=
  { inv with wallStart, wallEnd }

variable (wallStart wallEnd : Rat)

/-- The transcript does not depend on the wall clock: what the client and the
tools are given does not. -/
theorem transcript_atWall (remaining : Nat) (messages : List Message)
    (world : ω) :
    transcript (inv.atWall wallStart wallEnd) remaining messages world
      = transcript inv remaining messages world := by
  induction remaining generalizing messages world with
  | zero => rfl
  | succ remaining ih =>
      simp only [transcript, ih]
      rfl

theorem turnsScript_atWall (k : Nat) (ts : List Turn) :
    turnsScript (inv.atWall wallStart wallEnd) k ts
      = turnsScript inv k ts := by
  induction ts generalizing k with
  | nil => rfl
  | cons t ts ih =>
      rw [turnsScript, turnsScript, ih]
      rfl

theorem body_atWall (tr : Transcript ω) (k : Nat) :
    tr.body (inv.atWall wallStart wallEnd) k = tr.body inv k := by
  unfold Transcript.body
  rw [turnsScript_atWall]
  cases tr.ending with
  | stopped stopReason => rfl
  | maxSteps => rfl
  | crashed messages exc => rfl

/-- At another time, a script writes the same, but for that time. -/
theorem newLines_atWall (tr : Transcript ω) (w : Writer) :
    (newLines (tr.script (inv.atWall wallStart wallEnd)) w).map
        Event.withoutWallClock
      = (newLines (tr.script inv) w).map Event.withoutWallClock := by
  have hfront : [Act.setStep 0, .line (Transcript.startData
        (inv.atWall wallStart wallEnd))]
          ++ tr.body (inv.atWall wallStart wallEnd) 0
      = [.setStep 0, .line (Transcript.startData inv)] ++ tr.body inv 0 := by
    rw [body_atWall]
    rfl
  unfold Transcript.script
  rw [hfront, newLines_append, newLines_append _ [.line (tr.doneData inv)],
    List.map_append, List.map_append]
  rfl

/-- Only the events around the steps tell the wall clock, so the script is of
one length. -/
theorem lineCount_atWall (tr : Transcript ω) :
    lineCount (tr.script (inv.atWall wallStart wallEnd))
      = lineCount (tr.script inv) := by
  unfold Transcript.script
  rw [body_atWall]
  simp only [lineCount_append]
  rfl

/-- A second run, at another time of the OS clock, on the timestamps of
these events. -/
def replay (world : ω) (events : List Event) :
    Except Exc EventData × Frame ω :=
  execute (inv.atWall wallStart wallEnd) world (.replay (pairsOf events) 0)

/-- A replay of a run comes to its end, and emits what the run emitted just
when the times agree. -/
theorem replay_reproduces (world : ω) (wall : Nat → String)
    (mono : Nat → Int) (reads : Nat) :
    (∃ done, (replay inv wallStart wallEnd world
        (eventsOf inv world (.system wall mono reads))).1 = .ok done)
      ∧ ((replay inv wallStart wallEnd world (eventsOf inv world
              (.system wall mono reads))).2.runtime.events.lines.map
              Event.withoutWallClock
            = (eventsOf inv world (.system wall mono reads)).map
              Event.withoutWallClock
          ↔ TimesAgree mono reads ((transcriptOf inv world).script inv)) := by
  have hsystem := Clock.lasts_system wall mono reads
    (lineCount ((transcriptOf inv world).script inv))
  have hevents : eventsOf inv world (.system wall mono reads)
      = newLines ((transcriptOf inv world).script inv)
        (.new inv.taskId (.system wall mono reads)) := by
    rw [eventsOf_eq inv hsystem, perform_lines]
    rfl
  have htr : transcriptOf (inv.atWall wallStart wallEnd) world
      = transcriptOf inv world :=
    transcript_atWall inv wallStart wallEnd ..
  rw [hevents]
  generalize hpairs : pairsOf (newLines ((transcriptOf inv world).script inv)
    (.new inv.taskId (.system wall mono reads))) = pairs
  have hlast : (Clock.replay pairs 0).Lasts (lineCount ((transcriptOf
      (inv.atWall wallStart wallEnd) world).script
      (inv.atWall wallStart wallEnd))) := by
    rw [htr, lineCount_atWall]
    show 0 + _ ≤ pairs.length
    rw [← hpairs, pairsOf, List.length_map, newLines_length, Nat.zero_add]
  have hreplayed : eventsOf (inv.atWall wallStart wallEnd) world
      (.replay pairs 0) = newLines ((transcriptOf inv world).script
        (inv.atWall wallStart wallEnd)) (.new inv.taskId (.replay pairs 0)) := by
    rw [eventsOf_eq _ hlast, perform_lines, htr]
    rfl
  rw [replay, hpairs]
  constructor
  · exact ⟨_, execute_returns _ hlast⟩
  · show (eventsOf _ _ _).map _ = _ ↔ _
    rw [hreplayed, newLines_atWall]
    have hstart : Follows wall mono pairs reads 0
        (.new inv.taskId (.system wall mono reads))
        (.new inv.taskId (.replay pairs 0)) := ⟨rfl, rfl, rfl, rfl⟩
    refine hstart.replayed _ ?_
    rw [hpairs]
    exact List.prefix_refl _

end

/-- The latency an event reports. -/
def EventData.latencyMs? : EventData → Option Int
  | .llmCallEnd _ _ _ _ _ _ latencyMs => some latencyMs
  | .toolCallEnd _ _ _ _ latencyMs => some latencyMs
  | _ => none

/-- A call of the model that took a millisecond took none when it is
replayed. -/
theorem replay_loses_latency :
    Monotone everyMsNs
      ∧ (replay (scriptedTask "scripted" [saysDone]) 0 0 0 (eventsOf
          (scriptedTask "scripted" [saysDone]) 0
          everyMs)).2.runtime.events.lines.map Event.withoutWallClock
        ≠ (eventsOf (scriptedTask "scripted" [saysDone]) 0 everyMs).map
          Event.withoutWallClock := by
  refine ⟨everyMsNs_monotone, ?_⟩
  intro h
  have hlatencies := congrArg
    (List.filterMap fun e : Event => e.data.latencyMs?) h
  revert hlatencies
  decide +kernel

end AgentAnvil.Sdk
