/-
The grammar of the event stream.

`IsRun` reads a list of events as the loop's documentation orders them: one
`agent_start`, a block for each step, nothing or one block cut short by the
client, and `agent_done`. `events_are_run` finds every run of the loop in
it, by following the transcript: a tool call's script writes a tool call, a
turn's a block, an ending's nothing or a block cut short.

The timestamps are an invariant of the writer over the acts of the script
(`Ordered`), whatever the script and whatever the clock, as long as it lasts.
-/
import AgentAnvil.Sdk.Transcript

namespace AgentAnvil.Sdk

-- ========================================================== the grammar

/-- An event of step `k` with this `data`, under its type. -/
def Carries (k : Int) (data : EventData) (e : Event) : Prop :=
  e.step = k ∧ e.type = data.type ∧ e.data = data

inductive IsToolCall (k : Int) : List Event → Prop
  | intro {start stop : Event} {mutations : List Event}
      {toolName toolCallId result : String} {args : Json} {truncated : Bool}
      {exitCode latencyMs : Int}
      (hstart : Carries k (.toolCallStart toolName args toolCallId) start)
      (hmutations : ∀ e ∈ mutations, ∃ m : FileMutation, Carries k m.data e)
      (hstop : Carries k
        (.toolCallEnd toolCallId result truncated exitCode latencyMs) stop) :
      IsToolCall k (start :: (mutations ++ [stop]))

/-- The events of a step: both events of the model call with the same
request hash, then the tool calls. -/
inductive IsBlock (k : Int) : List Event → Prop
  | intro {stepStart callStart callEnd stepEnd : Event}
      {toolCalls : List (List Event)}
      {provider model requestHash responseHash stopReason : String}
      {messagesCount : Nat} {params : List (String × String)}
      {inputTokens outputTokens latencyMs : Int} {costUsd : Rat}
      (hstepStart : Carries k (.agentStepStart k) stepStart)
      (hcallStart : Carries k (.llmCallStart provider model requestHash
        messagesCount params) callStart)
      (hcallEnd : Carries k (.llmCallEnd requestHash responseHash inputTokens
        outputTokens stopReason costUsd latencyMs) callEnd)
      (htoolCalls : ∀ es ∈ toolCalls, IsToolCall k es)
      (hstepEnd : Carries k (.agentStepEnd k) stepEnd) :
      IsBlock k ([stepStart, callStart, callEnd] ++ toolCalls.flatten
        ++ [stepEnd])

/-- The events of a step whose client call raised. -/
inductive IsCrash (k : Int) (exc : Exc) : List Event → Prop
  | intro {stepStart callStart error : Event}
      {provider model requestHash : String} {messagesCount : Nat}
      {params : List (String × String)}
      (hstepStart : Carries k (.agentStepStart k) stepStart)
      (hcallStart : Carries k (.llmCallStart provider model requestHash
        messagesCount params) callStart)
      (herror : Carries k (.agentError exc.type exc.message) error) :
      IsCrash k exc [stepStart, callStart, error]

/-- The events of a run that made these calls of the client: with no cut
short block when none of them raised, and otherwise with one, and it was
the last of them that raised. -/
inductive IsRun (calls : List LLMCall) : List Event → Prop
  | intro {start done : Event} {blocks : List (List Event)}
      {last : List Event} {taskId prompt provider model : String}
      {tools : List String} {maxSteps : Int} {outcome : String}
      {totalSteps inputTokens outputTokens : Int} {cost wallClock : Rat}
      (hstart : Carries 0 (.agentStart taskId prompt provider model tools
        maxSteps) start)
      (hblocks : ∀ k (hk : k < blocks.length), IsBlock k blocks[k])
      (hlast : (last = [] ∧ ∀ call ∈ calls, ∃ resp, call.outcome = .ok resp)
        ∨ ∃ exc, IsCrash blocks.length exc last
            ∧ ∃ call, calls.getLast? = some call ∧ call.outcome = .error exc)
      (hdone : done.type = .agentDone ∧ done.data = .agentDone outcome
        totalSteps cost inputTokens outputTokens wallClock) :
      IsRun calls (start :: (blocks.flatten ++ last ++ [done]))

-- =============================================== scripts and their events

variable {ω : Type} (inv : Invocation ω)

/-- An event is of the writer's current step, and its type is its `data`'s. -/
theorem carries_next (w : Writer) (data : EventData) :
    Carries w.step data (w.next data) :=
  ⟨rfl, rfl, rfl⟩

/-- The events of a tool's mutations are of that step, too. -/
theorem carries_nextAll {w : Writer} {ms : List FileMutation} :
    ∀ e ∈ w.nextAll (ms.map FileMutation.data),
      ∃ m : FileMutation, Carries w.step m.data e := by
  induction ms generalizing w with
  | nil =>
      intro e he
      cases he
  | cons m ms ih =>
      intro e he
      rcases List.mem_cons.mp he with rfl | he
      · exact ⟨m, carries_next w m.data⟩
      · exact ih (w := w.emitted m.data) e he

theorem toolCall_step (call : ToolCall) (w : Writer) :
    (perform call.script w).step = w.step := by
  cases call with
  | unavailable use => rfl
  | executed use mutations result => exact emittedAll_step _ _

/-- A tool call that was not available has no mutations; any other has its own
between its two events. -/
theorem toolCall_grammar (call : ToolCall) (w : Writer) :
    IsToolCall w.step (newLines call.script w) := by
  cases call with
  | unavailable use =>
      show IsToolCall w.step (_ :: ([] ++ [_]))
      refine .intro (carries_next w _) ?_
        (carries_next (w.emitted _).afterRead _)
      intro e he
      cases he
  | executed use mutations result =>
      have hstep := emittedAll_step (w.emitted
        (ToolCall.executed use mutations result).startData).afterRead
        (mutations.map FileMutation.data)
      have hlines : newLines (ToolCall.executed use mutations result).script w
          = w.next (ToolCall.executed use mutations result).startData
            :: ((w.emitted (ToolCall.executed use mutations
                result).startData).afterRead.nextAll
                  (mutations.map FileMutation.data)
              ++ [(w.emitted (ToolCall.executed use mutations
                result).startData).closing (mutations.map FileMutation.data)
                  (toolCallEnd use result)]) := by
        simp only [ToolCall.script, newLines, Act.newLines, List.append_nil]
        rfl
      rw [hlines]
      exact .intro (carries_next w _) carries_nextAll
        ⟨hstep, rfl, rfl⟩

/-- The tool calls of a step, by induction: one group of events each. -/
theorem toolCalls_grammar (calls : List ToolCall) (w : Writer) :
    (perform (calls.flatMap ToolCall.script) w).step = w.step
      ∧ ∃ events : List (List Event),
        newLines (calls.flatMap ToolCall.script) w = events.flatten
          ∧ ∀ es ∈ events, IsToolCall w.step es := by
  induction calls generalizing w with
  | nil =>
      refine ⟨rfl, [], rfl, ?_⟩
      intro es hes
      cases hes
  | cons call calls ih =>
      have hstep := toolCall_step call w
      obtain ⟨hrest, events, hevents, hgrammar⟩ := ih (perform call.script w)
      rw [List.flatMap_cons, perform_append, newLines_append]
      refine ⟨hrest.trans hstep, newLines call.script w :: events, ?_, ?_⟩
      · rw [hevents, List.flatten_cons]
      · intro es hes
        rcases List.mem_cons.mp hes with rfl | hes
        · exact toolCall_grammar call w
        · exact hstep ▸ hgrammar es hes

/-- A turn writes a block of its step. -/
theorem turn_grammar (k : Nat) (t : Turn) (w : Writer) :
    IsBlock k (newLines (t.script inv k) w) := by
  have hstart : Carries k (.agentStepStart k)
      (({ w with step := k } : Writer).next (.agentStepStart k)) :=
    carries_next _ _
  obtain ⟨hstep, events, hevents, hgrammar⟩ :=
    toolCalls_grammar t.toolCalls
      (perform [.setStep k, .line (.agentStepStart k),
        .line (llmCallStart inv t.messages), .timed [] (llmCallEnd inv t)] w)
  rw [Turn.script, newLines_append, newLines_append, hevents]
  refine .intro hstart ⟨rfl, rfl, rfl⟩ ⟨rfl, rfl, rfl⟩ hgrammar ?_
  rw [perform_append]
  exact ⟨hstep, rfl, rfl⟩

/-- By induction on the turns: block `i` is of the step `i` after the first.
-/
theorem turns_grammar (k : Nat) (ts : List Turn) (w : Writer) :
    ∃ blocks : List (List Event),
      newLines (turnsScript inv k ts) w = blocks.flatten
        ∧ blocks.length = ts.length
        ∧ ∀ i (hi : i < blocks.length), IsBlock (k + i) blocks[i] := by
  induction ts generalizing k w with
  | nil =>
      refine ⟨[], rfl, rfl, ?_⟩
      intro i hi
      cases hi
  | cons t ts ih =>
      obtain ⟨blocks, hlines, hlength, hblocks⟩ :=
        ih (k + 1) (perform (t.script inv k) w)
      refine ⟨newLines (t.script inv k) w :: blocks, ?_, ?_, ?_⟩
      · rw [turnsScript, newLines_append, hlines, List.flatten_cons]
      · rw [List.length_cons, List.length_cons, hlength]
      · intro i hi
        cases i with
        | zero => exact turn_grammar inv k t w
        | succ i =>
            have hblock := hblocks i (Nat.lt_of_succ_lt_succ hi)
            have hcast : ((k + 1 : Nat) : Int) + i = k + (i + 1 : Nat) := by
              omega
            rw [hcast] at hblock
            exact hblock

/-- Nothing after a stop, and a block cut short after a crash, of the step
that did not come to its end. -/
theorem ending_grammar (tr : Transcript ω) (w : Writer) :
    (newLines (tr.ending.script inv tr.turns.length) w = []
        ∧ ∀ call ∈ tr.calls inv 0, ∃ resp, call.outcome = .ok resp)
      ∨ ∃ exc, IsCrash tr.turns.length exc
          (newLines (tr.ending.script inv tr.turns.length) w)
        ∧ ∃ call, (tr.calls inv 0).getLast? = some call
            ∧ call.outcome = .error exc := by
  have hturns := turnsCalls_ok inv 0 tr.turns
  unfold Transcript.calls
  cases tr.ending with
  | stopped stopReason =>
      refine Or.inl ⟨rfl, ?_⟩
      rwa [Ending.calls, List.append_nil]
  | maxSteps =>
      refine Or.inl ⟨rfl, ?_⟩
      rwa [Ending.calls, List.append_nil]
  | crashed messages exc =>
      refine Or.inr ⟨exc, ?_, _, List.getLast?_concat .., rfl⟩
      exact .intro ⟨rfl, rfl, rfl⟩ ⟨rfl, rfl, rfl⟩ ⟨rfl, rfl, rfl⟩

/-- The script of a transcript writes a run: its blocks are the turns', and
how it ends is told by its calls. -/
theorem script_grammar (tr : Transcript ω) (w : Writer) :
    IsRun (tr.calls inv 0) (newLines (tr.script inv) w) := by
  obtain ⟨blocks, hlines, hlength, hblocks⟩ := turns_grammar inv 0 tr.turns
    (perform [.setStep 0, .line (Transcript.startData inv)] w)
  have hending := ending_grammar inv tr (perform (turnsScript inv 0 tr.turns)
    (perform [.setStep 0, .line (Transcript.startData inv)] w))
  unfold Transcript.script Transcript.body
  rw [newLines_append, newLines_append, newLines_append, hlines, Nat.zero_add]
  refine .intro ⟨rfl, rfl, rfl⟩ ?_ ?_ ⟨rfl, rfl⟩
  · intro k hk
    have hblock := hblocks k hk
    rwa [Nat.cast_zero, zero_add] at hblock
  · rw [hlength]
    exact hending

-- ========================================================= the timestamps

/-- The events so far are in order, and the clock, which does not go back,
has the timestamps of `n` more: if there is one, none so far is later. -/
structure Ordered (n : Nat) (w : Writer) : Prop where
  steady : w.clock.Steady
  lasts : w.clock.Lasts n
  sorted : (w.lines.map EventEnvelope.monotonicNs).Pairwise (· ≤ ·)
  last : 0 < n → ∀ e ∈ w.lines, e.monotonicNs ≤ w.clock.time

namespace Ordered

variable {w : Writer} {n : Nat}

theorem new {clock : Clock} (hsteady : clock.Steady) (hlasts : clock.Lasts n)
    (taskId : String) : Ordered n (EventWriter.new taskId clock) where
  steady := hsteady
  lasts := hlasts
  sorted := List.Pairwise.nil
  last := by
    intro _ e he
    cases he

theorem setStep (h : Ordered n w) (step : Int) :
    Ordered n ({ w with step } : Writer) :=
  ⟨h.steady, h.lasts, h.sorted, h.last⟩

theorem afterRead (h : Ordered n w) : Ordered n w.afterRead where
  steady := h.steady.afterRead
  lasts := h.lasts.afterRead
  sorted := h.sorted
  last := fun hn e he =>
    le_trans (h.last hn e he) h.steady.time_le_afterRead

/-- An event is stamped at the second of its two readings, so it comes after
those before it, and before what is read next. -/
theorem emitted (h : Ordered (n + 1) w) (data : EventData) :
    Ordered n (w.emitted data) := by
  have hlines : (w.emitted data).lines = w.lines ++ [w.next data] := rfl
  have hbefore : ∀ e ∈ w.lines, e.monotonicNs ≤ w.clock.stamp.2 := by
    intro e he
    rw [← Clock.time_afterRead]
    exact le_trans (h.last (Nat.succ_pos n) e he) h.steady.time_le_afterRead
  refine ⟨h.steady.afterEmit, h.lasts.afterEmit, ?_, ?_⟩
  · rw [hlines, List.map_append, List.pairwise_append]
    refine ⟨h.sorted, List.pairwise_singleton .., ?_⟩
    intro x hx y hy
    obtain ⟨e, he, rfl⟩ := List.mem_map.mp hx
    rw [List.map_singleton, List.mem_singleton] at hy
    rw [hy]
    exact hbefore e he
  · intro hn e he
    have hnext := h.steady.stamp_le (h.lasts.mono (by omega))
    rw [hlines, List.mem_append, List.mem_singleton] at he
    rcases he with he | rfl
    · exact le_trans (hbefore e he) hnext
    · exact hnext

theorem emittedAll {datas : List EventData}
    (h : Ordered (datas.length + n) w) : Ordered n (w.emittedAll datas) := by
  induction datas generalizing w with
  | nil =>
      rw [List.length_nil, Nat.zero_add] at h
      exact h
  | cons data datas ih =>
      refine ih (emitted ?_ data)
      rwa [List.length_cons, Nat.add_right_comm] at h

/-- One act: a line or a timed section uses its timestamps up, in order. -/
theorem act (act : Act) (h : Ordered (act.lineCount + n) w) :
    Ordered n (act.perform w) := by
  cases act with
  | setStep step =>
      rw [Act.lineCount, Nat.zero_add] at h
      exact h.setStep step
  | line data =>
      rw [Act.lineCount, Nat.add_comm] at h
      exact h.emitted data
  | read =>
      rw [Act.lineCount, Nat.zero_add] at h
      exact h.afterRead
  | timed inner closing =>
      rw [Act.lineCount, Nat.add_assoc, Nat.add_comm 1 n] at h
      exact h.afterRead.emittedAll.afterRead.emitted _

/-- Whatever the script, the events stay in order. -/
theorem perform {script : List Act} (h : Ordered (lineCount script + n) w) :
    Ordered n (perform script w) := by
  induction script generalizing w with
  | nil =>
      rw [lineCount_nil, Nat.zero_add] at h
      exact h
  | cons act script ih =>
      rw [lineCount_cons, Nat.add_assoc] at h
      exact ih (h.act act)

end Ordered

-- =============================================================== the runs

/-- Every run writes the events the grammar describes, for the calls it
made; under a clock that does not go back, in the order of their
timestamps. -/
theorem events_are_run (world : ω) {clock : Clock}
    (hlasts : clock.Lasts (lineCount ((transcriptOf inv world).script inv))) :
    IsRun (callsOf inv world clock) (eventsOf inv world clock)
      ∧ (clock.Steady →
        ((eventsOf inv world clock).map
          EventEnvelope.monotonicNs).Pairwise (· ≤ ·)) := by
  rw [eventsOf_eq inv hlasts, callsOf_eq inv hlasts]
  constructor
  · rw [perform_lines]
    exact script_grammar inv (transcriptOf inv world) _
  · intro hsteady
    exact ((Ordered.new hsteady hlasts inv.taskId).perform (n := 0)).sorted

/-- A run of two steps, read every millisecond. -/
theorem events_are_run_demo :
    IsRun (callsOf (scriptedTask "scripted" [callsBash, saysDone]) 0 everyMs)
        (eventsOf (scriptedTask "scripted" [callsBash, saysDone]) 0 everyMs)
      ∧ ((eventsOf (scriptedTask "scripted" [callsBash, saysDone]) 0
          everyMs).map EventEnvelope.monotonicNs).Pairwise (· ≤ ·) := by
  obtain ⟨hrun, hsorted⟩ := events_are_run
    (scriptedTask "scripted" [callsBash, saysDone]) 0
    (show everyMs.Lasts _ from Clock.lasts_system ..)
  exact ⟨hrun, hsorted everyMsNs_monotone⟩

end AgentAnvil.Sdk
