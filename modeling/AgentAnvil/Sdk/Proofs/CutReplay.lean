/-
Replaying a recording that was cut.

A process that is killed leaves a trace of the events it had emitted. A
replay of such a trace goes the way of the run until it has no timestamps
left, and then it raises: it emits the events that were recorded, not one
more and not one less, and no `agent_done` (`cut_recording_stops`). That
the tools catch exceptions, and `run` does, makes no difference: what they
do next is emit.

The replay of the cut recording is compared with that of the whole one, as
two runs of which one has less timestamps (`Ration`). `run_obeys` goes
through the loop, one lemma for each function.
-/
import AgentAnvil.Lib.Ration
import AgentAnvil.Sdk.Legs
import AgentAnvil.Sdk.Proofs.Recording
import AgentAnvil.Sdk.Proofs.ReplayClock

namespace AgentAnvil.Sdk

open Fs
open Py

-- ======================================================== under the writer

section

variable {pairs : List (String × Int)} {n : Nat}

/-- Of two writers on replay clocks the second has the first `n` pairs. -/
def cutWriter (pairs : List (String × Int)) (n : Nat) :
    Ration Writer Event where
  agree w w' := w.clock = .replay pairs w.lines.length ∧ w.lines.length ≤ n
    ∧ w.Takes ∧ w' = { w with clock := .replay (pairs.take n) w.lines.length }
  spent w := w.clock = .replay (pairs.take n) n ∧ w.lines.length = n
  log := EventWriter.lines

/-- Past its last pair a clock lasts for no event. -/
theorem not_lasts_of_spent (hn : n ≤ pairs.length) {w : Writer}
    (h : (cutWriter pairs n).spent w) : ¬ w.clock.Lasts 1 := by
  rw [h.1]
  show ¬ n + 1 ≤ (pairs.take n).length
  rw [List.length_take]
  omega

/-- Up to the cut the pairs are the recording's. -/
theorem pairAt_take {idx : Nat} (h : idx < n) :
    Clock.pairAt (pairs.take n) idx = Clock.pairAt pairs idx := by
  rw [Clock.pairAt, Clock.pairAt, List.getElem?_take_of_lt h]

/-- With no pair left, the second writer is spent. -/
theorem spent_of_agree {w w' : Writer} (h : (cutWriter pairs n).agree w w')
    (hle : n ≤ w.lines.length) : (cutWriter pairs n).spent w' := by
  obtain ⟨-, hle', -, rfl⟩ := h
  have hlen : w.lines.length = n := by omega
  rw [hlen]
  exact ⟨rfl, hlen⟩

/-- With a pair left, both write the same event. -/
theorem emit_inStep (hn : n ≤ pairs.length) {w w' : Writer}
    (h : (cutWriter pairs n).agree w w') (hlt : w.lines.length < n)
    (type : EventType) (data : EventData) :
    (cutWriter pairs n).InStep (EventWriter.emit type data w)
      (EventWriter.emit type data w') := by
  obtain ⟨hclock, -, htakes, rfl⟩ := h
  have htakes' : EventWriter.Takes
      { w with clock := .replay (pairs.take n) w.lines.length } := htakes
  have hlasts : w.clock.Lasts 1 := by
    rw [hclock]
    show w.lines.length + 1 ≤ pairs.length
    omega
  have hlasts' : (Clock.replay (pairs.take n) w.lines.length).Lasts 1 := by
    show w.lines.length + 1 ≤ (pairs.take n).length
    rw [List.length_take]
    omega
  have hstamp : (Clock.replay (pairs.take n) w.lines.length).stamp
      = w.clock.stamp := by
    rw [hclock]
    exact pairAt_take hlt
  have hlen : (w.written type data).lines.length = w.lines.length + 1 :=
    List.length_append
  rw [EventWriter.emit_of_lasts hlasts htakes,
    EventWriter.emit_of_lasts hlasts' htakes']
  refine ⟨?_, ?_, ?_, htakes, ?_⟩
  · rw [hstamp]
    rfl
  · rw [hlen]
    show w.clock.afterEmit = _
    rw [hclock]
    rfl
  · rw [hlen]
    exact hlt
  · unfold EventWriter.written
    simp only [hstamp, List.length_append, List.length_singleton]
    rfl

/-- Past its last pair a writer writes nothing. -/
theorem emit_spent (hn : n ≤ pairs.length) {w : Writer}
    (h : (cutWriter pairs n).spent w) (type : EventType) (data : EventData) :
    EventWriter.emit type data w = (.error Clock.indexError, w) :=
  EventWriter.emit_of_spent (not_lasts_of_spent hn h) type data

/-- Emitting takes no line back. -/
theorem emit_grows (w : Writer) (type : EventType) (data : EventData) :
    w.lines <+: (EventWriter.emit type data w).2.lines := by
  rcases h : EventWriter.emit type data w with ⟨r, w'⟩
  cases EventWriter.emit_cases h with
  | written lasts => exact List.prefix_append ..
  | spent spent => exact List.prefix_rfl
  | refused lasts => exact List.prefix_rfl
  | interrupted lasts => exact List.prefix_append ..

/-- Emitting obeys the ration of `n` pairs: it takes one, or raises and writes
nothing. -/
theorem emit_obeys (hn : n ≤ pairs.length) (type : EventType)
    (data : EventData) :
    (cutWriter pairs n).Obeys (EventWriter.emit type data) where
  grows := fun w => emit_grows w type data
  silent := by
    intro w hw
    rw [emit_spent hn hw]
    exact ⟨hw, rfl⟩
  follows := by
    intro w w' h
    by_cases hlt : w.lines.length < n
    · exact .inl (emit_inStep hn h hlt type data)
    · -- the first may have one more
      have hspent := spent_of_agree h (Nat.not_lt.mp hlt)
      rw [emit_spent hn hspent]
      obtain ⟨-, -, -, rfl⟩ := h
      exact .inr ⟨hspent, emit_grows w type data⟩

/-- Past the cut it raises. -/
theorem emit_stops (hn : n ≤ pairs.length) (type : EventType)
    (data : EventData) :
    (cutWriter pairs n).Stops (EventWriter.emit type data) where
  raises := fun w hw => ⟨_, by rw [emit_spent hn hw]⟩
  follows := by
    intro w w' h
    by_cases hlt : w.lines.length < n
    · exact .inl (emit_inStep hn h hlt type data)
    · have hspent := spent_of_agree h (Nat.not_lt.mp hlt)
      exact .inr ⟨_, by rw [emit_spent hn hspent]⟩

/-- Reading the clock takes no pair, and past the cut raises as well. -/
theorem monotonicNs_obeys :
    (cutWriter pairs n).Obeys (EventWriter.onClock Clock.monotonicNs) := by
  -- a replay clock stays where it is
  have hstays : ∀ (w : Writer) ps idx, w.clock = .replay ps idx →
      EventWriter.onClock Clock.monotonicNs w
        = ((Clock.monotonicNs (.replay ps idx)).1, w) := by
    intro w ps idx hclock
    unfold EventWriter.onClock Py.zoom
    rw [hclock, Clock.monotonicNs_replay, ← hclock]
  refine ⟨fun w => List.prefix_refl w.lines, ?_, ?_⟩
  · intro w hw
    rw [hstays w _ _ hw.1]
    exact ⟨hw, rfl⟩
  · intro w w' h
    have hspent := spent_of_agree h
    have hagree := h
    obtain ⟨hclock, hle, -, rfl⟩ := h
    rw [hstays w _ _ hclock, hstays _ _ _ rfl]
    by_cases hlt : w.lines.length < n
    · refine .inl ⟨?_, hagree⟩
      unfold Clock.monotonicNs
      simp only [List.getElem?_take_of_lt hlt]
      cases pairs[w.lines.length]? with
      | none => rfl
      | some pair => rfl
    · exact .inr ⟨hspent (Nat.not_lt.mp hlt), List.prefix_rfl⟩

theorem setStep_obeys (step : Int) :
    (cutWriter pairs n).Obeys (EventWriter.setStep step) := by
  refine .apart (fun _ => rfl) (fun _ hw => hw) ?_
  intro w w' h
  obtain ⟨hclock, hle, htakes, rfl⟩ := h
  exact ⟨rfl, hclock, hle, htakes, rfl⟩

end

-- ======================================================= under the runtime

section

variable {ω : Type} {pairs : List (String × Int)} {n : Nat}

def cutRuntime (ω : Type) (pairs : List (String × Int)) (n : Nat) :
    Ration (Runtime ω) Event :=
  (cutWriter pairs n).lift Runtime.events fun events rt => { rt with events }

/-- What the writer obeys, the runtime around it obeys. -/
theorem onEvents_obeys {α : Type} {m : Py Writer α}
    (hm : (cutWriter pairs n).Obeys m) :
    (cutRuntime ω pairs n).Obeys (Runtime.onEvents m) :=
  hm.zoom (fun _ _ => rfl) (fun _ _ _ => rfl)

theorem onEvents_stops {α : Type} {m : Py Writer α}
    (hm : (cutWriter pairs n).Stops m) :
    (cutRuntime ω pairs n).Stops (Runtime.onEvents m) :=
  hm.zoom (fun _ _ => rfl) (fun _ _ _ => rfl)

theorem Runtime.emit_obeys (hn : n ≤ pairs.length) (data : EventData) :
    (cutRuntime ω pairs n).Obeys (Runtime.emit data) :=
  (onEvents_obeys (Sdk.emit_obeys hn data.type data)).bind fun _ => .pure ()

/-- Without a pair left an event of a tool or of the loop raises. -/
theorem Runtime.emit_stops (hn : n ≤ pairs.length) (data : EventData) :
    (cutRuntime ω pairs n).Stops (Runtime.emit data) :=
  (onEvents_stops (Sdk.emit_stops hn data.type data)).returning fun _ => ()

theorem Runtime.monotonicNs_obeys :
    (cutRuntime ω pairs n).Obeys Runtime.monotonicNs :=
  onEvents_obeys Sdk.monotonicNs_obeys

/-- The tools have a world of their own. -/
theorem setWorld_obeys (world : ω) :
    (cutRuntime ω pairs n).Obeys
      (Py.modify fun rt : Runtime ω => { rt with world }) := by
  refine .apart (fun _ => rfl) (fun _ hrt => hrt) ?_
  intro rt rt' h
  obtain ⟨w', hagree, rfl⟩ := h
  exact ⟨rfl, w', hagree, rfl⟩

/-- The events of a tool's mutations, by induction. -/
theorem emitMutations_obeys (hn : n ≤ pairs.length)
    (ms : List FileMutation) :
    (cutRuntime ω pairs n).Obeys (emitMutations ms) := by
  induction ms with
  | nil => exact .pure ()
  | cons m ms ih => exact (Runtime.emit_obeys hn m.data).bind fun _ => ih

/-- A tool may catch the exception that tells it of the cut and return a
result; the run goes on, and writes nothing more. -/
theorem Tool.run_obeys (hn : n ≤ pairs.length) (tool : Tool ω)
    (args : List (String × Json)) :
    (cutRuntime ω pairs n).Obeys (tool.run args) := by
  refine .reads ?_ ?_
  · intro rt
    refine (setWorld_obeys _).bind fun _ =>
      (emitMutations_obeys hn _).bind fun _ => ?_
    cases (tool.cls._run tool.timeoutSeconds args rt.world).outcome with
    | error exc => exact .ofExcept (.error exc)
    | ok result => exact .pure result.clamp
  · intro rt rt' h
    obtain ⟨w', -, rfl⟩ := h
    rfl

/-- What a tool raises is caught: even that there are no timestamps left. -/
theorem runOneTool_obeys (hn : n ≤ pairs.length) (tools : List (Tool ω))
    (tu : ToolUse) : (cutRuntime ω pairs n).Obeys (runOneTool tools tu) := by
  refine (Runtime.emit_obeys hn _).bind fun _ =>
    Runtime.monotonicNs_obeys.bind fun t0 => ?_
  cases toolMap tools tu.name with
  | none => exact (Runtime.emit_obeys hn _).bind fun _ => .pure _
  | some tool =>
      refine (tool.run_obeys hn tu.input).attempt.bind ?_
      intro r
      cases r with
      | error exc =>
          exact Runtime.monotonicNs_obeys.bind fun t1 =>
            (Runtime.emit_obeys hn _).bind fun _ => .pure _
      | ok result =>
          exact Runtime.monotonicNs_obeys.bind fun t1 =>
            (Runtime.emit_obeys hn _).bind fun _ => .pure _

/-- The tool calls of a step, by induction on the tool uses. -/
theorem runTools_obeys (hn : n ≤ pairs.length) (tools : List (Tool ω))
    (tus : List ToolUse) :
    (cutRuntime ω pairs n).Obeys (runTools tools tus) := by
  induction tus with
  | nil => exact .pure []
  | cons tu tus ih =>
      exact (runOneTool_obeys hn tools tu).bind fun _ =>
        ih.bind fun _ => .pure _

end

-- ========================================================== under the loop

section

variable {ω : Type} {pairs : List (String × Int)} {n : Nat}

def cutFrame (ω : Type) (pairs : List (String × Int)) (n : Nat) :
    Ration (Frame ω) Event :=
  (cutRuntime ω pairs n).lift Frame.runtime
    fun runtime s => { s with runtime }

/-- What the runtime obeys, the loop's variables around it obey. -/
theorem onRuntime_obeys {α : Type} {m : Py (Runtime ω) α}
    (hm : (cutRuntime ω pairs n).Obeys m) :
    (cutFrame ω pairs n).Obeys (Frame.onRuntime m) :=
  hm.zoom (fun _ _ => rfl) (fun _ _ _ => rfl)

theorem Frame.emit_obeys (hn : n ≤ pairs.length) (data : EventData) :
    (cutFrame ω pairs n).Obeys (Frame.emit data) :=
  onRuntime_obeys (Runtime.emit_obeys hn data)

/-- Past the cut an event stops the loop. -/
theorem Frame.emit_stops (hn : n ≤ pairs.length) (data : EventData) :
    (cutFrame ω pairs n).Stops (Frame.emit data) :=
  (Runtime.emit_stops hn data).zoom (fun _ _ => rfl) (fun _ _ _ => rfl)

theorem Frame.setStep_obeys (step : Nat) :
    (cutFrame ω pairs n).Obeys (Frame.setStep step) :=
  onRuntime_obeys (onEvents_obeys (Sdk.setStep_obeys step))

/-- What assigns other variables than the runtime. -/
theorem modify_obeys {f : Frame ω → Frame ω}
    (hf : ∀ s, (f s).runtime = s.runtime)
    (hput : ∀ runtime s, f { s with runtime } = { f s with runtime }) :
    (cutFrame ω pairs n).Obeys (Py.modify f) := by
  refine .apart ?_ ?_ ?_
  · intro s
    show (f s).runtime.events.lines = s.runtime.events.lines
    rw [hf]
  · intro s hs
    show (cutWriter pairs n).spent (f s).runtime.events
    rw [hf]
    exact hs
  · intro s s' h
    obtain ⟨rt', hagree, rfl⟩ := h
    refine ⟨rfl, rt', ?_, hput rt' s⟩
    show (cutRuntime ω pairs n).agree (f s).runtime rt'
    rw [hf]
    exact hagree

/-- Messages use no pair. -/
theorem Frame.append_obeys (message : Message) :
    (cutFrame ω pairs n).Obeys (Frame.append message) :=
  modify_obeys (fun _ => rfl) fun _ _ => rfl

theorem Frame.count_obeys (resp : LLMResponse) (cost : Rat) :
    (cutFrame ω pairs n).Obeys (Py.modify (Frame.count resp cost)) :=
  modify_obeys (fun _ => rfl) fun _ _ => rfl

/-- Which responses cannot be hashed is the same of both runs. -/
theorem Frame.hashed_obeys (resp : LLMResponse) :
    (cutFrame ω pairs n).Obeys (Frame.hashed resp) := by
  have hstays : ∀ s : Frame ω, Frame.hashed resp s
      = ((s.unhashable resp).elim (.ok (hashResponse resp)) .error, s) := by
    intro s
    unfold Frame.hashed
    cases s.unhashable resp with
    | some exc => rfl
    | none => rfl
  refine .apart ?_ ?_ ?_
  · intro s
    rw [hstays]
  · intro s hs
    rw [hstays]
    exact hs
  · intro s s' h
    rw [hstays s, hstays s']
    have hagree := h
    obtain ⟨rt', -, rfl⟩ := h
    exact ⟨rfl, hagree⟩

theorem nextStep_obeys : (cutFrame ω pairs n).Obeys
    (Py.modify fun s : Frame ω => { s with step := s.step + 1 }) :=
  modify_obeys (fun _ => rfl) fun _ _ => rfl

variable (inv : Invocation ω)

/-- The client is asked alike in both runs, as it is given the same messages
in the same world. -/
theorem complete_obeys (request : Request) :
    (cutFrame ω pairs n).Obeys (complete inv request) := by
  refine .apart (fun _ => rfl) (fun _ hs => hs) ?_
  intro s s' h
  obtain ⟨rt', ⟨w', hagree, rfl⟩, rfl⟩ := h
  exact ⟨rfl, _, ⟨w', hagree, rfl⟩, rfl⟩

/-- The model call is made of statements that obey. -/
theorem callModel_obeys (hn : n ≤ pairs.length) :
    (cutFrame ω pairs n).Obeys (callModel inv) := by
  refine .reads ?_ ?_
  · intro s
    refine (Frame.emit_obeys hn _).bind fun _ =>
      (onRuntime_obeys Runtime.monotonicNs_obeys).bind fun start =>
      (complete_obeys inv _).bind fun resp =>
      (onRuntime_obeys Runtime.monotonicNs_obeys).bind fun stop =>
      (Frame.count_obeys resp _).bind fun _ =>
      (Frame.hashed_obeys resp).bind fun _ =>
      (Frame.emit_obeys hn _).bind fun _ =>
      (Frame.append_obeys _).bind fun _ => .pure resp
  · intro s s' h
    obtain ⟨rt', -, rfl⟩ := h
    rfl

/-- So is a step: which way it goes is decided by the response, the same in
both runs. -/
theorem oneStep_obeys (hn : n ≤ pairs.length) :
    (cutFrame ω pairs n).Obeys (oneStep inv) := by
  refine .reads ?_ ?_
  · intro s
    refine (Frame.setStep_obeys s.step).bind fun _ =>
      (Frame.emit_obeys hn _).bind fun _ =>
      (callModel_obeys inv hn).bind fun resp => ?_
    by_cases htools : resp.callsTools
    · rw [if_pos htools]
      exact (onRuntime_obeys (runTools_obeys hn _ _)).bind fun results =>
        (Frame.append_obeys _).bind fun _ =>
        (Frame.emit_obeys hn _).bind fun _ =>
        nextStep_obeys.bind fun _ => .pure none
    · rw [if_neg htools]
      exact (Frame.emit_obeys hn _).bind fun _ =>
        nextStep_obeys.bind fun _ => .pure _
  · intro s s' h
    obtain ⟨rt', -, rfl⟩ := h
    rfl

/-- So is the loop, by induction on the steps left. -/
theorem whileLoop_obeys (hn : n ≤ pairs.length) (remaining : Nat) :
    (cutFrame ω pairs n).Obeys (whileLoop inv remaining) := by
  induction remaining with
  | zero => exact .pure _
  | succ remaining ih =>
      refine (oneStep_obeys inv hn).bind ?_
      intro outcome
      cases outcome with
      | some outcome => exact .pure outcome
      | none => exact ih

/-- The handler writes its event, if there is a pair for it. -/
theorem agentError_obeys (hn : n ≤ pairs.length) (exc : Exc) :
    (cutFrame ω pairs n).Obeys (agentError exc) :=
  (Frame.emit_obeys hn _).bind fun _ => .pure _

/-- What `run` does before `agent_done`. -/
theorem loop_obeys (hn : n ≤ pairs.length) :
    (cutFrame ω pairs n).Obeys
      (Py.tryExcept (whileLoop inv inv.maxSteps.toNat) agentError) :=
  (whileLoop_obeys inv hn _).tryExcept (agentError_obeys hn)

/-- Runs in step end with the same totals. -/
theorem doneData_agrees {s s' : Frame ω}
    (h : (cutFrame ω pairs n).agree s s') (outcome : String) :
    doneData inv s' outcome = doneData inv s outcome := by
  obtain ⟨rt', -, rfl⟩ := h
  rfl

/-- So the whole run obeys: it is in step with the recording, or ends cut
short with a front of its events. -/
theorem run_obeys (hn : n ≤ pairs.length) :
    (cutFrame ω pairs n).Obeys (run inv) := by
  refine (Frame.setStep_obeys 0).bind fun _ =>
    (Frame.emit_obeys hn _).bind fun _ =>
    (loop_obeys inv hn).bind fun outcome => ?_
  refine .reads ?_ ?_
  · exact fun s => (Frame.emit_obeys hn _).bind fun _ => .pure _
  · intro s s' h
    simp only [doneData_agrees inv h]

/-- Without timestamps a run raises. -/
theorem run_stops (hn : n ≤ pairs.length) :
    (cutFrame ω pairs n).Stops (run inv) := by
  refine .bind (Frame.setStep_obeys 0) fun _ =>
    .bind (Frame.emit_obeys hn _) fun _ =>
    .bind (loop_obeys inv hn) fun outcome => ?_
  refine .reads ?_ ?_
  · exact fun s => (Frame.emit_stops hn _).returning fun _ =>
      doneData inv s outcome
  · intro s s' h
    simp only [doneData_agrees inv h]

end

-- ================================================================ the run

section

variable {ω : Type} {inv : Invocation ω} {pairs : List (String × Int)}
  {n : Nat}

/-- Where the file takes every event, emitting raises for the clock. -/
theorem Frame.emit_raises {s s' : Frame ω} {data : EventData} {exc : Exc}
    (htakes : s.runtime.events.Takes)
    (h : Frame.emit data s = (.error exc, s')) : exc = Clock.indexError := by
  unfold Frame.emit Frame.onRuntime at h
  by_cases hlasts : s.runtime.events.clock.Lasts 1
  · rw [Py.zoom_eq (Runtime.emit_eq ⟨hlasts, htakes⟩ data)] at h
    cases h
  · rw [Py.zoom_eq (Runtime.emit_spent hlasts data)] at h
    cases h
    rfl

/-- The file takes as many events after the loop as before. -/
theorem loop_takes {s s' : Frame ω} {r : Except Exc String}
    (htakes : s.runtime.events.Takes)
    (h : whileLoop inv inv.maxSteps.toNat s = (r, s')) :
    s'.runtime.events.Takes := by
  have hstep : ∀ {s s' : Frame ω} {r}, s.runtime.events.Takes →
      Stepped inv.tools (s.did (.setStep s.step)) s' r →
      s'.runtime.events.Takes := by
    intro s s' r htakes hstepped
    have hset : (s.did (.setStep s.step)).runtime.events.Takes := htakes
    cases hstepped with
    | ended went next =>
        rw [next]
        exact went.leg.takes hset
    | broke went => exact went.leg.takes hset
  cases whileLoop_looped (I := fun s => s.runtime.events.Takes) hstep htakes
    h with
  | none zero same => rwa [same]
  | ended before stepped => exact hstep before stepped
  | broke before stepped => exact hstep before stepped

/-- A run raises nothing but what emitting an event of its own raises. -/
theorem run_raises {s s' : Frame ω} {exc : Exc}
    (htakes : s.runtime.events.Takes)
    (h : run inv s = (.error exc, s')) : exc = Clock.indexError := by
  have hset : (s.did (.setStep 0)).runtime.events.Takes := htakes
  unfold run at h
  rw [Py.bind_ok (Frame.setStep_eq 0)] at h
  rcases bind_cases h with ⟨_, s₁, hstart, h⟩ | ⟨_, hstart, hexc⟩
  swap
  · cases hexc
    exact Frame.emit_raises hset hstart
  obtain ⟨news, hstarted, -⟩ := Frame.emit_went hstart
    ⟨EventType.noConfusion, EventType.noConfusion, EventType.noConfusion⟩
  have hstarted := hstarted.leg.takes hset
  rcases bind_cases h with ⟨outcome, s₂, htry, h⟩ | ⟨_, htry, hexc⟩
  · have htried : s₂.runtime.events.Takes := by
      rcases tryExcept_cases htry with ⟨_, hloop, -⟩ | ⟨_, s₃, hloop, herror⟩
      · exact loop_takes hstarted hloop
      · rcases agentError_cases herror with ⟨_, hr, -⟩ | ⟨-, news, hwent, -⟩
        · cases hr
        · exact hwent.leg.takes (loop_takes hstarted hloop)
    rw [bind_ok (get_apply s₂)] at h
    rcases bind_cases h with ⟨_, s₃, -, hreturn⟩ | ⟨_, hdone, hexc⟩
    · cases hreturn
    · cases hexc
      exact Frame.emit_raises htried hdone
  · -- what the loop raised was caught; this is of the handler
    cases hexc
    rcases tryExcept_cases htry with ⟨_, -, hok⟩ | ⟨_, s₂, hloop, herror⟩
    · cases hok
    · rcases bind_cases herror with ⟨_, s₃, -, hreturn⟩ | ⟨_, hemit, hexc⟩
      · cases hreturn
      · cases hexc
        exact Frame.emit_raises (loop_takes hstarted hloop) hemit

/-- On the first timestamps of a replay, a replay emits its first events
and raises. -/
theorem execute_cut {world : ω} (hn : n ≤ pairs.length)
    (hcut : n < (eventsOf inv world (.replay pairs 0)).length) :
    (execute inv world (.replay (pairs.take n) 0)).1
        = .error Clock.indexError
      ∧ eventsOf inv world (.replay (pairs.take n) 0)
        = (eventsOf inv world (.replay pairs 0)).take n := by
  have hstart : (cutFrame ω pairs n).agree
      (Frame.start inv world (.replay pairs 0))
      (Frame.start inv world (.replay (pairs.take n) 0)) :=
    ⟨_, ⟨_, ⟨rfl, Nat.zero_le n, fun _ _ => rfl, rfl⟩, rfl⟩, rfl⟩
  -- in step to the end there would be no more events than timestamps
  have hleft : ¬ (cutFrame ω pairs n).InStep
      (run inv (Frame.start inv world (.replay pairs 0)))
      (run inv (Frame.start inv world (.replay (pairs.take n) 0))) := by
    intro hstep
    obtain ⟨-, rt', ⟨w', ⟨-, hle, -⟩, -⟩, -⟩ := hstep
    exact Nat.not_lt.mpr hle hcut
  constructor
  · obtain ⟨exc, hexc⟩ :=
      ((run_stops inv hn).follows _ _ hstart).resolve_left hleft
    have hindex : exc = Clock.indexError := run_raises (fun _ _ => rfl) (Prod.ext hexc rfl)
    rw [← hindex]
    exact hexc
  · obtain ⟨⟨-, hlength⟩, hprefix⟩ :=
      ((run_obeys inv hn).follows _ _ hstart).resolve_left hleft
    have htake := List.prefix_iff_eq_take.mp hprefix
    rw [show ((cutFrame ω pairs n).log _).length = n from hlength] at htake
    exact htake

end

/-- The trace of a process that was killed after `n` events is loaded as
those events. A second run, at another time of the OS clock, on the
timestamps that were loaded emits what was loaded but for the times it
measures, and raises where the recording ends. -/
theorem cut_recording_stops {ω : Type} (inv : Invocation ω)
    (wallStart wallEnd : Rat) (world : ω) (wall : Nat → String)
    (mono : Nat → Int) (reads : Nat) {t : JsonText}
    (hints : KeepsInts t.int) {float : Rat → Json} {n : Nat}
    (hcut : n < (eventsOf inv world (.system wall mono reads)).length)
    (hwrites : ∀ e ∈ (eventsOf inv world (.system wall mono reads)).take n,
      t.Writes (e.json float).dump)
    {d : Disk} (hsound : d.Sound) {dir path : Location}
    (hfile : d.tree.node (dir ++ ["events.jsonl"]) = some (.file (traceBytes
      float t ((eventsOf inv world (.system wall mono reads)).take n))))
    (hpath : path = dir ∨ path = dir ++ ["events.jsonl"]) :
    ∃ trace, (loadTrace t path d).1 = .ok trace ∧
      trace.events = ((eventsOf inv world (.system wall mono reads)).take
        n).map (Event.json float) ∧
      (execute (inv.atWall wallStart wallEnd) world
        (.replay trace.pairs 0)).1 = .error Clock.indexError ∧
      (eventsOf (inv.atWall wallStart wallEnd) world
          (.replay trace.pairs 0)).map (fun e => (e.json float).untimed)
        = trace.events.map EventEnvelope.untimed := by
  refine ⟨_, loadTrace_written hints hwrites hsound hfile hpath, rfl, ?_⟩
  have hwhole := replay_untimed inv wallStart wallEnd world wall mono reads
  have hlength : (pairsOf (eventsOf inv world
      (.system wall mono reads))).length
      = (eventsOf inv world (.system wall mono reads)).length :=
    List.length_map _
  have hemitted := congrArg List.length hwhole
  rw [List.length_map, List.length_map] at hemitted
  obtain ⟨hraised, htaken⟩ := execute_cut (n := n)
    (hlength ▸ hcut.le) (hemitted ▸ hcut)
  rw [pairs_of_json, pairsOf, List.map_take]
  refine ⟨hraised, ?_⟩
  have hfront : (eventsOf (inv.atWall wallStart wallEnd) world (.replay
      ((pairsOf (eventsOf inv world (.system wall mono reads))).take n)
      0)).map Event.untimed
      = ((eventsOf inv world (.system wall mono reads)).take n).map
        Event.untimed := by
    rw [htaken, List.map_take, List.map_take, hwhole]
  refine (json_untimed_congr hfront).trans ?_
  rw [Trace.of, List.map_map]
  rfl

/-- The run of the demo, killed before it told the end of its step. -/
theorem cut_recording_stops_demo :
    ∃ trace, (loadTrace doneText [] (logDisk
        (traceBytes zeroFloat doneText (doneAtOnce.take 4)))).1 = .ok trace ∧
      trace.events.length = 4 ∧
      (execute ((scriptedTask "scripted" [saysDone]).atWall 3600 3601) 0
        (.replay trace.pairs 0)).1 = .error Clock.indexError := by
  have hlength : doneAtOnce.length = 6 := by decide +kernel
  obtain ⟨trace, hload, hevents, hraised, -⟩ := cut_recording_stops
    (scriptedTask "scripted" [saysDone]) 3600 3601 0 _ everyMsNs 0
    (fun _ => rfl)
    (show 4 < doneAtOnce.length by rw [hlength]; decide)
    (fun e he => doneText_writes e (List.mem_of_mem_take he))
    (fun _ => rfl)
    (logDisk_file (traceBytes zeroFloat doneText (doneAtOnce.take 4)))
    (.inl (rfl : ([] : Location) = []))
  refine ⟨trace, hload, ?_, hraised⟩
  rw [hevents, List.length_map, List.length_take]
  show min 4 doneAtOnce.length = 4
  rw [hlength]
  rfl

end AgentAnvil.Sdk
