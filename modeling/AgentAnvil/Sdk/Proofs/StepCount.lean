/-
How many steps a run had, as the loop counts them and as the trace loader
does.

The loop counts a step when it has ended; the loader takes the largest step
tag and adds one, and the loop sets the tag when a step begins. Before each
step the two agree (`Counts`), but for a run that has had none: its
`agent_start` is tagged with step 0 already. A step that breaks off has set
the tag and is never counted, so from then on they differ, for a cause that
stays on record (`Overcounts`).

There is no condition on the writer, the clock or the client: what becomes
of an event is a case like any other. A run whose clock is spent has no
`agent_done` to compare with.
-/
import AgentAnvil.Sdk.Legs
import AgentAnvil.Sdk.Proofs.Totals
import AgentAnvil.Sdk.Trace

namespace AgentAnvil.Sdk

variable {ω : Type}

-- ============================================================ the invariant

/-- The writer of a run that is not done: no line is tagged with a later
step than the writer's. -/
structure Running (w : Writer) : Prop where
  tagged : ∀ e ∈ w.lines, e.step ≤ w.step
  undone : ∀ e ∈ w.lines, e.data.type ≠ .agentDone

/-- Between two steps: the last step that was begun is the last that was
counted, if there was one. All went well so far; a tool may have failed to
report what it wrote, which the loop takes for a failure of the tool. -/
structure Counts (unhashable : LLMResponse → Option Exc) (s : Frame ω) :
    Prop where
  running : Running s.runtime.events
  /-- before the first step the tag is 0, and not one less -/
  step : s.runtime.events.step = (s.step - 1 : Nat)
  kept : ∀ e, s.runtime.events.Lost e → e.data.IsMutation
  hashed : ∀ call ∈ s.calls, call.Hashed unhashable
  unhashable : s.unhashable = unhashable

/-- A step was begun that is not counted, and why. -/
structure Overcounts (unhashable : LLMResponse → Option Exc) (s : Frame ω) :
    Prop where
  running : Running s.runtime.events
  step : s.runtime.events.step = s.step
  cause : ¬ s.runtime.events.clock.Lasts 1 ∨
    (∃ e, s.runtime.events.Lost e ∧ ¬ e.data.IsMutation ∧
      e.data.type ≠ .agentDone) ∨
    ∃ call ∈ s.calls, ¬ call.Hashed unhashable

namespace Running

variable {w w' : Writer} {news lost : List Event}

theorem leg (h : Running w) (hleg : Leg w w' news lost) : Running w' where
  tagged e he := by
    rw [hleg.lines] at he
    rw [hleg.step]
    rcases List.mem_append.mp he with he | he
    · exact h.tagged e he
    · exact le_of_eq (hleg.tagged e he)
  undone e he := by
    rw [hleg.lines] at he
    rcases List.mem_append.mp he with he | he
    · exact h.undone e he
    · exact hleg.undone e (Or.inl he)

/-- The next step begins. -/
theorem setStep (h : Running w) {step : Int} (hle : w.step ≤ step) :
    Running { w with step } where
  tagged e he := le_trans (h.tagged e he) hle
  undone := h.undone

/-- There are no totals to read off before the run is done. -/
theorem readOff_totals (h : Running w) :
    readOff EventData.totals w.lines = [] := by
  unfold readOff
  rw [List.filterMap_eq_nil_iff]
  intro e he
  have hundone := h.undone e he
  cases hdata : e.data <;> rw [hdata] at hundone <;>
    first | rfl | exact absurd rfl hundone

end Running

-- ================================================================== a step

section

variable {unhashable : LLMResponse → Option Exc} {tools : List (Tool ω)}
  {s s' : Frame ω}

/-- So does the start of a step. -/
theorem Counts.began (h : Counts unhashable s) :
    Running (s.did (.setStep s.step)).runtime.events := by
  refine h.running.setStep ?_
  have := h.step
  omega

/-- An event of the loop's own, around the steps. -/
theorem Counts.told {news : List Event} (h : Counts unhashable s)
    (hwent : Went s s' [] [] news []) : Counts unhashable s' where
  running := h.running.leg hwent.leg
  step := by rw [hwent.leg.step, hwent.step, h.step]
  kept e he := h.kept e (((hwent.leg.lost e).mp he).resolve_right (nomatch ·))
  hashed := by
    rw [hwent.calls, List.append_nil]
    exact h.hashed
  unhashable := hwent.unhashable.trans h.unhashable

/-- A step that ends is counted. -/
theorem Counts.ended {outcome : Option String} (h : Counts unhashable s)
    (hstep : Stepped tools (s.did (.setStep s.step)) s' (.ok outcome)) :
    Counts unhashable s' ∧ 0 < s'.step := by
  cases hstep with
  | @ended _ s₁ messages call news lost went next hashed kept answers =>
      subst next
      refine ⟨⟨h.began.leg went.leg, ?_, ?_, ?_, ?_⟩, Nat.succ_pos _⟩
      · show s₁.runtime.events.step = ((s₁.step + 1 - 1 : Nat) : Int)
        have htag : s₁.runtime.events.step = s.step := went.leg.step
        have hcount : s₁.step = s.step := went.step
        omega
      · intro e he
        rcases (went.leg.lost e).mp he with he | he
        · exact h.kept e he
        · exact kept e he
      · intro c hc
        have hcalls : s₁.calls = s.calls ++ [call] := went.calls
        have hc : c ∈ s₁.calls := hc
        rw [hcalls] at hc
        rcases List.mem_append.mp hc with hc | hc
        · exact h.hashed c hc
        · rw [List.mem_singleton.mp hc, ← h.unhashable]
          exact hashed
      · exact went.unhashable.trans h.unhashable

/-- A step that breaks off is not. -/
theorem Counts.broke {exc : Exc} (h : Counts unhashable s)
    (hstep : Stepped tools (s.did (.setStep s.step)) s' (.error exc)) :
    Overcounts unhashable s' := by
  cases hstep with
  | @broke _ messages calls news lost front extra went cause ends answers
      dropped =>
      refine ⟨h.began.leg went.leg, ?_, ?_⟩
      · have htag : s'.runtime.events.step = s.step := went.leg.step
        have hcount : s'.step = s.step := went.step
        omega
      · rcases cause with hspent | ⟨e, he, hother⟩ | ⟨call, hcall, hnot⟩
        · exact Or.inl hspent
        · exact Or.inr (Or.inl ⟨e, (went.leg.lost e).mpr (Or.inr he), hother,
            went.leg.undone e (Or.inr he)⟩)
        · refine Or.inr (Or.inr ⟨call, ?_, ?_⟩)
          · rw [went.calls]
            exact List.mem_append_right _ hcall
          · rw [← h.unhashable]
            exact hnot

/-- What comes after does not make up for it. -/
theorem Overcounts.went {messages : List Message} {calls : List LLMCall}
    {news lost : List Event} (h : Overcounts unhashable s)
    (hwent : Went s s' messages calls news lost) :
    Overcounts unhashable s' where
  running := h.running.leg hwent.leg
  step := by rw [hwent.leg.step, hwent.step, h.step]
  cause := by
    rcases h.cause with hspent | ⟨e, he, hother⟩ | ⟨call, hcall, hnot⟩
    · exact Or.inl (mt hwent.leg.lasts hspent)
    · exact Or.inr (Or.inl ⟨e, (hwent.leg.lost e).mpr (Or.inl he), hother⟩)
    · refine Or.inr (Or.inr ⟨call, ?_, hnot⟩)
      rw [hwent.calls]
      exact List.mem_append_left _ hcall

-- ================================================================= the run

variable {inv : Invocation ω}

/-- The while loop and its handler. If they return, every step that was
begun is counted, and there was one if the task allows for one; or the last
is not. -/
theorem Counts.tried {r : Except Exc String} (h : Counts unhashable s)
    (hzero : s.step = 0)
    (htry : Py.tryExcept (whileLoop inv inv.maxSteps.toNat) agentError s
      = (r, s')) :
    Running s'.runtime.events ∧ ∀ outcome, r = .ok outcome →
      (Counts unhashable s' ∧ (0 < s'.step ↔ 0 < inv.maxSteps)) ∨
        Overcounts unhashable s' := by
  have hkeeps : ∀ {s s' : Frame ω} {next : Option String},
      Counts unhashable s →
      Stepped inv.tools (s.did (.setStep s.step)) s' (.ok next) →
      Counts unhashable s' := fun hI hstep => (hI.ended hstep).1
  rcases Py.tryExcept_cases htry with ⟨outcome, hloop, rfl⟩
    | ⟨exc, s₁, hloop, herror⟩
  · cases hmax : inv.maxSteps.toNat with
    | zero =>
        rw [hmax] at hloop
        injection hloop with _ hs
        subst hs
        exact ⟨h.running, fun _ _ => Or.inl ⟨h, by omega⟩⟩
    | succ remaining =>
        cases whileLoop_looped (I := Counts unhashable) hkeeps h hloop with
        | none zero same => omega
        | ended before stepped =>
            obtain ⟨hcounts, hpos⟩ := before.ended stepped
            exact ⟨hcounts.running, fun _ _ => Or.inl ⟨hcounts, by omega⟩⟩
  · cases whileLoop_looped (I := Counts unhashable) hkeeps h hloop with
    | broke before stepped =>
        have hover := before.broke stepped
        rcases agentError_cases herror with
          ⟨exc', rfl, calls, news, lost, hwent, -⟩ | ⟨-, news, hwent, -⟩
        · exact ⟨hover.running.leg hwent.leg, fun _ hr => nomatch hr⟩
        · exact ⟨hover.running.leg hwent.leg,
            fun _ _ => Or.inr (hover.went hwent)⟩

end

-- ============================================================== what is read

/-- Steps are counted by the largest tag. -/
theorem totalSteps_eq {events : List Event} {e : Event} (he : e ∈ events)
    (hmax : ∀ e' ∈ events, e'.step ≤ e.step) :
    (Trace.of events).totalSteps = e.step + 1 := by
  have hne : events.isEmpty = false := by
    rw [List.isEmpty_eq_false_iff]
    exact List.ne_nil_of_mem he
  have hmost : (events.map EventEnvelope.step).max? = some e.step := by
    rw [List.max?_eq_some_iff]
    refine ⟨List.mem_map_of_mem he, ?_⟩
    intro k hk
    obtain ⟨e', he', rfl⟩ := List.mem_map.mp hk
    exact hmax e' he'
  unfold Trace.totalSteps Trace.of
  rw [hne, hmost]
  rfl

section

variable (inv : Invocation ω) {unhashable : LLMResponse → Option Exc}
  {s : Frame ω}

/-- The totals `agent_done` records. -/
def Frame.totals (s : Frame ω) : Totals where
  steps := s.step
  cost := roundTo 6 s.totalCost
  inputTokens := s.totalInputTokens
  outputTokens := s.totalOutputTokens

/-- With an `agent_done` after the lines of a run, its totals are read
off. -/
theorem Running.done (h : Running s.runtime.events) (outcome : String) :
    readOff EventData.totals (s.runtime.events.lines
        ++ [s.runtime.events.next (doneData inv s outcome)]) = [s.totals] ∧
      (Trace.of (s.runtime.events.lines
        ++ [s.runtime.events.next (doneData inv s outcome)])).totalSteps
          = s.runtime.events.step + 1 := by
  have hmem := List.mem_append_right s.runtime.events.lines
    (List.mem_singleton_self
      (s.runtime.events.next (doneData inv s outcome)))
  refine ⟨?_, totalSteps_eq hmem ?_⟩
  · have hbefore : s.runtime.events.lines.filterMap (fun e => e.data.totals)
        = [] := h.readOff_totals
    unfold readOff
    rw [List.filterMap_append, hbefore]
    rfl
  · intro e he
    rcases List.mem_append.mp he with he | he
    · exact h.tagged e he
    · rw [List.mem_singleton.mp he]

/-- When the run is done, the step tag is ahead of the count by nothing if
all went well and there was a step, and by one otherwise. -/
theorem steps_agree_iff {w : Writer}
    (hends : (Counts unhashable s ∧ (0 < s.step ↔ 0 < inv.maxSteps)) ∨
      Overcounts unhashable s)
    (hlasts : s.runtime.events.clock.Lasts 1)
    (hlost : ∀ e, w.Lost e ↔ s.runtime.events.Lost e ∨
      (w.Lost e ∧ e.data.type = .agentDone)) :
    s.runtime.events.step + 1 = s.totals.steps ↔
      0 < inv.maxSteps ∧ (∀ call ∈ s.calls, call.Hashed unhashable) ∧
        ∀ e, w.Lost e → e.data.IsMutation ∨ e.data.type = .agentDone := by
  show s.runtime.events.step + 1 = (s.step : Int) ↔ _
  rcases hends with ⟨hcounts, hsome⟩ | hover
  · have hkept : ∀ e, w.Lost e →
        e.data.IsMutation ∨ e.data.type = .agentDone := by
      intro e he
      exact ((hlost e).mp he).imp (hcounts.kept e) And.right
    rw [← hsome]
    constructor
    · intro hsteps
      have := hcounts.step
      exact ⟨by omega, hcounts.hashed, hkept⟩
    · rintro ⟨hpos, -⟩
      have := hcounts.step
      omega
  · constructor
    · intro hsteps
      have := hover.step
      omega
    · rintro ⟨-, hhashed, hkept⟩
      rcases hover.cause with hspent | ⟨e, he, hmutation, hdone⟩
        | ⟨call, hcall, hnot⟩
      · exact absurd hlasts hspent
      · rcases hkept e ((hlost e).mpr (Or.inl he)) with h | h
        · exact absurd h hmutation
        · exact absurd h hdone
      · exact absurd (hhashed call hcall) hnot

/-- The event that is written now, and where it was lost if it was. -/
theorem EventWriter.Emitted.done_lost {w w' : Writer} {data : EventData}
    {r : Except Exc Event} (h : w.Emitted data.type data r w')
    (hdone : data.type = .agentDone) (e : Event) :
    w'.Lost e ↔ w.Lost e ∨ (w'.Lost e ∧ e.data.type = .agentDone) := by
  have hsame : ∀ events : List Event,
      e ∈ events ++ [w.next data] →
        e ∈ events ∨ e.data.type = .agentDone := by
    intro events he
    refine (List.mem_append.mp he).imp_right ?_
    intro he
    rw [List.mem_singleton.mp he]
    exact hdone
  constructor
  · intro he
    cases h with
    | written lasts => exact Or.inl he
    | spent spent => exact Or.inl he
    | refused lasts =>
        rcases he with hrefused | hinterrupted
        · exact (hsame _ hrefused).imp Or.inl fun hd => ⟨Or.inl hrefused, hd⟩
        · exact Or.inl (Or.inr hinterrupted)
    | interrupted lasts =>
        rcases he with hrefused | hinterrupted
        · exact Or.inl (Or.inl hrefused)
        · exact (hsame _ hinterrupted).imp Or.inr
            fun hd => ⟨Or.inr hinterrupted, hd⟩
  · rintro (he | ⟨he, -⟩)
    · exact h.lost_mono he
    · exact he

/-- The totals in the lines of a run: there are none before its last event
and there is one set after it. -/
theorem run_totals {s' : Frame ω} {r : Except Exc EventData}
    (h : Counts unhashable (s.did (.setStep 0))) (hzero : s.step = 0)
    (hrun : run inv s = (r, s')) :
    ((∃ done, r = .ok done) → ∃ totals,
      readOff EventData.totals s'.runtime.events.lines = [totals]) ∧
    ∀ totals ∈ readOff EventData.totals s'.runtime.events.lines,
      ((Trace.of s'.runtime.events.lines).totalSteps = totals.steps ↔
        0 < inv.maxSteps ∧ (∀ call ∈ s'.calls, call.Hashed unhashable) ∧
          ∀ e, s'.runtime.events.Lost e →
            e.data.IsMutation ∨ e.data.type = .agentDone) := by
  have hnone : ∀ {w : Writer} {exc : Exc} {P : Totals → Prop}, Running w →
      ((∃ done, (.error exc : Except Exc EventData) = .ok done) →
        ∃ totals, readOff EventData.totals w.lines = [totals]) ∧
      ∀ totals ∈ readOff EventData.totals w.lines, P totals := by
    intro w exc P hrunning
    rw [hrunning.readOff_totals]
    exact ⟨fun ⟨_, hdone⟩ => (nomatch hdone), fun _ ht => nomatch ht⟩
  rcases run_cases hrun with ⟨exc, rfl, calls, news, lost, hwent, -⟩
    | ⟨s₁, news, hwent, -, hrest⟩
  · exact hnone (h.running.leg hwent.leg)
  have hstarted : Counts unhashable s₁ := h.told hwent
  have hfirst : s₁.step = 0 := hwent.step.trans hzero
  rcases hrest with ⟨exc, rfl, htry⟩ | ⟨outcome, s₂, htry, r', hdone, rfl⟩
  · exact hnone (hstarted.tried hfirst htry).1
  obtain ⟨hrunning, hends⟩ := hstarted.tried hfirst htry
  obtain ⟨e, w', hemitted, rfl, rfl⟩ := Frame.emit_cases hdone
  have hlost := hemitted.done_lost rfl
  obtain ⟨htotals, hsteps⟩ := hrunning.done inv outcome
  cases hemitted with
  | written lasts =>
      refine ⟨fun _ => ⟨_, htotals⟩, ?_⟩
      intro totals ht
      have hone : totals = s₂.totals :=
        List.mem_singleton.mp (by rwa [← htotals])
      rw [hone]
      exact (iff_of_eq (congrArg (· = _) hsteps)).trans
        (steps_agree_iff inv (hends outcome rfl) lasts hlost)
  | spent spent => exact hnone hrunning
  | refused lasts => exact hnone ⟨hrunning.tagged, hrunning.undone⟩
  | interrupted lasts =>
      refine ⟨fun ⟨_, hdone⟩ => (nomatch hdone), ?_⟩
      intro totals ht
      have hone : totals = s₂.totals :=
        List.mem_singleton.mp (by rwa [← htotals])
      rw [hone]
      exact (iff_of_eq (congrArg (· = _) hsteps)).trans
        (steps_agree_iff inv (hends outcome rfl) lasts hlost)

end

/-- A run that returns has recorded its totals once. Whenever a run has
recorded them, the trace loader counts as many steps as they say if and only
if the task allows for a step, every call of the client was answered with a
response that can be hashed, and no event was lost but a tool's report of
what it wrote, or the last. -/
theorem totalSteps_agrees (inv : Invocation ω) (world : ω) (clock : Clock)
    (sink : List Event → Event → Receipt)
    (unhashable : LLMResponse → Option Exc) :
    let ran := executeInto inv world clock sink unhashable
    let lines := ran.2.runtime.events.lines
    ((∃ done, ran.1 = .ok done) → ∃ totals,
      readOff EventData.totals lines = [totals]) ∧
    ∀ totals ∈ readOff EventData.totals lines,
      ((Trace.of lines).totalSteps = totals.steps ↔
        0 < inv.maxSteps ∧
          (∀ call ∈ ran.2.calls, call.Hashed unhashable) ∧
          ∀ e, ran.2.runtime.events.Lost e →
            e.data.IsMutation ∨ e.data.type = .agentDone) := by
  intro ran lines
  have hrun : run inv (Frame.into inv world clock sink unhashable)
      = (ran.1, ran.2) := rfl
  refine run_totals inv ?_ rfl hrun
  exact ⟨⟨fun _ he => (nomatch he), fun _ he => (nomatch he)⟩, rfl,
    fun _ he => he.elim (nomatch ·) (nomatch ·), fun _ hc => (nomatch hc),
    rfl⟩

/-- A client that raises at once: the loop has finished no step, and the
trace counts the one it began. -/
theorem totalSteps_counts_crashed :
    (Trace.of (eventsOf (scriptedTask "scripted" []) 0 everyMs)).totalSteps
        = 1 ∧
      (readOff EventData.totals (eventsOf (scriptedTask "scripted" []) 0
        everyMs)).map Totals.steps = [0] := by
  decide +kernel

end AgentAnvil.Sdk
