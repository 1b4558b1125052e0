/-
A replay clock under an event writer.

Every event takes the pair the clock stands on and moves the clock to the
next pair; reading the clock leaves it where it is. So the clock stands on
the pair of the event that is to come (`after_clock`), and an event more
than recorded raises at the first reading of its timestamps: `tick`, where
the clock has an error of its own for this, is never reached. All this is
about a file that takes every event.
-/
import AgentAnvil.Sdk.Events
import Mathlib.Data.List.Induction

namespace AgentAnvil.Sdk

variable {δ : Type}

-- ============================================================== the calls

/-- What is called on a writer, and on its clock between the events. -/
inductive ClockedCall (δ : Type) where
  | emit (type : EventType) (data : δ)
  | setStep (step : Int)
  | nowIso
  | monotonicNs

namespace ClockedCall

def run : ClockedCall δ → Py (EventWriter δ) Unit
  | .emit type data => do
      let _ ← EventWriter.emit type data
  | .setStep step => EventWriter.setStep step
  | .nowIso => do
      let _ ← EventWriter.onClock Clock.nowIso
  | .monotonicNs => do
      let _ ← EventWriter.onClock Clock.monotonicNs

def isEmit : ClockedCall δ → Bool
  | .emit _ _ => true
  | _ => false

/-- How many events these calls emit, or attempt to. -/
def emits (calls : List (ClockedCall δ)) : Nat := calls.countP isEmit

end ClockedCall

namespace EventWriter

/-- The writer after these calls, of which some may have raised. -/
def after (w : EventWriter δ) (calls : List (ClockedCall δ)) :
    EventWriter δ :=
  calls.foldl (fun w call => (call.run w).2) w

/-- A writer on a replay clock that was just built from these pairs. -/
def replaying (w : EventWriter δ) (pairs : List (String × Int)) :
    EventWriter δ :=
  { w with clock := .replay pairs 0 }

theorem after_concat (w : EventWriter δ) (calls : List (ClockedCall δ))
    (call : ClockedCall δ) :
    w.after (calls ++ [call]) = (call.run (w.after calls)).2 := by
  unfold after
  rw [List.foldl_concat]

end EventWriter

/-- Event number `k` of the calls carries pair number `k` and is appended to
the file; the event after the last pair raises the clock's own error and
appends nothing. -/
structure InStep (pairs : List (String × Int)) (w : EventWriter δ)
    (calls : List (ClockedCall δ)) : Prop where
  carries : ∀ (before after : List (ClockedCall δ)) (type : EventType)
    (data : δ), calls = before ++ .emit type data :: after →
    ∀ pair, pairs[ClockedCall.emits before]? = some pair →
      ∃ event,
        (EventWriter.emit type data (w.after before)).1 = .ok event ∧
        (event.ts, event.monotonicNs) = pair ∧
        (w.after (before ++ [.emit type data])).lines
          = (w.after before).lines ++ [event]
  exhausts : ∀ (before after : List (ClockedCall δ)) (type : EventType)
    (data : δ), calls = before ++ .emit type data :: after →
    ClockedCall.emits before = pairs.length →
      (EventWriter.emit type data (w.after before)).1
        = .error Clock.exhausted ∧
      (w.after (before ++ [.emit type data])).lines = (w.after before).lines

-- =========================================================== one call more

section

variable {w : EventWriter δ} {pairs : List (String × Int)} {idx : Nat}

/-- Asking a replay clock for the time does not move it. -/
theorem Clock.nowIso_replay (pairs : List (String × Int)) (idx : Nat) :
    (Clock.nowIso (.replay pairs idx)).2 = .replay pairs idx := by
  rw [Clock.nowIso]
  split
  · rfl
  · rfl

theorem Clock.monotonicNs_replay (pairs : List (String × Int)) (idx : Nat) :
    (Clock.monotonicNs (.replay pairs idx)).2 = .replay pairs idx := by
  rw [Clock.monotonicNs]
  split
  · rfl
  · rfl

/-- A reading that leaves the clock where it is leaves the writer as it
is. -/
theorem read_keeps {α : Type} {m : Py Clock α}
    (hm : (m w.clock).2 = w.clock) :
    ((do let _ ← EventWriter.onClock m : Py (EventWriter δ) Unit) w).2
      = w := by
  have hread : EventWriter.onClock m w = ((m w.clock).1, w) := by
    unfold EventWriter.onClock Py.zoom
    rw [hm]
  cases hr : (m w.clock).1 with
  | ok a =>
      rw [hr] at hread
      rw [Py.bind_ok hread]
      rfl
  | error exc =>
      rw [hr] at hread
      rw [Py.bind_error hread]

theorem read_sink {α : Type} (m : Py Clock α) :
    ((do let _ ← EventWriter.onClock m : Py (EventWriter δ) Unit) w).2.sink
      = w.sink := by
  have hread : EventWriter.onClock m w
      = ((m w.clock).1, { w with clock := (m w.clock).2 }) := rfl
  cases hr : (m w.clock).1 with
  | ok a =>
      rw [hr] at hread
      rw [Py.bind_ok hread]
      rfl
  | error exc =>
      rw [hr] at hread
      rw [Py.bind_error hread]

/-- What a file takes is not changed by calls. -/
theorem ClockedCall.run_sink (call : ClockedCall δ) (htakes : w.Takes) :
    (call.run w).2.sink = w.sink := by
  cases call with
  | emit type data =>
      by_cases hlasts : w.clock.Lasts 1
      · rw [ClockedCall.run,
          Py.bind_ok (EventWriter.emit_of_lasts hlasts htakes _ _)]
        rfl
      · rw [ClockedCall.run,
          Py.bind_error (EventWriter.emit_of_spent hlasts _ _)]
  | setStep step => rfl
  | nowIso => exact read_sink Clock.nowIso
  | monotonicNs => exact read_sink Clock.monotonicNs

/-- A call that emits moves the clock by one pair as long as there is one,
and the other calls do not move it. -/
theorem run_clock {k : Nat} (call : ClockedCall δ) (htakes : w.Takes)
    (hclock : w.clock = .replay pairs (min k pairs.length)) :
    (call.run w).2.clock
      = .replay pairs (min (k + ClockedCall.emits [call]) pairs.length) := by
  cases call with
  | emit type data =>
      by_cases hlasts : w.clock.Lasts 1
      · rw [ClockedCall.run, Py.bind_ok (EventWriter.emit_of_lasts hlasts htakes _ _)]
        rw [hclock] at hlasts
        have hmin : min k pairs.length + 1
            = min (k + 1) pairs.length := by
          have : min k pairs.length + 1 ≤ pairs.length := hlasts
          omega
        show w.clock.afterEmit = _
        rw [hclock, Clock.afterEmit, hmin]
        rfl
      · rw [ClockedCall.run,
          Py.bind_error (EventWriter.emit_of_spent hlasts _ _)]
        rw [hclock] at hlasts
        have hmin : min k pairs.length = min (k + 1) pairs.length := by
          have : ¬ min k pairs.length + 1 ≤ pairs.length := hlasts
          omega
        rw [hclock, hmin]
        rfl
  | setStep step => exact hclock
  | nowIso =>
      rw [ClockedCall.run, read_keeps, hclock]
      · rfl
      · rw [hclock, Clock.nowIso_replay]
  | monotonicNs =>
      rw [ClockedCall.run, read_keeps, hclock]
      · rfl
      · rw [hclock, Clock.monotonicNs_replay]

end

-- =============================================================== the calls

section

variable (w : EventWriter δ) (pairs : List (String × Int))

/-- Whatever was called, the file takes every event. -/
theorem after_takes (htakes : w.Takes) (calls : List (ClockedCall δ)) :
    ((w.replaying pairs).after calls).Takes := by
  induction calls using List.reverseRecOn with
  | nil => exact htakes
  | append_singleton calls call ih =>
      intro lines event
      rw [EventWriter.after_concat, call.run_sink ih]
      exact ih lines event

/-- The clock stands on the pair of the event that is to come. -/
theorem after_clock (htakes : w.Takes) (calls : List (ClockedCall δ)) :
    ((w.replaying pairs).after calls).clock
      = .replay pairs (min (ClockedCall.emits calls) pairs.length) := by
  induction calls using List.reverseRecOn with
  | nil =>
      have hstart : min 0 pairs.length = 0 :=
        Nat.min_eq_left (Nat.zero_le _)
      show Clock.replay pairs 0 = .replay pairs (min 0 pairs.length)
      rw [hstart]
  | append_singleton calls call ih =>
      rw [EventWriter.after_concat,
        run_clock call (after_takes w pairs htakes calls) ih]
      simp only [ClockedCall.emits, List.countP_append]

variable {w pairs} {before : List (ClockedCall δ)}

/-- An event for which there is a pair. -/
theorem emit_recorded (htakes : w.Takes) {pair : String × Int}
    (hpair : pairs[ClockedCall.emits before]? = some pair) (type : EventType)
    (data : δ) :
    ∃ event,
      EventWriter.emit type data ((w.replaying pairs).after before)
        = (.ok event, ((w.replaying pairs).after before).written type data) ∧
      (event.ts, event.monotonicNs) = pair ∧
      (((w.replaying pairs).after before).written type data).lines
        = ((w.replaying pairs).after before).lines ++ [event] := by
  have hk : ClockedCall.emits before < pairs.length :=
    (List.getElem?_eq_some_iff.mp hpair).1
  have hclock := after_clock w pairs htakes before
  rw [Nat.min_eq_left hk.le] at hclock
  have hlasts : ((w.replaying pairs).after before).clock.Lasts 1 := by
    rw [hclock]
    exact hk
  refine ⟨_, EventWriter.emit_of_lasts hlasts
    (after_takes w pairs htakes before) type data, ?_, rfl⟩
  show ((w.replaying pairs).after before).clock.stamp = pair
  rw [hclock, Clock.stamp, Clock.pairAt, hpair, Option.getD_some]

/-- An event for which there is no pair. -/
theorem emit_overrun (htakes : w.Takes)
    (hk : pairs.length ≤ ClockedCall.emits before)
    (type : EventType) (data : δ) :
    EventWriter.emit type data ((w.replaying pairs).after before)
      = (.error Clock.indexError, (w.replaying pairs).after before) := by
  apply EventWriter.emit_of_spent
  rw [after_clock w pairs htakes, Nat.min_eq_right hk]
  exact Nat.not_succ_le_self _

/-- Where more events are emitted than this, there is the one after it. -/
theorem exists_emit_of_lt {calls : List (ClockedCall δ)} {n : Nat}
    (h : n < ClockedCall.emits calls) :
    ∃ before type data after,
      calls = before ++ .emit type data :: after ∧
      ClockedCall.emits before = n := by
  induction calls using List.reverseRecOn with
  | nil => exact absurd h (Nat.not_lt_zero n)
  | append_singleton calls call ih =>
      by_cases hn : n < ClockedCall.emits calls
      · obtain ⟨before, type, data, after, rfl, hbefore⟩ := ih hn
        exact ⟨before, type, data, after ++ [call], by simp, hbefore⟩
      · unfold ClockedCall.emits at h
        rw [List.countP_append, List.countP_singleton] at h
        cases call with
        | emit type data =>
            refine ⟨calls, type, data, [], rfl, ?_⟩
            rw [ClockedCall.isEmit, if_pos rfl] at h
            exact Nat.le_antisymm (Nat.not_lt.mp hn) (Nat.lt_succ_iff.mp h)
        | setStep step => exact absurd h hn
        | nowIso => exact absurd h hn
        | monotonicNs => exact absurd h hn

end

/-- A replay clock is in step with a writer, up to the error it declares,
if and only if no more events are emitted than were recorded. -/
theorem replay_in_step_iff {w : EventWriter δ} (htakes : w.Takes)
    (pairs : List (String × Int)) (calls : List (ClockedCall δ)) :
    InStep pairs (w.replaying pairs) calls
      ↔ ClockedCall.emits calls ≤ pairs.length := by
  constructor
  · intro hstep
    by_contra hover
    obtain ⟨before, type, data, after, hcalls, hbefore⟩ :=
      exists_emit_of_lt (Nat.not_le.mp hover)
    have hraised := (hstep.exhausts before after type data hcalls hbefore).1
    rw [emit_overrun htakes hbefore.ge] at hraised
    exact absurd (Except.error.inj hraised) (by decide)
  · intro hcount
    constructor
    · intro before after type data _ pair hpair
      obtain ⟨event, hemit, hevent, hlines⟩ :=
        emit_recorded htakes hpair type data
      refine ⟨event, congrArg Prod.fst hemit, hevent, ?_⟩
      rw [EventWriter.after_concat, ClockedCall.run, Py.bind_ok hemit,
        Py.pure_apply, hlines]
    · rintro before after type data rfl hbefore
      unfold ClockedCall.emits at hcount
      rw [List.countP_append, List.countP_cons_of_pos rfl] at hcount
      change ClockedCall.emits before + _ ≤ _ at hcount
      omega

-- ================================================================ examples

/-- A writer for which one event was recorded. -/
def onceRecorded : EventWriter Unit :=
  (EventWriter.new "t1" (.system (fun _ => "") (fun _ => 0) 0)).replaying
    [("2026-01-15T10:30:00.123Z", 1000)]

/-- One recorded pair, read once and emitted under. -/
theorem replay_in_step_once :
    InStep [("2026-01-15T10:30:00.123Z", 1000)]
        ((EventWriter.new "t1" (.system (fun _ => "") (fun _ => 0) 0) :
          EventWriter Unit).replaying [("2026-01-15T10:30:00.123Z", 1000)])
        [.nowIso, .emit .agentStart ()]
      ↔ ClockedCall.emits [.nowIso, .emit .agentStart (δ := Unit) ()] ≤ 1 :=
  replay_in_step_iff (fun _ _ => rfl) _ _

/-- The second of two events raises what reading past the end of the
recording raises. -/
theorem replay_overrun_raises_index_error :
    (EventWriter.emit .agentDone ()
        (onceRecorded.after [.nowIso, .emit .agentStart ()])).1
      = .error ⟨"IndexError", "list index out of range"⟩ ∧
    ¬ InStep [("2026-01-15T10:30:00.123Z", 1000)] onceRecorded
        [.nowIso, .emit .agentStart (), .emit .agentDone ()] := by
  refine ⟨rfl, ?_⟩
  intro hstep
  have hraised := (hstep.exhausts [.nowIso, .emit .agentStart ()] []
    .agentDone () rfl rfl).1
  exact absurd (Except.error.inj hraised) (by decide)

end AgentAnvil.Sdk
