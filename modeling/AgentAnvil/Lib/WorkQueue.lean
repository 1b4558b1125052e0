/-
Level-triggered work: a queue of keys, a view that lags behind the world,
and a worker that is told which key to look at and never why.

The world moves by itself. The view learns something of the world, in any
order and however late, and what it learns wakes some keys. The worker
takes a queued key, acts on the world by what the view shows of it, and is
done with it or not; a key it is not done with stays queued. At any time
the worker may be started anew, with an empty queue and a blank view.

The worker may forget a key only when there is nothing left to do for it,
or when the world has moved on from what the view shows, so that something
is still to be learnt. `Obligations` says so for one label of each kind,
`Attended` is what a run makes of it, and `handled_of_idle` the point of
it: a key that is not queued, and of which the view shows what there is,
has been handled. No wake-up is lost.
-/
import AgentAnvil.Lib.GuardedRun

namespace WorkQueue

-- ============================================================== the parts

/-- What moves, what is learnt, and what the worker does. -/
structure Worker (World View Key Move News Job : Type) where
  /-- what a worker that has just been started sees -/
  blank : View
  move : Move → World → Option World
  /-- the view afterwards, and the keys that are woken -/
  learn : News → World → View → Option (View × List Key)
  /-- whether the worker is done with the key, and the world afterwards -/
  work : Key → Job → World → View → Bool × World

structure State (World View Key : Type) where
  world : World
  view : View
  queue : List Key

inductive Label (Key Move News Job : Type) where
  | move (m : Move)
  | learn (n : News)
  | work (k : Key) (j : Job)
  | restart

variable {World View Key Move News Job : Type} [DecidableEq Key]

/-- A key that is queued twice is queued. -/
def step (w : Worker World View Key Move News Job)
    (a : Label Key Move News Job) (s : State World View Key) :
    Option (State World View Key) :=
  match a with
  | .move m => (w.move m s.world).map fun world => { s with world }
  | .learn n =>
      (w.learn n s.world s.view).map fun learnt =>
        { s with view := learnt.1, queue := learnt.2 ++ s.queue }
  | .work k j =>
      if k ∈ s.queue then
        let did := w.work k j s.world s.view
        some
          { s with
            world := did.2
            queue := if did.1 then s.queue.filter (· ≠ k) else s.queue }
      else none
  | .restart => some { s with view := w.blank, queue := [] }

-- =============================================================== the rule

/-- Every key is queued, or the world has moved on from what the view
shows of it, or there is nothing left to do for it. -/
def Attended (stale : World → View → Key → Prop) (handled : View → Key → Prop)
    (s : State World View Key) : Prop :=
  ∀ k, k ∈ s.queue ∨ stale s.world s.view k ∨ handled s.view k

/-- What is asked of the parts, in the states of an invariant. -/
structure Obligations (w : Worker World View Key Move News Job)
    (Inv : State World View Key → Prop) (stale : World → View → Key → Prop)
    (handled : View → Key → Prop) : Prop where
  /-- of nothing there is nothing to do -/
  blank : ∀ {k}, handled w.blank k
  /-- the world does not move back to what the view shows -/
  move : ∀ {s m world k}, Inv s → w.move m s.world = some world →
    stale s.world s.view k → stale world s.view k
  /-- what is learnt of a key wakes it -/
  learn : ∀ {s n view woken k}, Inv s →
    w.learn n s.world s.view = some (view, woken) → k ∉ woken →
      (stale s.world s.view k → stale s.world view k)
        ∧ (handled s.view k → handled view k)
  /-- neither does the worker move the world back -/
  work : ∀ {s k j k'}, Inv s → stale s.world s.view k' →
    stale (w.work k j s.world s.view).2 s.view k'
  /-- the worker is done with what it has moved on or handled -/
  done : ∀ {s k j}, Inv s → (w.work k j s.world s.view).1 = true →
    stale (w.work k j s.world s.view).2 s.view k ∨ handled s.view k

variable {w : Worker World View Key Move News Job}
  {Inv : State World View Key → Prop} {stale : World → View → Key → Prop}
  {handled : View → Key → Prop} {s s' : State World View Key}

/-- A label keeps every key attended. -/
theorem Attended.step (hob : Obligations w Inv stale handled) (hinv : Inv s)
    (h : Attended stale handled s) {a : Label Key Move News Job}
    (hs : WorkQueue.step w a s = some s') : Attended stale handled s' := by
  intro k
  cases a with
  | move m =>
      obtain ⟨world, hmove, rfl⟩ := Option.map_eq_some_iff.mp hs
      rcases h k with hqueued | hstale | hhandled
      · exact Or.inl hqueued
      · have hmoved := hob.move hinv hmove hstale
        exact Or.inr (Or.inl hmoved)
      · exact Or.inr (Or.inr hhandled)
  | learn n =>
      obtain ⟨⟨view, woken⟩, hlearn, rfl⟩ := Option.map_eq_some_iff.mp hs
      show k ∈ woken ++ s.queue ∨ _
      by_cases hwoken : k ∈ woken
      · exact Or.inl (List.mem_append_left _ hwoken)
      · obtain ⟨hstale, hhandled⟩ := hob.learn hinv hlearn hwoken
        exact (h k).imp (List.mem_append_right _)
          (Or.imp hstale hhandled)
  | work k' j =>
      simp only [WorkQueue.step] at hs
      split at hs
      next =>
        cases hs
        show k ∈ (if _ then _ else _) ∨ _
        rcases h k with hqueued | hstale | hhandled
        · by_cases hdone : (w.work k' j s.world s.view).1 = true
          · rw [if_pos hdone]
            by_cases hk : k = k'
            · subst hk
              exact Or.inr (hob.done hinv hdone)
            · left
              simp [hqueued, hk]
          · rw [if_neg hdone]
            exact Or.inl hqueued
        · exact Or.inr (Or.inl (hob.work hinv hstale))
        · exact Or.inr (Or.inr hhandled)
      next => cases hs
  | restart =>
      cases hs
      exact Or.inr (Or.inr hob.blank)

/-- Every key is attended in every state of a run. -/
theorem attended_of_reaches (hob : Obligations w Inv stale handled)
    {guard : State World View Key → Label Key Move News Job → Prop}
    (h : GuardedRun.Reaches (step w) guard s s')
    (hstep : ∀ v a u, Inv v → guard v a → step w a v = some u → Inv u)
    (hinit : Inv s) (hs : Attended stale handled s) :
    Attended stale handled s' := by
  suffices hboth : Inv s' ∧ Attended stale handled s' from hboth.2
  induction h with
  | refl => exact ⟨hinit, hs⟩
  | tail a _ hg hu ih =>
      exact ⟨hstep _ a _ ih.1 hg hu, ih.2.step hob ih.1 hu⟩

omit [DecidableEq Key] in
/-- What is neither queued nor still to be learnt has been handled. -/
theorem Attended.handled_of_idle (h : Attended stale handled s) {k : Key}
    (hidle : k ∉ s.queue) (hsync : ¬ stale s.world s.view k) :
    handled s.view k := by
  rcases h k with hqueued | hstale | hhandled
  · exact absurd hqueued hidle
  · exact absurd hstale hsync
  · exact hhandled

end WorkQueue
