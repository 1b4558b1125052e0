/-
Runs of a labelled transition function whose every step meets a guard.

A transition system is a partial function `step : Label → State → Option
State` (`none`: the label is not enabled). `Reaches step guard s t` says
that some run leads from `s` to `t`, each of whose steps meets `guard` in
the state it is taken from. The guard is how a statement picks its runs
(only these actors move, reads are fresh, the clock does not go back), so
one step function serves statements about different environments.

Two induction rules carry everything: `Reaches.invariant` (what every step
preserves holds in every state reached) and `Reaches.relates` (what every
step relates, transitively, holds between the ends of a run). `exec` runs
an explicit list of labels, and `Reaches.of_exec` turns such a run, with
its guards checked by `Meets`, into a `Reaches` fact.
-/
import Mathlib.Logic.Basic

namespace GuardedRun

variable {State Label : Type} (step : Label → State → Option State)

/-- Some run of `step` leads from `s` to the state, each of whose steps
meets `guard` where it is taken. -/
inductive Reaches (guard : State → Label → Prop) (s : State) : State → Prop
  | refl : Reaches guard s s
  | tail {t u : State} (a : Label) :
      Reaches guard s t → guard t a → step a t = some u → Reaches guard s u

variable {step} {guard : State → Label → Prop} {s t u : State}

/-- Runs compose. -/
theorem Reaches.trans (hst : Reaches step guard s t)
    (htu : Reaches step guard t u) : Reaches step guard s u := by
  induction htu with
  | refl => exact hst
  | tail a _ hg hs ih => exact .tail a ih hg hs

/-- The invariant rule: what the start satisfies and every guarded step
preserves holds in every state reached. -/
theorem Reaches.invariant {Inv : State → Prop} (h : Reaches step guard s t)
    (hstep : ∀ v a w, Inv v → guard v a → step a v = some w → Inv w)
    (hinit : Inv s) : Inv t := by
  induction h with
  | refl => exact hinit
  | tail a _ hg hs ih => exact hstep _ a _ ih hg hs

/-- The two-state rule: a reflexive and transitive relation that every
guarded step from an invariant state keeps relates the ends of a run. -/
theorem Reaches.relates {Inv : State → Prop} {R : State → State → Prop}
    (h : Reaches step guard s t)
    (hstep : ∀ v a w, Inv v → guard v a → step a v = some w → Inv w ∧ R v w)
    (hrefl : ∀ v, R v v) (htrans : ∀ v w x, R v w → R w x → R v x)
    (hinit : Inv s) : R s t := by
  suffices hboth : Inv t ∧ R s t from hboth.2
  induction h with
  | refl => exact ⟨hinit, hrefl s⟩
  | tail a _ hg hs ih =>
      obtain ⟨hinv, hR⟩ := hstep _ a _ ih.1 hg hs
      exact ⟨hinv, htrans _ _ _ ih.2 hR⟩

-- ======================================================== explicit runs

variable (step)

/-- Run a list of labels, stopping with `none` at one that is not
enabled. -/
def exec : List Label → State → Option State
  | [], s => some s
  | a :: as, s =>
      match step a s with
      | some t => exec as t
      | none => none

/-- Every label of the list meets the guard where `exec` takes it. -/
def Meets (guard : State → Label → Prop) : List Label → State → Prop
  | [], _ => True
  | a :: as, s =>
      guard s a ∧
        match step a s with
        | some t => Meets guard as t
        | none => True

instance Meets.decidable [∀ s a, Decidable (guard s a)] :
    ∀ (as : List Label) (s : State), Decidable (Meets step guard as s)
  | [], _ => inferInstanceAs (Decidable True)
  | a :: as, s =>
      have : Decidable (match step a s with
          | some t => Meets step guard as t
          | none => True) :=
        match step a s with
        | some t => Meets.decidable as t
        | none => inferInstanceAs (Decidable True)
      inferInstanceAs (Decidable (_ ∧ _))

variable {step}

/-- An explicit run whose labels meet the guard is a guarded run. -/
theorem Reaches.of_exec :
    ∀ {as : List Label} {s t : State}, Meets step guard as s →
      exec step as s = some t → Reaches step guard s t := by
  intro as
  induction as with
  | nil =>
      intro s t _ h
      cases h
      exact .refl
  | cons a as ih =>
      intro s t hm h
      simp only [exec] at h
      simp only [Meets] at hm
      split at h
      next v hv =>
        rw [hv] at hm
        exact (Reaches.tail a .refl hm.1 hv).trans (ih hm.2 h)
      next => cases h

/-- What an explicit run ends with is reached. -/
theorem Reaches.of_exec_map {α : Type} {as : List Label} {s : State}
    {f : State → α} {x : α} (hm : Meets step guard as s)
    (h : (exec step as s).map f = some x) :
    ∃ t, Reaches step guard s t ∧ f t = x := by
  obtain ⟨t, ht, hx⟩ := Option.map_eq_some_iff.mp h
  exact ⟨t, .of_exec hm ht, hx⟩

end GuardedRun
