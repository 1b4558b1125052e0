/-
A store of values under keys, and what can be told of it by those who use
it.

A user sees a value under a key or puts one there; a history is what the
users have seen and put, in order. `Replays` says that a store explains a
history: from its first state, every value that was seen was there, and the
last state is what was put into the first. Whatever is seen is then what
was last put under that key, or was there at first (`Replays.seen`), and so
is what is there in the end (`Replays.final`).
-/
import Mathlib.Logic.Function.Basic

namespace KeyedStore

/-- What a user does with one key. -/
inductive Access (Key Value : Type) where
  | seen (k : Key) (v : Value)
  | put (k : Key) (v : Value)

abbrev Store (Key Value : Type) := Key → Option Value

variable {Key Value : Type} [DecidableEq Key]

/-- From one state of the store to another by a history. -/
def Replays (s : Store Key Value) :
    List (Access Key Value) → Store Key Value → Prop
  | [], s' => s = s'
  | .seen k v :: later, s' => s k = some v ∧ Replays s later s'
  | .put k v :: later, s' => Replays (Function.update s k (some v)) later s'

/-- The value last put under a key. -/
def lastPut (k : Key) : List (Access Key Value) → Option Value
  | [] => none
  | .seen _ _ :: later => lastPut k later
  | .put k' v :: later =>
      (lastPut k later).or (if k = k' then some v else none)

variable {s s' s'' : Store Key Value} {front later : List (Access Key Value)}
  {k : Key} {v : Value}

/-- The later put counts. -/
theorem lastPut_append :
    lastPut k (front ++ later) = (lastPut k later).or (lastPut k front) := by
  induction front with
  | nil => simp [lastPut]
  | cons a front ih =>
      cases a with
      | seen k' v => exact ih
      | put k' v =>
          simp only [List.cons_append, lastPut, ih, Option.or_assoc]

/-- Nothing is last where nothing was put. -/
theorem lastPut_eq_none (h : ∀ v, Access.put k v ∉ later) :
    lastPut k later = none := by
  induction later with
  | nil => rfl
  | cons a later ih =>
      have htail := ih fun v hv => h v (List.mem_cons_of_mem a hv)
      cases a with
      | seen k' v => exact htail
      | put k' v =>
          have hne : k ≠ k' := by
            intro hk
            exact h v (hk ▸ List.mem_cons_self)
          simp [lastPut, htail, hne]

namespace Replays

/-- One history after another. -/
theorem append (h : Replays s front s') (h' : Replays s' later s'') :
    Replays s (front ++ later) s'' := by
  induction front generalizing s with
  | nil =>
      have hs : s = s' := h
      rw [hs]
      exact h'
  | cons a front ih =>
      cases a with
      | seen k v => exact ⟨h.1, ih h.2⟩
      | put k v => exact ih h

/-- The state in between. -/
theorem split (h : Replays s (front ++ later) s') :
    ∃ mid, Replays s front mid ∧ Replays mid later s' := by
  induction front generalizing s with
  | nil => exact ⟨s, rfl, h⟩
  | cons a front ih =>
      cases a with
      | seen k v =>
          obtain ⟨mid, hfront, hlater⟩ := ih h.2
          exact ⟨mid, ⟨h.1, hfront⟩, hlater⟩
      | put k v => exact ih h

/-- What is there in the end was put there last, or was there at first. -/
theorem final (h : Replays s front s') :
    s' k = (lastPut k front).or (s k) := by
  induction front generalizing s with
  | nil =>
      have hs : s = s' := h
      rw [hs]
      rfl
  | cons a front ih =>
      cases a with
      | seen k' v => exact ih h.2
      | put k' v =>
          rw [ih h, lastPut]
          by_cases hk : k = k'
          · subst hk
            simp
          · simp [hk]

/-- What is seen was put there last, or was there at first. -/
theorem seen (h : Replays s (front ++ .seen k v :: later) s') :
    (lastPut k front).or (s k) = some v := by
  obtain ⟨mid, hfront, hlater⟩ := h.split
  rw [← hfront.final]
  exact hlater.1

end Replays

end KeyedStore
