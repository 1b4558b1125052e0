/-
JSON objects some of whose fields may be left out, and values that contain
another.

`present` makes the object of the fields that are there; a field is looked
up in it as in the list of the fields (`lookup_present`). `Within` says
that every key of a value is in another one with the same value, at every
depth.
-/
import AgentAnvil.Lib.Json
import Mathlib.Data.List.Nodup

namespace Json

-- ========================================================= optional fields

/-- The entries of the fields that are there. -/
def present : List (String × Option Json) → List (String × Json)
  | [] => []
  | (key, some value) :: fields => (key, value) :: present fields
  | (_, none) :: fields => present fields

/-- A key that is no field is not there. -/
theorem lookup_present_none {fields : List (String × Option Json)}
    {key : String} (h : key ∉ fields.map Prod.fst) :
    (present fields).lookup key = none := by
  induction fields with
  | nil => rfl
  | cons field fields ih =>
      obtain ⟨k, value⟩ := field
      rw [List.map_cons, List.mem_cons, not_or] at h
      cases value with
      | none => exact ih h.2
      | some v =>
          rw [present, List.lookup_cons, beq_false_of_ne h.1]
          exact ih h.2

/-- A field is looked up as it was given. -/
theorem lookup_present {fields : List (String × Option Json)}
    (hkeys : (fields.map Prod.fst).Nodup) (key : String) :
    (present fields).lookup key = (fields.lookup key).join := by
  induction fields with
  | nil => rfl
  | cons field fields ih =>
      obtain ⟨k, value⟩ := field
      rw [List.map_cons, List.nodup_cons] at hkeys
      rw [List.lookup_cons]
      by_cases hk : key = k
      · subst hk
        rw [beq_self_eq_true]
        cases value with
        | none =>
            show (present fields).lookup key = none
            exact lookup_present_none hkeys.1
        | some v =>
            rw [present, List.lookup_cons, beq_self_eq_true]
            rfl
      · rw [beq_false_of_ne hk]
        cases value with
        | none => exact ih hkeys.2
        | some v =>
            rw [present, List.lookup_cons, beq_false_of_ne hk]
            exact ih hkeys.2

/-- The entries that are there are the fields that have a value. -/
theorem mem_present {fields : List (String × Option Json)} {key : String}
    {value : Json} :
    (key, value) ∈ present fields ↔ (key, some value) ∈ fields := by
  induction fields with
  | nil => simp [present]
  | cons field fields ih =>
      obtain ⟨k, v⟩ := field
      cases v with
      | none => simp [present, ih]
      | some v => simp [present, ih]

-- ============================================================ containment

mutual

/-- Every key of the first value is in the second, with the same value. -/
def Within : Json → Json → Prop
  | .arr xs, .arr ys => ItemsWithin xs ys
  | .obj kvs, .obj kvs' => EntriesWithin kvs kvs'
  | a, b => a = b

def ItemsWithin : List Json → List Json → Prop
  | [], [] => True
  | x :: xs, y :: ys => Within x y ∧ ItemsWithin xs ys
  | _, _ => False

def EntriesWithin : List (String × Json) → List (String × Json) → Prop
  | [], _ => True
  | (k, x) :: kvs, kvs' =>
      (∃ y, (k, y) ∈ kvs' ∧ Within x y) ∧ EntriesWithin kvs kvs'

end

/-- An object is within another if each of its entries is. -/
theorem entriesWithin_iff {kvs kvs' : List (String × Json)} :
    EntriesWithin kvs kvs'
      ↔ ∀ k x, (k, x) ∈ kvs → ∃ y, (k, y) ∈ kvs' ∧ Within x y := by
  induction kvs with
  | nil => simp [EntriesWithin]
  | cons entry kvs ih =>
      obtain ⟨k, x⟩ := entry
      rw [EntriesWithin, ih]
      constructor
      · rintro ⟨hhead, htail⟩ k' x' hmem
        rcases List.mem_cons.mp hmem with heq | hmem
        · cases heq
          exact hhead
        · exact htail k' x' hmem
      · intro h
        exact ⟨h k x List.mem_cons_self,
          fun k' x' hmem => h k' x' (List.mem_cons_of_mem _ hmem)⟩

/-- Arrays of as many items are within one another if the items are, one by
one. -/
theorem itemsWithin_map {α : Type} {f g : α → Json} {xs : List α}
    (h : ∀ x ∈ xs, Within (f x) (g x)) :
    ItemsWithin (xs.map f) (xs.map g) := by
  induction xs with
  | nil => trivial
  | cons x xs ih =>
      exact ⟨h x List.mem_cons_self,
        ih fun y hy => h y (List.mem_cons_of_mem x hy)⟩

/-- An object whose values are leaves contains itself. -/
theorem within_texts (texts : List (String × String)) :
    Within (.obj (texts.map fun kv => (kv.1, .str kv.2)))
      (.obj (texts.map fun kv => (kv.1, .str kv.2))) := by
  rw [Within, entriesWithin_iff]
  intro k x hmem
  refine ⟨x, hmem, ?_⟩
  obtain ⟨kv, -, heq⟩ := List.mem_map.mp hmem
  cases heq
  rfl

/-- The fields that are there are in an object if each of them is. -/
theorem within_present {fields : List (String × Option Json)}
    {kvs : List (String × Json)}
    (h : fields.Forall fun field => ∃ y, kvs.lookup field.1 = some y ∧
      ∀ x ∈ field.2, Within x y) :
    Within (.obj (present fields)) (.obj kvs) := by
  rw [Within, entriesWithin_iff]
  intro k x hmem
  obtain ⟨y, hlook, hwithin⟩ :=
    List.forall_iff_forall_mem.mp h (k, some x) (mem_present.mp hmem)
  obtain ⟨front, back, hsplit, -⟩ := List.lookup_eq_some_iff.mp hlook
  refine ⟨y, ?_, hwithin x rfl⟩
  rw [hsplit]
  exact List.mem_append_right front List.mem_cons_self

end Json
