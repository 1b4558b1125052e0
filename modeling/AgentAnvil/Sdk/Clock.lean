/-
The clocks of `deterministic.py`.

A system clock is the sequence of readings the OS will give: reading `n`
is `wall n` as ISO text, or `mono n` in nanoseconds, whichever is asked
for, and every call takes the next reading. A replay clock stands on one
recorded pair until it is ticked; reading it past the last pair is an
IndexError, ticking it there a RuntimeError.

Next to the calls stand total views of the same: what a call would answer
(`time`, `stamp`), and the clock after it (`afterRead`, `afterEmit`). They
agree with the calls as long as the clock lasts (`Lasts`).
-/
import AgentAnvil.Lib.Py

namespace AgentAnvil.Sdk

inductive Clock where
  | system (wall : Nat → String) (mono : Nat → Int) (reads : Nat)
  | replay (pairs : List (String × Int)) (idx : Nat)

namespace Clock

-- ============================================================== the calls

def indexError : Exc := ⟨"IndexError", "list index out of range"⟩

def exhausted : Exc :=
  ⟨"RuntimeError", "ReplayClock exhausted: more events than recorded"⟩

def nowIso : Py Clock String
  | .system wall mono reads => (.ok (wall reads), .system wall mono (reads + 1))
  | .replay pairs idx =>
      match pairs[idx]? with
      | some pair => (.ok pair.1, .replay pairs idx)
      | none => (.error indexError, .replay pairs idx)

def monotonicNs : Py Clock Int
  | .system wall mono reads => (.ok (mono reads), .system wall mono (reads + 1))
  | .replay pairs idx =>
      match pairs[idx]? with
      | some pair => (.ok pair.2, .replay pairs idx)
      | none => (.error indexError, .replay pairs idx)

/-- `tick`, where the clock has one: a system clock has not. -/
def tick : Py Clock Unit
  | .system wall mono reads => (.ok (), .system wall mono reads)
  | .replay pairs idx =>
      if pairs.length ≤ idx then (.error exhausted, .replay pairs idx)
      else (.ok (), .replay pairs (idx + 1))

-- ======================================================== the total views

/-- The pair a replay clock stands on. -/
def pairAt (pairs : List (String × Int)) (idx : Nat) : String × Int :=
  pairs[idx]?.getD ("", 0)

/-- What `monotonicNs` answers. -/
def time : Clock → Int
  | .system _ mono reads => mono reads
  | .replay pairs idx => (pairAt pairs idx).2

def afterRead : Clock → Clock
  | .system wall mono reads => .system wall mono (reads + 1)
  | .replay pairs idx => .replay pairs idx

/-- The timestamps an emitted event carries. -/
def stamp : Clock → String × Int
  | .system wall mono reads => (wall reads, mono (reads + 1))
  | .replay pairs idx => pairAt pairs idx

def afterEmit : Clock → Clock
  | .system wall mono reads => .system wall mono (reads + 2)
  | .replay pairs idx => .replay pairs (idx + 1)

/-- The clock has the timestamps for this many events. -/
def Lasts (n : Nat) : Clock → Prop
  | .system _ _ _ => True
  | .replay pairs idx => idx + n ≤ pairs.length

/-- The readings do not go back. -/
def Steady : Clock → Prop
  | .system _ mono _ => ∀ ⦃m n : Nat⦄, m ≤ n → mono m ≤ mono n
  | .replay pairs _ => (pairs.map Prod.snd).Pairwise (· ≤ ·)

/-- A system clock lasts. -/
theorem lasts_system (wall : Nat → String) (mono : Nat → Int)
    (reads n : Nat) : (Clock.system wall mono reads).Lasts n := trivial

theorem Lasts.mono {m n : Nat} {c : Clock} (h : c.Lasts n) (hle : m ≤ n) :
    c.Lasts m := by
  cases c with
  | system wall mono reads => trivial
  | replay pairs idx => exact Nat.le_trans (Nat.add_le_add_left hle idx) h

/-- A reading uses no timestamp up: a replay clock stays on its pair. -/
theorem Lasts.afterRead {n : Nat} {c : Clock} (h : c.Lasts n) :
    c.afterRead.Lasts n := by
  cases c with
  | system wall mono reads => trivial
  | replay pairs idx => exact h

/-- An event does. -/
theorem Lasts.afterEmit {n : Nat} {c : Clock} (h : c.Lasts (n + 1)) :
    c.afterEmit.Lasts n := by
  cases c with
  | system wall mono reads => trivial
  | replay pairs idx =>
      have hlen : idx + (n + 1) ≤ pairs.length := h
      show idx + 1 + n ≤ pairs.length
      omega

/-- As long as the clock lasts, the call answers what `time` says. -/
theorem monotonicNs_of_lasts {c : Clock} (h : c.Lasts 1) :
    monotonicNs c = (.ok c.time, c.afterRead) := by
  cases c with
  | system wall mono reads => rfl
  | replay pairs idx =>
      have hidx : idx < pairs.length := h
      simp only [monotonicNs, time, pairAt, List.getElem?_eq_getElem hidx]
      rfl

/-- The ISO text is the first half of the stamp. -/
theorem nowIso_of_lasts {c : Clock} (h : c.Lasts 1) :
    nowIso c = (.ok c.stamp.1, c.afterRead) := by
  cases c with
  | system wall mono reads => rfl
  | replay pairs idx =>
      have hidx : idx < pairs.length := h
      simp only [nowIso, stamp, pairAt, List.getElem?_eq_getElem hidx]
      rfl

/-- A clock that lasts for no more is a replay clock past its last pair:
reading it raises, and not ticking it. -/
theorem nowIso_of_spent {c : Clock} (h : ¬ c.Lasts 1) :
    nowIso c = (.error indexError, c) := by
  cases c with
  | system wall mono reads => exact absurd trivial h
  | replay pairs idx =>
      have hidx : pairs.length ≤ idx := Nat.not_lt.mp h
      simp only [nowIso, List.getElem?_eq_none hidx]

theorem monotonicNs_of_spent {c : Clock} (h : ¬ c.Lasts 1) :
    monotonicNs c = (.error indexError, c) := by
  cases c with
  | system wall mono reads => exact absurd trivial h
  | replay pairs idx =>
      have hidx : pairs.length ≤ idx := Nat.not_lt.mp h
      simp only [monotonicNs, List.getElem?_eq_none hidx]

/-- A clock that is spent stays so. -/
theorem Lasts.of_afterRead {n : Nat} {c : Clock} (h : c.afterRead.Lasts n) :
    c.Lasts n := by
  cases c with
  | system wall mono reads => trivial
  | replay pairs idx => exact h

theorem Lasts.of_afterEmit {n : Nat} {c : Clock} (h : c.afterEmit.Lasts n) :
    c.Lasts n := by
  cases c with
  | system wall mono reads => trivial
  | replay pairs idx =>
      have hlen : idx + 1 + n ≤ pairs.length := h
      show idx + n ≤ pairs.length
      omega

/-- The second reading of a stamp is the one after the first. -/
theorem time_afterRead (c : Clock) : c.afterRead.time = c.stamp.2 := by
  cases c with
  | system wall mono reads => rfl
  | replay pairs idx => rfl

/-- Two readings and a tick are what an emitted event takes. -/
theorem tick_of_lasts {c : Clock} (h : c.Lasts 1) :
    tick c.afterRead.afterRead = (.ok (), c.afterEmit) := by
  cases c with
  | system wall mono reads => rfl
  | replay pairs idx =>
      have hidx : ¬ pairs.length ≤ idx := Nat.not_le.mpr h
      simp only [tick, afterRead]
      rw [if_neg hidx]
      rfl

-- ==================================================== clocks that are steady

theorem Steady.afterRead {c : Clock} (h : c.Steady) : c.afterRead.Steady := by
  cases c <;> exact h

theorem Steady.afterEmit {c : Clock} (h : c.Steady) : c.afterEmit.Steady := by
  cases c <;> exact h

theorem Steady.time_le_afterRead {c : Clock} (h : c.Steady) :
    c.time ≤ c.afterRead.time := by
  cases c with
  | system wall mono reads => exact h (Nat.le_succ reads)
  | replay pairs idx => exact Int.le_refl _

/-- The next reading is no earlier than the stamp before it. A replay clock
has to have one more pair: past the last, `time` says nothing. -/
theorem Steady.stamp_le {c : Clock} (h : c.Steady) (hlasts : c.Lasts 2) :
    c.stamp.2 ≤ c.afterEmit.time := by
  cases c with
  | system wall mono reads => exact h (Nat.le_succ (reads + 1))
  | replay pairs idx =>
      have hnext : idx + 1 < pairs.length := hlasts
      have hidx : idx < pairs.length := by omega
      have hpair := List.pairwise_iff_getElem.mp h idx (idx + 1)
        (by rwa [List.length_map]) (by rwa [List.length_map])
        (Nat.lt_succ_self idx)
      rw [List.getElem_map, List.getElem_map] at hpair
      show (pairAt pairs idx).2 ≤ (pairAt pairs (idx + 1)).2
      simpa only [pairAt, List.getElem?_eq_getElem hidx,
        List.getElem?_eq_getElem hnext, Option.getD_some] using hpair

end Clock

end AgentAnvil.Sdk
