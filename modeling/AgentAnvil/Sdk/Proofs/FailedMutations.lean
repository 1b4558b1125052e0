/-
What a call of `file_write` or `file_edit` leaves when it fails.

A call is declined before it touches anything, fails on the way to its
store, breaks off in it, or stores the file (`Mutated`), and its event is
the last thing it does. So a call that raises can leave something in three
places, and only there (`Leaves`): `file_write` makes the directories above
its target before it writes, a write empties its file before it stores the
first byte, and an event can be refused when its file is stored.
-/
import AgentAnvil.Sdk.Proofs.Journal

namespace AgentAnvil.Sdk

open Fs

-- ==================================================== statement vocabulary

/-- Everything but this location is as it was, unless it is a directory
that was made on the way to it, where nothing was. -/
def SameBut (q : Location) (t t' : Tree) : Prop :=
  ∀ o, o ≠ q → t'.node o = t.node o ∨
    (t.node o = none ∧ t'.node o = some .directory ∧ o <+: q)

/-- Nothing changed, but that directories were made where nothing was,
above the location the arguments name. -/
def OnlyDirectoriesMade (p : Platform) (workspace : Path)
    (args : List (String × Json)) (t t' : Tree) : Prop :=
  t' = t ∨ ∃ q, Names p workspace args t q ∧ SameBut q t t' ∧
    t'.node q = t.node q

/-- What a call has left that raised this exception. -/
inductive Leaves (p : Platform) (workspace : Path) (tool : FileTool)
    (args : List (String × Json)) (rt : Runtime Disk) (exc : Exc)
    (rt' : Runtime Disk) : Prop where
  /-- directories at most, and an edit not even those -/
  | nothing (events : rt'.events = rt.events)
      (made : OnlyDirectoriesMade p workspace args rt.world.tree
        rt'.world.tree)
      (edit : tool = .edit → rt'.world.tree = rt.world.tree)
  /-- a front part of the file, by a write that broke off -/
  | part {q} (events : rt'.events = rt.events)
      (names : Names p workspace args rt.world.tree q)
      (rest : SameBut q rt.world.tree rt'.world.tree)
      (torn : Torn args q rt.world rt'.world)
  /-- the file, by a call whose event the writer raised on -/
  | stored {q operation sizeBefore bytes}
      (names : Names p workspace args rt.world.tree q)
      (rest : SameBut q rt.world.tree rt'.world.tree)
      (after : rt'.world.tree.node q = some (.file bytes))
      (raised : rt.events.Emitted .fileMutation
        (fileMutation q workspace operation sizeBefore bytes.length bytes).data
        (.error exc) rt'.events)

/-- What a call has left, by how it ended: with an error result, with an
exception, or with success. -/
structure LeavesByOutcome (p : Platform) (workspace : Path) (tool : FileTool)
    (args : List (String × Json)) (rt : Runtime Disk)
    (outcome : Except Exc ToolResult) (rt' : Runtime Disk) : Prop where
  answered : ∀ result, outcome = .ok result → result.isError = true →
    rt'.world.tree = rt.world.tree ∧ rt'.events = rt.events
  raised : ∀ exc, outcome = .error exc →
    Leaves p workspace tool args rt exc rt'
  succeeded : ∀ result, outcome = .ok result → result.isError = false →
    ∃ (m : FileMutation) (e : Event),
      rt'.events.lines = rt.events.lines ++ [e] ∧ e.data = m.data

-- ================================================================ one call

section

variable {p : Platform} {workspace : Path} {timeoutSeconds : Int}
  {tool : FileTool} {args : List (String × Json)} {rt rt' : Runtime Disk}
  {outcome : Except Exc ToolResult} {d' : Disk}

/-- An edit stores, or leaves what it found, or breaks off. -/
theorem edit_failed {exc : Exc} {d : Disk}
    (h : FileEditTool._run p workspace args d = (.error exc, d')) :
    d'.tree = d.tree ∨ ∃ q, Names p workspace args d.tree q ∧
      Reached q d d' ∧ Torn args q d d' := by
  rcases edit_cases h with hdeclined | hedited
  · exact Or.inl hdeclined.tree
  · cases hedited with
    | torn names reached torn => exact Or.inr ⟨_, names, reached, torn⟩

/-- A body that raises has emitted nothing, and has made directories at
most or has broken its write off. -/
theorem leaves_raised {exc : Exc} (htool : tool ≠ .read)
    (hrun : tool._run p workspace args rt.world = (.error exc, d'))
    (hworld : rt'.world = d') (hevents : rt'.events = rt.events) :
    Leaves p workspace tool args rt exc rt' := by
  subst hworld
  by_cases hedit : tool = .edit
  · subst hedit
    rcases edit_failed hrun with hsame | ⟨q, names, reached, torn⟩
    · exact .nothing hevents (Or.inl hsame) fun _ => hsame
    · exact .part hevents names reached.grown torn
  · cases mutated_of_run htool hrun with
    | declined declined =>
        exact .nothing hevents (Or.inl declined.tree) fun h => absurd h hedit
    | failed names reached kept =>
        exact .nothing hevents (Or.inr ⟨_, names, reached.grown, kept⟩)
          fun h => absurd h hedit
    | torn names reached torn =>
        exact .part hevents names reached.grown torn

end

-- ================================================================ examples

def permissionDenied : Exc :=
  ⟨"PermissionError", "[Errno 13] Permission denied"⟩

def noSpace : Exc := ⟨"OSError", "[Errno 28] No space left on device"⟩

/-- A disk with the directory `/ws`, whose call of this number fails. -/
def refusingDisk (call : Nat) : Disk :=
  { workspaceDisk with
    faults := fun n => if n = call then some permissionDenied else none }

/-- A disk with the file `/ws/a.txt`, on which there is no space for another
byte. -/
def fullDisk : Disk :=
  { workspaceDisk with
    tree := workspaceDisk.tree.put ["ws", "a.txt"]
      (.file (Utf8.encode ['o', 'l', 'd'])) (by decide) (by decide)
    torn := fun _ => some (noSpace, 0) }

/-- A write of this path. -/
def writeTo (path : String) (clock : Clock) (d : Disk) :
    Except Exc ToolResult × Runtime Disk :=
  callFileTool (.walking 8) (Path.parse "/ws") 60 .write
    [("path", .str path), ("content", .str "one")]
    { events := .new "task-1" clock, world := d }

end AgentAnvil.Sdk
