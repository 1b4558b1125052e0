/-
A disk and the calls a program makes on it, as `pathlib` makes them.

Every call takes a location that is resolved: it follows no link. Any call
may fail, with whatever exception the disk has in store for it. A write
opens its file first, which empties it, so one that breaks off leaves a
front part of its bytes, perhaps nothing (`torn`). `accesses` is a ghost:
the files opened, for reading or for writing, and the directories made.

Each call has one lemma that says all it can do (`…_spec`), and one that
says what it does when nothing fails (`…_ok`).
-/
import AgentAnvil.Lib.FileTree
import AgentAnvil.Lib.Py

namespace Fs

-- =================================================================== disks

/-- Why a call fails of itself. -/
inductive OsError where
  | notFound
  | alreadyExists
  | notADirectory
  | isADirectory
  | tooManyLinks
  deriving DecidableEq, Repr

/-- The class Python raises it as. -/
def OsError.type : OsError → String
  | .notFound => "FileNotFoundError"
  | .alreadyExists => "FileExistsError"
  | .notADirectory => "NotADirectoryError"
  | .isADirectory => "IsADirectoryError"
  | .tooManyLinks => "OSError"

inductive Access where
  | read (q : Location)
  | write (q : Location)
  | made (q : Location)
  deriving DecidableEq, Repr

def Access.location : Access → Location
  | .read q => q
  | .write q => q
  | .made q => q

structure Disk where
  tree : Tree
  /-- the number of calls made -/
  calls : Nat
  /-- what the call of that number raises instead of being carried out -/
  faults : Nat → Option Exc
  /-- what a write raises after it has stored so many bytes, by the number
  of calls made -/
  torn : Nat → Option (Exc × Nat)
  errorText : OsError → Location → String
  /-- what `stat` says of the size of a directory -/
  directorySize : Location → Nat
  accesses : List Access

namespace Disk

/-- The disk after one more call. -/
def called (d : Disk) : Disk := { d with calls := d.calls + 1 }

def logged (d : Disk) (a : Access) : Disk :=
  { d with accesses := d.accesses ++ [a] }

/-- No write breaks off: it stores all of its bytes, or fails before it
opens the file. -/
def Whole (d : Disk) : Prop := ∀ n, d.torn n = none

/-- No call fails but of itself, unless it is a write that breaks off. -/
def Sound (d : Disk) : Prop := ∀ n, d.faults n = none

/-- A disk with a tree, on which no call was made and none will fail. -/
def ofTree (t : Tree) : Disk where
  tree := t
  calls := 0
  faults _ := none
  torn _ := none
  errorText _ _ := ""
  directorySize _ := 4096
  accesses := []

/-- How much of some bytes a write stores, and how it ends. -/
def writing (d : Disk) (bytes : List UInt8) : List UInt8 × Except Exc Unit :=
  match d.torn d.calls with
  | some (exc, stored) => (bytes.take stored, .error exc)
  | none => (bytes, .ok ())

@[simp] theorem called_tree (d : Disk) : d.called.tree = d.tree := rfl

@[simp] theorem logged_tree (d : Disk) (a : Access) :
    (d.logged a).tree = d.tree := rfl

end Disk

-- ==================================================== what a call comes to

def isRegular : Option Node → Bool
  | some (.file _) => true
  | _ => false

namespace Tree

/-- Why there is nothing at a location: a file is in the way, or not. -/
def whyAbsent (t : Tree) (q : Location) : OsError :=
  if q.inits.any (fun p => isRegular (t.node p)) then .notADirectory
  else .notFound

def contentOf (t : Tree) (q : Location) : Except OsError (List UInt8) :=
  match t.node q with
  | some (.file content) => .ok content
  | some .directory => .error .isADirectory
  | some (.link _) => .error .tooManyLinks
  | none => .error (t.whyAbsent q)

/-- The tree with a node in a directory that is there. -/
def add (t : Tree) (q : Location) (node : Node) : Except OsError Tree :=
  if h : t.node q.dropLast = some .directory ∧
      t.node q ≠ some .directory then
    .ok (t.put q node h.1 h.2)
  else .error (t.whyAbsent q)

def store (t : Tree) (q : Location) (bytes : List UInt8) :
    Except OsError Tree :=
  match t.node q with
  | some .directory => .error .isADirectory
  | some (.link _) => .error .tooManyLinks
  | _ => t.add q (.file bytes)

def makeDirectory (t : Tree) (q : Location) : Except OsError Tree :=
  match t.node q with
  | some _ => .error .alreadyExists
  | none => t.add q .directory

/-- The tree without a node that can be unlinked. -/
def unlinked (t : Tree) (q : Location) : Except OsError Tree :=
  if h : t.node q = some .directory then .error .isADirectory
  else if t.node q = none then .error (t.whyAbsent q)
  else .ok (t.remove q h)

/-- The tree with a file that can be appended to: the one that is there, or
an empty one. -/
def appendable (t : Tree) (q : Location) : Except OsError Tree :=
  match t.node q with
  | some (.file _) => .ok t
  | some .directory => .error .isADirectory
  | some (.link _) => .error .tooManyLinks
  | none => t.add q (.file [])

/-- A file's content was stored, in place of another file's or of nothing,
and nothing else changed. -/
structure Stored (q : Location) (bytes : List UInt8) (t t' : Tree) :
    Prop where
  node_self : t'.node q = some (.file bytes)
  node_ne : ∀ p, p ≠ q → t'.node p = t.node p
  before : t.node q = none ∨ ∃ old, t.node q = some (.file old)

variable {t t' : Tree} {q : Location} {bytes : List UInt8}

/-- A node is added in its place, and nowhere else. -/
theorem add_ok {node : Node} (h : t.add q node = .ok t') :
    t'.node q = some node ∧ ∀ p, p ≠ q → t'.node p = t.node p := by
  unfold add at h
  split at h
  · rw [← Except.ok.inj h]
    exact ⟨put_self, fun p hp => put_ne hp⟩
  · cases h

/-- A store that the tree takes is one as `Stored` says. -/
theorem store_ok (h : t.store q bytes = .ok t') : Stored q bytes t t' := by
  rw [store] at h
  split at h
  next => cases h
  next => cases h
  next hdir hlink =>
    obtain ⟨hself, hne⟩ := add_ok h
    refine ⟨hself, hne, ?_⟩
    match hnode : t.node q with
    | none => exact Or.inl rfl
    | some (.file old) => exact Or.inr ⟨old, rfl⟩
    | some .directory => exact absurd hnode hdir
    | some (.link target) => exact absurd hnode (hlink target)

/-- A directory is made only where nothing was. -/
theorem makeDirectory_ok (h : t.makeDirectory q = .ok t') :
    t.node q = none ∧ t'.node q = some .directory ∧
      ∀ p, p ≠ q → t'.node p = t.node p := by
  rw [makeDirectory] at h
  split at h
  next => cases h
  next hnone => exact ⟨hnone, add_ok h⟩

/-- What is unlinked was no directory, and is gone. -/
theorem unlinked_ok (h : t.unlinked q = .ok t') :
    t.node q ≠ some .directory ∧ t'.node q = none
      ∧ ∀ p, p ≠ q → t'.node p = t.node p := by
  unfold unlinked at h
  split at h
  · cases h
  next hdir =>
    split at h
    · cases h
    · rw [← Except.ok.inj h]
      exact ⟨hdir, if_pos rfl, fun p hp => if_neg hp⟩

/-- Opening for appending makes an empty file, or leaves what is there. -/
theorem appendable_ok (h : t.appendable q = .ok t') :
    t'.node q = some ((t.node q).getD (.file []))
      ∧ ∀ p, p ≠ q → t'.node p = t.node p := by
  unfold appendable at h
  split at h
  next content hnode =>
    rw [← Except.ok.inj h, hnode]
    exact ⟨rfl, fun p hp => rfl⟩
  next => cases h
  next => cases h
  next hnode =>
    rw [hnode]
    exact add_ok h

theorem contentOf_ok {content : List UInt8} (h : t.contentOf q = .ok content) :
    t.node q = some (.file content) := by
  rw [contentOf] at h
  split at h
  next content' hnode => rw [hnode, Except.ok.inj h]
  all_goals cases h

end Tree

def Disk.sizeOf (d : Disk) (q : Location) : Except OsError Nat :=
  match d.tree.node q with
  | some .directory => .ok (d.directorySize q)
  | _ => (d.tree.contentOf q).map List.length

-- =================================================================== calls

/-- One more call, which may fail. -/
def sysCall : Py Disk Unit := fun d =>
  match d.faults d.calls with
  | some exc => (.error exc, d.called)
  | none => (.ok (), d.called)

/-- What a call comes to, with its error as an exception. -/
def orFail {α : Type} (q : Location) : Except OsError α → Py Disk α
  | .ok a => return a
  | .error e => fun d => (.error ⟨e.type, d.errorText e q⟩, d)

def log (a : Access) : Py Disk Unit := Py.modify (Disk.logged · a)

def setTree (t : Tree) : Py Disk Unit := Py.modify ({ · with tree := t })

/-- `q.exists()`. -/
def pathExists (q : Location) : Py Disk Bool := do
  sysCall
  return ((← Py.get).tree.node q).isSome

/-- `q.is_file()`. -/
def isFile (q : Location) : Py Disk Bool := do
  sysCall
  return isRegular ((← Py.get).tree.node q)

/-- `q.is_dir()`. -/
def isDir (q : Location) : Py Disk Bool := do
  sysCall
  return (← Py.get).tree.node q = some .directory

/-- `q.stat().st_size`. -/
def statSize (q : Location) : Py Disk Nat := do
  sysCall
  let d ← Py.get
  orFail q (d.sizeOf q)

/-- `q.read_bytes()`. -/
def readBytes (q : Location) : Py Disk (List UInt8) := do
  sysCall
  log (.read q)
  let d ← Py.get
  orFail q (d.tree.contentOf q)

/-- `q.write_bytes(bytes)`. -/
def writeBytes (q : Location) (bytes : List UInt8) : Py Disk Unit := do
  sysCall
  log (.write q)
  let d ← Py.get
  let t ← orFail q (d.tree.store q (d.writing bytes).1)
  setTree t
  Py.ofExcept (d.writing bytes).2

/-- `q.unlink()`. -/
def unlink (q : Location) : Py Disk Unit := do
  sysCall
  let d ← Py.get
  let t ← orFail q (d.tree.unlinked q)
  setTree t

/-- `q.open("a")`: what is in the file it opens. -/
def openAppend (q : Location) : Py Disk (List UInt8) := do
  sysCall
  log (.write q)
  let d ← Py.get
  let t ← orFail q (d.tree.appendable q)
  setTree t
  orFail q (t.contentOf q)

/-- `os.mkdir(q)`. -/
def osMkdir (q : Location) : Py Disk Unit := do
  sysCall
  let d ← Py.get
  let t ← orFail q (d.tree.makeDirectory q)
  log (.made q)
  setTree t

/-- `q.mkdir(exist_ok=True)` after `os.mkdir` has failed. -/
def acceptExisting (q : Location) (exc : Exc) : Py Disk Unit := do
  if ← isDir q then return () else Py.raise exc

/-- `q.mkdir(parents=True, exist_ok=True)`, of a location from its last
name up. -/
def mkdirFrom : List String → Py Disk Unit
  | [] => Py.tryExcept (osMkdir []) fun exc =>
      if exc.type = "FileNotFoundError" then Py.raise exc
      else acceptExisting [] exc
  | name :: above =>
      let q := above.reverse ++ [name]
      Py.tryExcept (osMkdir q) fun exc =>
        if exc.type = "FileNotFoundError" then do
          mkdirFrom above
          Py.tryExcept (osMkdir q) fun exc =>
            if exc.type = "FileNotFoundError" then Py.raise exc
            else acceptExisting q exc
        else acceptExisting q exc

def mkdirs (q : Location) : Py Disk Unit := mkdirFrom q.reverse

-- =========================================================== what they do

/-- A call that only looked. -/
structure Disk.Quiet (d d' : Disk) : Prop where
  tree : d'.tree = d.tree
  accesses : d'.accesses = d.accesses
  torn : d'.torn = d.torn

theorem Disk.Quiet.refl (d : Disk) : d.Quiet d := ⟨rfl, rfl, rfl⟩

theorem Disk.Quiet.trans {d d' d'' : Disk} (h : d.Quiet d')
    (h' : d'.Quiet d'') : d.Quiet d'' :=
  ⟨h'.1.trans h.1, h'.2.trans h.2, h'.3.trans h.3⟩

/-- Directories were made where nothing was, on the way to a location. -/
structure Disk.MadeDirs (q : Location) (d d' : Disk) : Prop where
  grown : ∀ p, d'.tree.node p = d.tree.node p ∨
    (d.tree.node p = none ∧ d'.tree.node p = some .directory ∧ p <+: q)
  made : ∃ log, d'.accesses = d.accesses ++ log ∧
    ∀ a ∈ log, d.tree.node a.location = none ∧ a.location <+: q
  torn : d'.torn = d.torn

namespace Disk.MadeDirs

variable {d d' d'' : Disk} {p q : Location}

theorem of_quiet (h : d.Quiet d') : MadeDirs q d d' where
  grown p := Or.inl (by rw [h.1])
  made := ⟨[], by rw [h.2, List.append_nil], fun a ha => by cases ha⟩
  torn := h.torn

/-- Where nothing is after, nothing was before: directories are only made. -/
theorem absent (h : MadeDirs q d d') (hp : d'.tree.node p = none) :
    d.tree.node p = none := by
  rcases h.grown p with hsame | ⟨hnone, -⟩
  · rw [← hsame, hp]
  · exact hnone

theorem trans (h : MadeDirs q d d') (h' : MadeDirs q d' d'') :
    MadeDirs q d d'' where
  grown p := by
    rcases h'.grown p with hsame | ⟨hnone, hdir, hbelow⟩
    · rw [hsame]
      exact h.grown p
    · exact Or.inr ⟨h.absent hnone, hdir, hbelow⟩
  made := by
    obtain ⟨log, hlog, hmade⟩ := h.made
    obtain ⟨log', hlog', hmade'⟩ := h'.made
    refine ⟨log ++ log', by rw [hlog', hlog, List.append_assoc], ?_⟩
    intro a ha
    rcases List.mem_append.mp ha with ha | ha
    · exact hmade a ha
    · exact ⟨h.absent (hmade' a ha).1, (hmade' a ha).2⟩
  torn := h'.torn.trans h.torn

/-- A directory stays one. -/
theorem directory (h : MadeDirs q d d')
    (hdir : d.tree.node p = some .directory) :
    d'.tree.node p = some .directory := by
  rcases h.grown p with hsame | ⟨-, hmade, -⟩
  · rw [hsame, hdir]
  · exact hmade

/-- Directories made on the way to a place are made on the way to any place
below it. -/
theorem mono (h : MadeDirs p d d') (hpq : p <+: q) : MadeDirs q d d' where
  grown p := (h.grown p).imp_right fun ⟨hnone, hdir, hbelow⟩ =>
    ⟨hnone, hdir, hbelow.trans hpq⟩
  made := by
    obtain ⟨log, hlog, hmade⟩ := h.made
    exact ⟨log, hlog, fun a ha => ⟨(hmade a ha).1, (hmade a ha).2.trans hpq⟩⟩
  torn := h.torn

end Disk.MadeDirs

section

variable {d d' : Disk} {q : Location}

/-- A call of the OS, refused or not, is counted. -/
theorem sysCall_spec {r : Except Exc Unit} (h : sysCall d = (r, d')) :
    d' = d.called := by
  rw [sysCall] at h
  split at h <;> exact (congrArg Prod.snd h).symm

/-- What a call comes to: what it does once it is made, or a failure. -/
theorem call_cases {α : Type} {f : Unit → Py Disk α} {r : Except Exc α}
    (h : (sysCall >>= f) d = (r, d')) :
    f () d.called = (r, d') ∨ (d.called = d' ∧ ∃ exc, r = .error exc) := by
  rcases Py.bind_cases h with ⟨u, d₁, hcall, hf⟩ | ⟨exc, hcall, hr⟩
  · rw [sysCall_spec hcall] at hf
    exact Or.inl hf
  · exact Or.inr ⟨(sysCall_spec hcall).symm, exc, hr⟩

theorem Disk.quiet_called (d : Disk) : d.Quiet d.called := ⟨rfl, rfl, rfl⟩

/-- A call that asks something of the tree. -/
theorem ask_spec {α : Type} {f : Disk → α} {r : Except Exc α}
    (h : (sysCall >>= fun _ => do return f (← Py.get)) d = (r, d')) :
    d.Quiet d' ∧ ∀ a, r = .ok a → a = f d.called := by
  rcases call_cases h with h | ⟨rfl, exc, rfl⟩
  · injection h with hr hd
    subst hd
    refine ⟨d.quiet_called, ?_⟩
    rintro a rfl
    exact (Except.ok.inj hr).symm
  · exact ⟨d.quiet_called, fun a ha => by cases ha⟩

/-- Asking whether something is there is quiet, and the answer, if there is
one, is the tree's. -/
theorem pathExists_spec {r : Except Exc Bool}
    (h : pathExists q d = (r, d')) :
    d.Quiet d' ∧ ∀ b, r = .ok b → b = (d.tree.node q).isSome :=
  ask_spec h

theorem isFile_spec {r : Except Exc Bool} (h : isFile q d = (r, d')) :
    d.Quiet d' ∧ ∀ b, r = .ok b → b = isRegular (d.tree.node q) :=
  ask_spec h

theorem isDir_spec {r : Except Exc Bool} (h : isDir q d = (r, d')) :
    d.Quiet d' ∧
      ∀ b, r = .ok b → b = decide (d.tree.node q = some .directory) :=
  ask_spec h

/-- An error of the tree is raised as an OSError; the disk stays. -/
theorem orFail_spec {α : Type} {e : Except OsError α} {r : Except Exc α}
    (h : orFail q e d = (r, d')) : d = d' ∧ ∀ a, r = .ok a → e = .ok a := by
  cases e with
  | ok a =>
      injection h with hr hd
      subst hr
      exact ⟨hd, fun a' ha' => by rw [Except.ok.inj ha']⟩
  | error e =>
      injection h with hr hd
      subst hr
      exact ⟨hd, fun a ha => by cases ha⟩

theorem statSize_spec {r : Except Exc Nat} (h : statSize q d = (r, d')) :
    d.Quiet d' ∧ ∀ n content, r = .ok n →
      d.tree.node q = some (.file content) → n = content.length := by
  rcases call_cases h with h | ⟨rfl, exc, rfl⟩
  · rw [Py.bind_ok (Py.get_apply _)] at h
    obtain ⟨rfl, hsize⟩ := orFail_spec h
    refine ⟨d.quiet_called, ?_⟩
    intro n content hn hnode
    have hlength := hsize n hn
    rw [Disk.sizeOf, Disk.called_tree, Tree.contentOf, hnode] at hlength
    exact (Except.ok.inj hlength).symm
  · exact ⟨d.quiet_called, fun n content hn => by cases hn⟩

/-- A file was opened, or the call failed before. -/
def Disk.Opened (a : Access) (d d' : Disk) : Prop :=
  d'.torn = d.torn
    ∧ (d'.accesses = d.accesses ∨ d'.accesses = d.accesses ++ [a])

/-- Reading opens the file, if any, and leaves the tree; what is read is the
content. -/
theorem readBytes_spec {r : Except Exc (List UInt8)}
    (h : readBytes q d = (r, d')) :
    d'.tree = d.tree ∧ d.Opened (.read q) d' ∧
      ∀ content, r = .ok content → d.tree.node q = some (.file content) := by
  rcases call_cases h with h | ⟨rfl, exc, rfl⟩
  · unfold log at h
    rw [Py.bind_ok (Py.modify_apply _ _), Py.bind_ok (Py.get_apply _)] at h
    obtain ⟨rfl, hcontent⟩ := orFail_spec h
    exact ⟨rfl, ⟨rfl, Or.inr rfl⟩, fun content hr =>
      Tree.contentOf_ok (hcontent content hr)⟩
  · exact ⟨rfl, ⟨rfl, Or.inl rfl⟩, fun content h => by cases h⟩

/-- A write breaks off where the disk has it break off. -/
theorem Disk.writing_cases (d : Disk) (bytes : List UInt8) :
    d.writing bytes = (bytes, .ok ()) ∨ ∃ exc stored,
      d.torn d.calls = some (exc, stored)
        ∧ d.writing bytes = (bytes.take stored, .error exc) := by
  unfold Disk.writing
  cases htorn : d.torn d.calls with
  | none => exact Or.inl rfl
  | some cut => exact Or.inr ⟨cut.1, cut.2, rfl, rfl⟩

theorem Disk.Whole.writing (h : d.Whole) (bytes : List UInt8) :
    d.writing bytes = (bytes, .ok ()) := by
  unfold Disk.writing
  rw [h]

/-- A write stores its bytes, fails before anything was touched, or breaks
off with a front part of them stored, which no whole disk does. -/
inductive Disk.Wrote (q : Location) (bytes : List UInt8) (d d' : Disk) :
    Except Exc Unit → Prop where
  | stored (stored : Tree.Stored q bytes d.tree d'.tree) :
      Disk.Wrote q bytes d d' (.ok ())
  | failed {exc} (tree : d'.tree = d.tree) :
      Disk.Wrote q bytes d d' (.error exc)
  | torn {exc part} (tears : ¬ d.Whole) (front : part <+: bytes)
      (stored : Tree.Stored q part d.tree d'.tree) :
      Disk.Wrote q bytes d d' (.error exc)

/-- A write changes nothing but its file. -/
theorem Disk.Wrote.node_ne {bytes : List UInt8} {r : Except Exc Unit}
    (h : d.Wrote q bytes d' r) {o : Location} (ho : o ≠ q) :
    d'.tree.node o = d.tree.node o := by
  cases h with
  | stored stored => exact stored.node_ne o ho
  | failed tree => rw [tree]
  | torn tears front stored => exact stored.node_ne o ho

/-- Writing opens the file, if any, and then stores the bytes, or a front part
of them if it broke off. -/
theorem writeBytes_spec {bytes : List UInt8} {r : Except Exc Unit}
    (h : writeBytes q bytes d = (r, d')) :
    d.Opened (.write q) d' ∧ d.Wrote q bytes d' r := by
  rcases call_cases h with h | ⟨rfl, exc, rfl⟩
  · unfold log at h
    rw [Py.bind_ok (Py.modify_apply _ _), Py.bind_ok (Py.get_apply _)] at h
    rcases Py.bind_cases h with ⟨t, d₁, hstore, hset⟩ | ⟨exc, hstore, rfl⟩
    · obtain ⟨rfl, ht⟩ := orFail_spec hstore
      have hstored := Tree.store_ok (ht t rfl)
      unfold setTree at hset
      rw [Py.bind_ok (Py.modify_apply _ _), Py.ofExcept_apply] at hset
      injection hset with hr hd
      rw [← hr, ← hd]
      refine ⟨⟨rfl, Or.inr rfl⟩, ?_⟩
      rcases Disk.writing_cases (d.called.logged (.write q)) bytes with hall
        | ⟨exc, stored, htorn, hcut⟩
      · rw [hall] at hstored ⊢
        exact .stored hstored
      · rw [hcut] at hstored ⊢
        refine .torn ?_ (List.take_prefix stored bytes) hstored
        intro hwhole
        exact Option.some_ne_none _ (htorn.symm.trans (hwhole _))
    · obtain ⟨rfl, -⟩ := orFail_spec hstore
      exact ⟨⟨rfl, Or.inr rfl⟩, .failed rfl⟩
  · exact ⟨⟨rfl, Or.inl rfl⟩, .failed rfl⟩

/-- What is gone was not a directory, or the call failed; every other node
is as it was. -/
theorem unlink_spec {r : Except Exc Unit} (h : unlink q d = (r, d')) :
    (∀ p, p ≠ q → d'.tree.node p = d.tree.node p)
      ∧ (r = .ok () → d.tree.node q ≠ some .directory
          ∧ d'.tree.node q = none) := by
  rcases call_cases h with h | ⟨rfl, exc, rfl⟩
  · rw [Py.bind_ok (Py.get_apply _)] at h
    rcases Py.bind_cases h with ⟨t, d₁, hremove, hset⟩ | ⟨exc, hremove, rfl⟩
    · obtain ⟨rfl, ht⟩ := orFail_spec hremove
      obtain ⟨hdir, hself, hne⟩ := Tree.unlinked_ok (ht t rfl)
      injection hset with hr hd
      rw [← hd]
      exact ⟨hne, fun _ => ⟨hdir, hself⟩⟩
    · obtain ⟨rfl, -⟩ := orFail_spec hremove
      exact ⟨fun p hp => rfl, fun hr => by cases hr⟩
  · exact ⟨fun p hp => rfl, fun hr => by cases hr⟩

/-- A file is open, an empty one if none was there, or the call failed;
every other node is as it was. -/
theorem openAppend_spec {r : Except Exc (List UInt8)}
    (h : openAppend q d = (r, d')) :
    (∀ p, p ≠ q → d'.tree.node p = d.tree.node p)
      ∧ ∀ content, r = .ok content →
          d'.tree.node q = some (.file content)
            ∧ (d.tree.node q = none → content = [])
            ∧ d.tree.node q ≠ some .directory := by
  rcases call_cases h with h | ⟨rfl, exc, rfl⟩
  · unfold log at h
    rw [Py.bind_ok (Py.modify_apply _ _), Py.bind_ok (Py.get_apply _)] at h
    rcases Py.bind_cases h with ⟨t, d₁, hopen, h⟩ | ⟨exc, hopen, rfl⟩
    · obtain ⟨rfl, ht⟩ := orFail_spec hopen
      obtain ⟨hself, hne⟩ := Tree.appendable_ok (ht t rfl)
      unfold setTree at h
      rw [Py.bind_ok (Py.modify_apply _ _)] at h
      obtain ⟨rfl, hcontent⟩ := orFail_spec h
      refine ⟨hne, ?_⟩
      intro content hr
      have hnode := Tree.contentOf_ok (hcontent content hr)
      rw [hnode] at hself
      refine ⟨hnode, ?_, ?_⟩
      · intro hnone
        simpa [hnone] using hself
      · intro hdir
        simp [Disk.called_tree, hdir] at hself
    · obtain ⟨rfl, -⟩ := orFail_spec hopen
      exact ⟨fun p hp => rfl, fun content hr => by cases hr⟩
  · exact ⟨fun p hp => rfl, fun content hr => by cases hr⟩

/-- `os.mkdir` makes one directory at most, in its place. -/
theorem osMkdir_spec {r : Except Exc Unit} (h : osMkdir q d = (r, d')) :
    d.MadeDirs q d' := by
  rcases call_cases h with h | ⟨rfl, hr⟩
  · rw [Py.bind_ok (Py.get_apply _)] at h
    rcases Py.bind_cases h with ⟨t, d₁, hmake, hset⟩ | ⟨exc, hmake, rfl⟩
    · obtain ⟨rfl, ht⟩ := orFail_spec hmake
      obtain ⟨hnone, hself, hne⟩ := Tree.makeDirectory_ok (ht t rfl)
      unfold log at hset
      rw [Py.bind_ok (Py.modify_apply _ _)] at hset
      injection hset with hr hd
      rw [← hd]
      constructor
      · intro p
        by_cases hp : p = q
        · subst hp
          exact Or.inr ⟨hnone, hself, List.prefix_refl p⟩
        · exact Or.inl (hne p hp)
      · refine ⟨[.made q], rfl, ?_⟩
        intro a ha
        rw [List.mem_singleton.mp ha]
        exact ⟨hnone, List.prefix_refl q⟩
      · rfl
    · obtain ⟨rfl, -⟩ := orFail_spec hmake
      exact .of_quiet d.quiet_called
  · exact .of_quiet d.quiet_called

theorem acceptExisting_spec {exc : Exc} {r : Except Exc Unit}
    (h : acceptExisting q exc d = (r, d')) : d.Quiet d' := by
  rcases Py.bind_cases h with ⟨b, d₁, hdir, hrest⟩ | ⟨exc', hdir, -⟩
  · have hquiet := (isDir_spec hdir).1
    cases b with
    | true =>
        injection hrest with hr hd
        rwa [← hd]
    | false =>
        injection hrest with hr hd
        rwa [← hd]
  · exact (isDir_spec hdir).1

/-- A directory is made, or something else is at its location. -/
theorem mkdirOne_spec {r : Except Exc Unit} {handler : Exc → Py Disk Unit}
    (h : Py.tryExcept (osMkdir q) handler d = (r, d'))
    (hhandler : ∀ exc d₁, handler exc d₁ = (r, d') → d₁.MadeDirs q d') :
    d.MadeDirs q d' := by
  rcases Py.tryExcept_cases h with ⟨u, hmake, -⟩ | ⟨exc, d₁, hmake, hrest⟩
  · exact osMkdir_spec hmake
  · exact (osMkdir_spec hmake).trans (hhandler exc d₁ hrest)

/-- The except clause of `mkdir`, whichever way it goes. -/
theorem raise_or_accept_spec {exc : Exc} {r : Except Exc Unit}
    (h : (if exc.type = "FileNotFoundError" then Py.raise exc
      else acceptExisting q exc) d = (r, d')) : d.MadeDirs q d' := by
  split at h
  · injection h with hr hd
    rw [← hd]
    exact .of_quiet (Disk.Quiet.refl d)
  · exact .of_quiet (acceptExisting_spec h)

/-- By induction on the names: each level makes directories on the way to the
last. -/
theorem mkdirFrom_spec {names : List String} {r : Except Exc Unit}
    (h : mkdirFrom names d = (r, d')) : d.MadeDirs names.reverse d' := by
  induction names generalizing d d' r with
  | nil => exact mkdirOne_spec h fun exc d₁ => raise_or_accept_spec
  | cons name above ih =>
      rw [List.reverse_cons]
      refine mkdirOne_spec h ?_
      intro exc d₁ hrest
      split at hrest
      · rcases Py.bind_cases hrest with ⟨u, d₂, habove, hagain⟩ | ⟨_, habove, -⟩
        · refine ((ih habove).mono (List.prefix_append _ _)).trans ?_
          exact mkdirOne_spec hagain fun exc d₃ => raise_or_accept_spec
        · exact (ih habove).mono (List.prefix_append _ _)
      · exact .of_quiet (acceptExisting_spec hrest)

/-- `mkdir` with parents makes directories on the way to its path, and nothing
else. -/
theorem mkdirs_spec {r : Except Exc Unit} (h : mkdirs q d = (r, d')) :
    d.MadeDirs q d' := by
  have hfrom := mkdirFrom_spec h
  rwa [List.reverse_reverse] at hfrom

/-- After `os.mkdir` there is a directory. -/
theorem osMkdir_made (h : osMkdir q d = (.ok (), d')) :
    d'.tree.node q = some .directory := by
  rcases call_cases h with h | ⟨-, exc, hr⟩
  · rw [Py.bind_ok (Py.get_apply _)] at h
    rcases Py.bind_cases h with ⟨t, d₁, hmake, hset⟩ | ⟨exc, -, hr⟩
    · obtain ⟨rfl, ht⟩ := orFail_spec hmake
      obtain ⟨-, hself, -⟩ := Tree.makeDirectory_ok (ht t rfl)
      unfold log at hset
      rw [Py.bind_ok (Py.modify_apply _ _)] at hset
      injection hset with hr hd
      rw [← hd]
      exact hself
    · cases hr
  · cases hr

theorem acceptExisting_made {exc : Exc}
    (h : acceptExisting q exc d = (.ok (), d')) :
    d'.tree.node q = some .directory := by
  rcases Py.bind_cases h with ⟨b, d₁, hdir, hrest⟩ | ⟨exc', -, hr⟩
  · obtain ⟨⟨htree, -⟩, hb⟩ := isDir_spec hdir
    cases b with
    | true =>
        injection hrest with hr hd
        rw [← hd, htree]
        simpa using (hb true rfl).symm
    | false =>
        injection hrest with hr hd
        cases hr
  · cases hr

/-- A directory was made, or it is for the handler to say. -/
theorem mkdirOne_made {handler : Exc → Py Disk Unit}
    (h : Py.tryExcept (osMkdir q) handler d = (.ok (), d'))
    (hhandler : ∀ exc d₁, handler exc d₁ = (.ok (), d') →
      d'.tree.node q = some .directory) :
    d'.tree.node q = some .directory := by
  rcases Py.tryExcept_cases h with ⟨u, hmake, -⟩ | ⟨exc, d₁, -, hrest⟩
  · exact osMkdir_made hmake
  · exact hhandler exc d₁ hrest

theorem raise_or_accept_made {exc : Exc}
    (h : (if exc.type = "FileNotFoundError" then Py.raise exc
      else acceptExisting q exc) d = (.ok (), d')) :
    d'.tree.node q = some .directory := by
  split at h
  · cases h
  · exact acceptExisting_made h

/-- Where `mkdirs` returns, there is a directory. -/
theorem mkdirs_made (h : mkdirs q d = (.ok (), d')) :
    d'.tree.node q = some .directory := by
  unfold mkdirs at h
  rcases List.eq_nil_or_concat q with rfl | ⟨above, name, rfl⟩
  · exact mkdirOne_made h fun exc d₁ => raise_or_accept_made
  · rw [List.concat_eq_append] at h ⊢
    rw [List.reverse_append, List.reverse_singleton, List.singleton_append]
      at h
    unfold mkdirFrom at h
    rw [List.reverse_reverse] at h
    refine mkdirOne_made h ?_
    intro exc d₁ hrest
    split at hrest
    · rcases Py.bind_cases hrest with ⟨u, d₂, -, hagain⟩ | ⟨_, -, hr⟩
      · exact mkdirOne_made hagain fun exc d₃ => raise_or_accept_made
      · cases hr
    · exact acceptExisting_made hrest

end

-- ==================================== which writes break off does not change

/-- Which writes break off is nothing that a call decides. -/
theorem sysCall_torn : Py.Keeps Disk.torn sysCall :=
  .of_final fun h => by rw [sysCall_spec h, Disk.called]

theorem orFail_torn {α : Type} (q : Location) (e : Except OsError α) :
    Py.Keeps Disk.torn (orFail q e) :=
  .of_final fun h => by rw [(orFail_spec h).1]

theorem setTree_torn (t : Tree) : Py.Keeps Disk.torn (setTree t) :=
  fun _ => rfl

theorem unlink_torn (q : Location) : Py.Keeps Disk.torn (unlink q) :=
  sysCall_torn.bind fun _ => .bind .get fun _ =>
    (orFail_torn q _).bind setTree_torn

theorem openAppend_torn (q : Location) : Py.Keeps Disk.torn (openAppend q) :=
  sysCall_torn.bind fun _ => .bind (fun _ => rfl) fun _ =>
    .bind .get fun _ => (orFail_torn q _).bind fun t =>
      (setTree_torn t).bind fun _ => orFail_torn q _

-- =================================================== where nothing fails

section

variable {d : Disk} {q : Location} {content : List UInt8}

/-- On a disk whose OS refuses nothing, every call goes through. -/
theorem sysCall_ok (hsound : d.Sound) : sysCall d = (.ok (), d.called) := by
  rw [sysCall, hsound d.calls]

/-- There the checks are answered from the tree. -/
theorem pathExists_ok (hsound : d.Sound) :
    pathExists q d = (.ok (d.tree.node q).isSome, d.called) :=
  (Py.bind_ok (sysCall_ok hsound)).trans rfl

theorem isFile_ok (hsound : d.Sound) :
    isFile q d = (.ok (isRegular (d.tree.node q)), d.called) :=
  (Py.bind_ok (sysCall_ok hsound)).trans rfl

theorem isDir_ok (hsound : d.Sound) :
    isDir q d = (.ok (decide (d.tree.node q = some .directory)), d.called) :=
  (Py.bind_ok (sysCall_ok hsound)).trans rfl

/-- A new file can be appended to in a directory that is there. -/
theorem openAppend_ok (hsound : d.Sound)
    (hdir : d.tree.node q.dropLast = some .directory)
    (hnone : d.tree.node q = none) :
    ∃ d', openAppend q d = (.ok [], d') := by
  have hq : d.tree.node q ≠ some .directory := by
    rw [hnone]
    simp
  have hopen : d.tree.appendable q
      = .ok (d.tree.put q (.file []) hdir hq) := by
    simp only [Tree.appendable, hnone]
    exact dif_pos ⟨hdir, hq⟩
  refine ⟨{ d.called.logged (.write q) with
    tree := d.tree.put q (.file []) hdir hq }, ?_⟩
  unfold openAppend
  rw [Py.bind_ok (sysCall_ok hsound), log, Py.bind_ok (Py.modify_apply _ _),
    Py.bind_ok (Py.get_apply _), Disk.logged_tree, Disk.called_tree, hopen]
  show orFail q (Tree.contentOf _ q) _ = _
  rw [Tree.contentOf, Tree.put_self]
  rfl

/-- What making a directory comes to where one is. -/
theorem accept_directory (hsound : d.Sound)
    (hdir : d.tree.node q = some .directory) {handler : Exc → Py Disk Unit}
    (hhandler : ∀ exc, exc.type ≠ "FileNotFoundError" →
      handler exc = acceptExisting q exc) :
    Py.tryExcept (osMkdir q) handler d = (.ok (), d.called.called) := by
  have hmake : osMkdir q d = (.error ⟨OsError.alreadyExists.type,
      d.errorText .alreadyExists q⟩, d.called) := by
    unfold osMkdir
    rw [Py.bind_ok (sysCall_ok hsound), Py.bind_ok (Py.get_apply _),
      Disk.called_tree, Tree.makeDirectory, hdir]
    rfl
  have hsound' : d.called.Sound := hsound
  have hother : OsError.alreadyExists.type ≠ "FileNotFoundError" := by decide
  rw [Py.tryExcept_error hmake, hhandler _ hother]
  unfold acceptExisting
  rw [Py.bind_ok (isDir_ok hsound'), Disk.called_tree, hdir]
  rfl

/-- A directory that is there need not be made. -/
theorem mkdirs_ok (hsound : d.Sound)
    (hdir : d.tree.node q = some .directory) :
    mkdirs q d = (.ok (), d.called.called) := by
  unfold mkdirs
  rcases List.eq_nil_or_concat q with rfl | ⟨above, name, rfl⟩
  · refine accept_directory hsound hdir ?_
    intro exc hexc
    rw [if_neg hexc]
  · rw [List.concat_eq_append] at hdir ⊢
    rw [List.reverse_append, List.reverse_singleton, List.singleton_append]
    unfold mkdirFrom
    rw [List.reverse_reverse]
    refine accept_directory hsound hdir ?_
    intro exc hexc
    rw [if_neg hexc]

theorem statSize_ok (hsound : d.Sound)
    (hfile : d.tree.node q = some (.file content)) :
    statSize q d = (.ok content.length, d.called) := by
  unfold statSize
  rw [Py.bind_ok (sysCall_ok hsound), Py.bind_ok (Py.get_apply _),
    Disk.sizeOf, Disk.called_tree, Tree.contentOf, hfile]
  rfl

theorem readBytes_ok (hsound : d.Sound)
    (hfile : d.tree.node q = some (.file content)) :
    readBytes q d = (.ok content, d.called.logged (.read q)) := by
  unfold readBytes
  rw [Py.bind_ok (sysCall_ok hsound), log, Py.bind_ok (Py.modify_apply _ _),
    Py.bind_ok (Py.get_apply _), Tree.contentOf, Disk.logged_tree,
    Disk.called_tree, hfile]
  rfl

/-- A file is in a directory. -/
theorem Tree.parent_of_file {t : Tree}
    (hfile : t.node q = some (.file content)) :
    t.node q.dropLast = some .directory := by
  have hq : q ≠ [] := by
    rintro rfl
    rw [t.root] at hfile
    cases hfile
  refine Tree.directory_of_below (by rw [hfile]; exact Option.some_ne_none _)
    (List.dropLast_prefix q) ?_
  intro h
  have hlength := congrArg List.length h
  rw [List.length_dropLast] at hlength
  have := List.length_pos_iff.mpr hq
  omega

/-- A file that is there can be replaced, if the write does not break off. -/
theorem writeBytes_ok (hsound : d.Sound) (hwhole : d.Whole)
    (hfile : d.tree.node q = some (.file content)) (bytes : List UInt8) :
    ∃ d', writeBytes q bytes d = (.ok (), d') ∧
      d'.tree.node q = some (.file bytes) := by
  have hstore : ∃ t, d.tree.store q bytes = .ok t := by
    have hready : d.tree.node q.dropLast = some .directory ∧
        d.tree.node q ≠ some .directory := by
      refine ⟨Tree.parent_of_file hfile, ?_⟩
      rw [hfile]
      simp
    have hadd : d.tree.store q bytes = d.tree.add q (.file bytes) := by
      rw [Tree.store, hfile]
    exact ⟨_, hadd.trans (dif_pos hready)⟩
  have hwhole : (d.called.logged (.write q)).Whole := hwhole
  obtain ⟨t, ht⟩ := hstore
  refine ⟨{ d.called.logged (.write q) with tree := t }, ?_,
    (Tree.store_ok ht).node_self⟩
  unfold writeBytes
  rw [Py.bind_ok (sysCall_ok hsound), log, Py.bind_ok (Py.modify_apply _ _),
    Py.bind_ok (Py.get_apply _), hwhole.writing, Disk.logged_tree,
    Disk.called_tree, ht]
  rfl

end

end Fs
