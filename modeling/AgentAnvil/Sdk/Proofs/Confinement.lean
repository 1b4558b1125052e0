/-
File tools stay inside the workspace.

Everything a call touches is on the way to the one location it is about,
and what is made on the way was not there before. A directory of the tree
has only directories above it, so nothing that is made is above the
workspace (`Reached.confined`). A call changes no link and no directory, so
what holds of one call holds of a sequence (`fileCalls_confined`).
-/
import AgentAnvil.Sdk.Proofs.Journal

namespace AgentAnvil.Sdk

open Fs

-- ============================================================ vocabulary

/-- Only what is at or below a location was changed or opened. -/
structure Confined (root : Location) (d d' : Disk) : Prop where
  unchanged : ∀ q, ¬ root <+: q → d'.tree.node q = d.tree.node q
  opened : ∃ log, d'.accesses = d.accesses ++ log ∧
    ∀ a ∈ log, root <+: a.location

/-- An error result, or an exception. -/
def Failed (outcome : Except Exc ToolResult) : Prop :=
  ∀ result, outcome = .ok result → result.isError = true

section

variable {p : Platform} {workspace : Path} {args : List (String × Json)}
  {d d' : Disk} {q root : Location}

theorem Confined.of_quiet (h : d.Quiet d') : Confined root d d' where
  unchanged q _ := by rw [h.1]
  opened := ⟨[], by rw [h.2, List.append_nil], fun a ha => by cases ha⟩

/-- Something absent on the way to a location below a directory is below
the directory as well. -/
theorem below_of_absent {o : Location}
    (hdir : d.tree.node root = some .directory) (hroot : root <+: q)
    (hnone : d.tree.node o = none) (ho : o <+: q) : root <+: o := by
  rcases List.prefix_or_prefix_of_prefix hroot ho with h | h
  · exact h
  · have habove := Tree.directory_above hdir h
    rw [hnone] at habove
    cases habove

/-- Where the links at its own location stay, work on it changes none. -/
theorem Reached.sameLinks (h : Reached q d d')
    (hq : ∀ target, d.tree.node q = some (.link target)
      ↔ d'.tree.node q = some (.link target)) :
    Tree.SameLinks d.tree d'.tree := by
  intro o target
  by_cases ho : o = q
  · rw [ho]
    exact hq target
  · rcases h.grown o ho with hsame | ⟨hnone, hmade, -⟩
    · rw [hsame]
    · rw [hnone, hmade]
      simp

/-- What is reached below the root is inside it: the directories made above
the file are below the root, as the root itself is there already. -/
theorem Reached.confined (h : Reached q d d')
    (hdir : d.tree.node root = some .directory) (hroot : root <+: q) :
    Confined root d d' where
  unchanged o ho := by
    have hne : o ≠ q := by
      rintro rfl
      exact ho hroot
    rcases h.grown o hne with hsame | ⟨hnone, -, hbelow⟩
    · exact hsame
    · exact absurd (below_of_absent hdir hroot hnone hbelow) ho
  opened := by
    obtain ⟨log, hlog, hopened⟩ := h.opened
    refine ⟨log, hlog, ?_⟩
    intro a ha
    rcases hopened a ha with heq | ⟨hnone, hbelow⟩
    · rw [heq]
      exact hroot
    · exact below_of_absent hdir hroot hnone hbelow

/-- The location a call is about is below the one workspace there is. -/
theorem Names.below_root (h : Names p workspace args d.tree q)
    (hroot : Canonical d.tree p.cwd workspace root) : root <+: q := by
  obtain ⟨root', hroot', hbelow⟩ := h.below
  rwa [Walk.unique hroot hroot']

/-- A tool call stays below the workspace: its path was resolved before it was
used, and links stay as they are. -/
theorem Effect.confined {r : Except Exc FileResult}
    (h : Effect p workspace args d r d')
    (hroot : Canonical d.tree p.cwd workspace root)
    (hdir : d.tree.node root = some .directory) : Confined root d d' := by
  cases h with
  | raised quiet => exact .of_quiet quiet
  | rejected quiet => exact .of_quiet quiet
  | looked names reached => exact reached.confined hdir (names.below_root hroot)
  | failed names reached => exact reached.confined hdir (names.below_root hroot)
  | torn names reached => exact reached.confined hdir (names.below_root hroot)
  | stored names reached => exact reached.confined hdir (names.below_root hroot)

/-- A call about no location of the workspace changes nothing, and is
answered with an error. -/
theorem Effect.failed_of_nameless {r : Except Exc FileResult}
    (h : Effect p workspace args d r d')
    (hnone : ∀ q, ¬ Names p workspace args d.tree q) :
    d.Quiet d' ∧ ∀ res, r = .ok res → res.2.isError = true := by
  cases h with
  | raised quiet => exact ⟨quiet, fun res h => by cases h⟩
  | rejected quiet =>
      refine ⟨quiet, ?_⟩
      intro res hres
      rw [← Except.ok.inj hres]
      rfl
  | looked names => exact absurd names (hnone _)
  | failed names => exact absurd names (hnone _)
  | torn names => exact absurd names (hnone _)
  | stored names => exact absurd names (hnone _)

/-- Whatever its arguments, a file tool reads, writes and makes nothing
outside the workspace, and a path that does not lead into it is answered
with an error that leaves the tree as it was. -/
theorem file_tools_confined (tool : FileTool)
    (hroot : Canonical d.tree p.cwd workspace root)
    (hdir : d.tree.node root = some .directory) :
    Confined root d (asToolRun (tool._run p workspace args) d).world ∧
      ((∀ path q, pathArgument args = some path →
          Canonical d.tree p.cwd (workspace.join (Path.parse path)) q →
          ¬ root <+: q) →
        Failed (asToolRun (tool._run p workspace args) d).outcome ∧
          d.Quiet (asToolRun (tool._run p workspace args) d).world) := by
  match hrun : tool._run p workspace args d with
  | (r, d') =>
      have heffect := effect_of_run hrun
      have hworld : (asToolRun (tool._run p workspace args) d).world = d' := by
        rw [asToolRun, hrun]
        cases r <;> rfl
      rw [hworld]
      refine ⟨heffect.confined hroot hdir, ?_⟩
      intro hout
      have hnone : ∀ q, ¬ Names p workspace args d.tree q := by
        intro q hnames
        obtain ⟨path, hpath, hcanonical⟩ := hnames.canonical
        exact hout path q hpath hcanonical (hnames.below_root hroot)
      obtain ⟨hquiet, herror⟩ := heffect.failed_of_nameless hnone
      refine ⟨?_, hquiet⟩
      intro result hresult
      rw [asToolRun, hrun] at hresult
      cases r with
      | error exc => cases hresult
      | ok res =>
          rw [← Except.ok.inj hresult]
          exact herror res rfl

-- ==================================================================== runs

/-- A call changes no link. -/
theorem Effect.sameLinks {r : Except Exc FileResult}
    (h : Effect p workspace args d r d') : Tree.SameLinks d.tree d'.tree := by
  cases h with
  | raised quiet =>
      rw [quiet.1]
      exact .refl d.tree
  | rejected quiet =>
      rw [quiet.1]
      exact .refl d.tree
  | looked names reached tree silent =>
      rw [tree]
      exact .refl d.tree
  | failed names reached kept =>
      refine reached.sameLinks ?_
      rw [kept]
      exact fun _ => Iff.rfl
  | torn names reached torn =>
      obtain ⟨bytes, part, -, -, hafter⟩ := torn.after
      refine reached.sameLinks ?_
      intro target
      rw [hafter]
      rcases torn.before with hnone | ⟨old, hold⟩
      · rw [hnone]
        simp
      · rw [hold]
        simp
  | stored names reached before after =>
      refine reached.sameLinks ?_
      intro target
      rw [after]
      rcases before with ⟨hnone, -⟩ | ⟨old, hold, -⟩
      · rw [hnone]
        simp
      · rw [hold]
        simp

/-- A directory elsewhere stays one. -/
theorem Reached.directory (h : Reached q d d') {o : Location} (hne : o ≠ q)
    (ho : d.tree.node o = some .directory) :
    d'.tree.node o = some .directory := by
  rcases h.grown o hne with hsame | ⟨hnone, -⟩
  · rw [hsame, ho]
  · rw [ho] at hnone
    cases hnone

/-- What is a directory stays one. -/
theorem Effect.directory {r : Except Exc FileResult}
    (h : Effect p workspace args d r d') {o : Location}
    (ho : d.tree.node o = some .directory) :
    d'.tree.node o = some .directory := by
  cases h with
  | raised quiet => rw [quiet.1, ho]
  | rejected quiet => rw [quiet.1, ho]
  | looked names reached tree silent => rw [tree, ho]
  | @failed q exc d' names reached kept =>
      rcases reached.grown_or kept with hsame | ⟨hnone, -⟩
      · rw [hsame, ho]
      · rw [ho] at hnone
        cases hnone
  | @torn q exc d' names reached torn =>
      refine reached.directory ?_ ho
      rintro rfl
      rcases torn.before with hnone | ⟨old, hold⟩
      · rw [ho] at hnone
        cases hnone
      · rw [ho] at hold
        cases hold
  | @stored q operation sizeBefore bytes content d' names reached before
      after =>
      refine reached.directory ?_ ho
      rintro rfl
      rw [ho] at before
      rcases before with ⟨hnone, -⟩ | ⟨old, hold, -⟩
      · cases hnone
      · cases hold

theorem Confined.trans {d'' : Disk} (h : Confined root d d')
    (h' : Confined root d' d'') : Confined root d d'' where
  unchanged o ho := (h'.unchanged o ho).trans (h.unchanged o ho)
  opened := by
    obtain ⟨log, hlog, hbelow⟩ := h.opened
    obtain ⟨log', hlog', hbelow'⟩ := h'.opened
    refine ⟨log ++ log', by rw [hlog', hlog, List.append_assoc], ?_⟩
    intro a ha
    rcases List.mem_append.mp ha with ha | ha
    · exact hbelow a ha
    · exact hbelow' a ha

end

/-- A sequence of calls stays inside the workspace, and leaves every path
leading where it led: no call moves the workspace, and none opens a way out
of it for a later one. What becomes of the events does not matter. -/
theorem fileCalls_confined (p : Platform) (workspace : Path)
    (timeoutSeconds : Int)
    (calls : List (FileTool × List (String × Json))) {rt : Runtime Disk}
    {root : Location}
    (hroot : Canonical rt.world.tree p.cwd workspace root)
    (hdir : rt.world.tree.node root = some .directory) :
    Confined root rt.world
        (fileCalls p workspace timeoutSeconds calls rt).2.world ∧
      ∀ cwd path q, Canonical rt.world.tree cwd path q →
        Canonical (fileCalls p workspace timeoutSeconds calls rt).2.world.tree
          cwd path q := by
  induction calls generalizing rt with
  | nil => exact ⟨.of_quiet (.refl rt.world), fun _ _ _ hq => hq⟩
  | cons call rest ih =>
      obtain ⟨tool, args⟩ := call
      rcases hcall : callFileTool p workspace timeoutSeconds tool args rt
        with ⟨outcome, rt'⟩
      rcases hrun : tool._run p workspace args rt.world with ⟨r, d'⟩
      have heffect := effect_of_run hrun
      obtain ⟨rfl, -⟩ := fileCall_cases hrun hcall
      rw [fileCalls, Py.bind_ok (Py.attempt_eq hcall)]
      have hnext := ih (hroot.congr heffect.sameLinks) (heffect.directory hdir)
      refine ⟨(heffect.confined hroot hdir).trans hnext.1, ?_⟩
      intro cwd path q hq
      exact hnext.2 cwd path q (Walk.congr hq heffect.sameLinks)

/-- A workspace `/ws` with a link `out` in it that leads to `/etc`. -/
def linkedDisk : Disk :=
  let etc := Tree.empty.put ["etc"] .directory rfl (by decide)
  let ws := etc.put ["ws"] .directory rfl (by decide)
  .ofTree (ws.put ["ws", "out"] (.link (Path.parse "/etc")) rfl (by decide))

/-- A write through the link, which leads to `/etc/passwd`. -/
def escape : List (String × Json) :=
  [("path", .str "out/../etc/passwd"), ("content", .str "")]

/-- The sample's link leads out of its workspace. -/
theorem escape_canonical {path : String} {q : Location}
    (hpath : pathArgument escape = some path)
    (hq : Canonical linkedDisk.tree [] ((Path.parse "/ws").join
      (Path.parse path)) q) : q = ["etc", "passwd"] := by
  have hname : pathArgument escape = some "out/../etc/passwd" := by
    decide +kernel
  rw [hpath] at hname
  rw [Option.some.inj hname] at hq
  have hwalk : realpath linkedDisk.tree 8 [] (((Path.parse "/ws").join
      (Path.parse "out/../etc/passwd")).parts) = some ["etc", "passwd"] := by
    decide +kernel
  exact Walk.unique hq (walk_of_realpath hwalk)

/-- A write through a link that leads out fails, and the disk stays. -/
theorem file_tools_confined_demo :
    Failed (asToolRun (FileTool._run (.walking 8) (Path.parse "/ws") .write
        escape) linkedDisk).outcome ∧
      linkedDisk.Quiet (asToolRun (FileTool._run (.walking 8)
        (Path.parse "/ws") .write escape) linkedDisk).world := by
  have hwalk : realpath linkedDisk.tree 8 [] (Path.parse "/ws").parts
      = some ["ws"] := by
    decide +kernel
  have hroot : Canonical linkedDisk.tree (Platform.walking 8).cwd
      (Path.parse "/ws") ["ws"] := walk_of_realpath hwalk
  refine (file_tools_confined .write hroot (by decide +kernel)).2 ?_
  intro path q hpath hq
  rw [escape_canonical hpath hq]
  decide

end AgentAnvil.Sdk
