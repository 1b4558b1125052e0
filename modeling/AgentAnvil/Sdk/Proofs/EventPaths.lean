/-
The paths that `file_mutation` events name files by.

The tools compare the canonical target with the canonical workspace; the
event's path is the target seen from the workspace as it was spelled. The
two agree when the workspace is spelled as its canonical absolute path, and
for any other spelling the event names the file from the root
(`recorded_below_iff`).
-/
import AgentAnvil.Sdk.Proofs.Confinement
import AgentAnvil.Sdk.Proofs.Splice

namespace AgentAnvil.Sdk

open Fs

-- ==================================================== statement vocabulary

/-- A recorded path is relative and goes nowhere up, it leads from the
workspace to the file, and it says where below the workspace the file is
and nothing of where the workspace is. -/
structure RecordedBelow (p : Platform) (t : Tree) (workspace : Path)
    (root : Location) (recorded : String) (q : Location) : Prop where
  relative : (Path.parse recorded).root = .relative
  downward : ".." ∉ (Path.parse recorded).parts
  leads : Canonical t p.cwd (workspace.join (Path.parse recorded)) q
  place : recorded = relativeText (q.drop root.length)

/-- The workspace is spelled as its canonical absolute path. -/
def SpelledCanonically (workspace : Path) (root : Location) : Prop :=
  workspace.root = .slash ∧ workspace.parts = root

-- ================================================================ the path

section

variable {p : Platform} {workspace : Path} {args : List (String × Json)}
  {d d' : Disk} {root q : Location}

theorem ne_up_of_entry {name : String} (h : isEntry name = true) :
    name ≠ ".." := by
  rintro rfl
  cases h

/-- Seen from an absolute workspace a target is canonical from the root
on. -/
theorem Names.linkless (h : Names p workspace args d.tree q)
    (habsolute : workspace.root = .slash) : Tree.Linkless d.tree q := by
  obtain ⟨path, -, hwalk⟩ := h.canonical
  have hstart : (workspace.join (Path.parse path)).start p.cwd = [] := by
    unfold Path.start
    rw [if_neg]
    unfold Path.join
    split
    · rw [habsolute]
      simp
    · assumption
  unfold Canonical at hwalk
  rw [hstart] at hwalk
  exact hwalk.linkless (Tree.linkless_nil d.tree)

/-- The target seen from the workspace is a path from the workspace to it
if and only if the workspace is spelled canonically. -/
theorem recorded_below_iff (hnames : Names p workspace args d.tree q)
    (hroot : Canonical d.tree p.cwd workspace root)
    (hlinks : Tree.SameLinks d.tree d'.tree) :
    RecordedBelow p d'.tree workspace root (textFrom workspace q) q
      ↔ SpelledCanonically workspace root := by
  have hentries := hnames.entries
  constructor
  · rintro ⟨hrelative, -, -, -⟩
    by_cases hbase : workspace.root = .slash ∧ workspace.parts <+: q
    · obtain ⟨habsolute, habove⟩ := hbase
      refine ⟨habsolute, ?_⟩
      -- no link is on the way to the target, so none is in the workspace
      have hlinkless := (hnames.linkless habsolute).above habove
      have hwalk : Walk d.tree [] workspace.parts workspace.parts :=
        walk_of_linkless hlinkless fun name hname =>
          ne_up_of_entry (hentries name (habove.subset hname))
      have hstart : workspace.start p.cwd = [] := by
        unfold Path.start
        rw [if_neg]
        rw [habsolute]
        simp
      unfold Canonical at hroot
      rw [hstart] at hroot
      exact Walk.unique hwalk hroot
    · unfold textFrom at hrelative
      rw [if_neg hbase] at hrelative
      exact absurd hrelative (parse_absoluteText q)
  · rintro ⟨habsolute, hparts⟩
    obtain ⟨rest, rfl⟩ := hnames.below_root hroot
    have hrest : ∀ name ∈ rest, isEntry name = true := fun name hname =>
      hentries name (List.mem_append_right root hname)
    have hdrop : (root ++ rest).drop root.length = rest :=
      List.drop_left
    have htext : textFrom workspace (root ++ rest) = relativeText rest := by
      unfold textFrom
      rw [if_pos ⟨habsolute, by rw [hparts]; simp⟩, hparts, hdrop]
    obtain ⟨hrelative, hread⟩ := parse_relativeText
      fun name hname => isPart_of_isEntry (hrest name hname)
    rw [htext]
    refine ⟨hrelative, ?_, ?_, by rw [hdrop]⟩
    · rw [hread]
      intro hup
      exact ne_up_of_entry (hrest _ hup) rfl
    · have hlinkless := (hnames.linkless habsolute).congr hlinks
      have hwalk : Walk d'.tree [] (root ++ rest) (root ++ rest) :=
        walk_of_linkless hlinkless fun name hname =>
          ne_up_of_entry (hentries name hname)
      unfold Canonical Path.join
      rw [if_pos hrelative, Path.start, if_neg]
      · show Walk d'.tree [] (workspace.parts
          ++ (Path.parse (relativeText rest)).parts) _
        rw [hread, hparts]
        exact hwalk
      · show workspace.root ≠ .relative
        rw [habsolute]
        simp

/-- Whatever the tree and the workspace, a successful write or edit reports
one mutation of the file it stored, under a path that leads to it from the
workspace if and only if the workspace is spelled canonically. -/
theorem event_path_iff {tool : FileTool} (htool : tool ≠ .read)
    (hroot : Canonical d.tree p.cwd workspace root)
    (hok : Succeeds (asToolRun (tool._run p workspace args) d).outcome) :
    ∃ (m : FileMutation) (q : Location) (content : List UInt8),
      (asToolRun (tool._run p workspace args) d).mutations = [m] ∧
      Names p workspace args d.tree q ∧
      (asToolRun (tool._run p workspace args) d).world.tree.node q
        = some (.file content) ∧
      (RecordedBelow p
          (asToolRun (tool._run p workspace args) d).world.tree workspace
          root m.path q
        ↔ SpelledCanonically workspace root) := by
  match hrun : tool._run p workspace args d with
  | (r, d') =>
      rw [succeeds_iff hrun] at hok
      obtain ⟨res, hres, hok⟩ := hok
      rw [asToolRun_world hrun]
      have hmutated := mutated_of_run htool hrun
      have hlinks := hmutated.effect.sameLinks
      cases hmutated with
      | declined declined =>
          obtain ⟨content, rfl⟩ := declined.refused res hres
          cases hok
      | failed names => cases hres
      | torn names => cases hres
      | @stored q operation sizeBefore bytes content d' names reached before
          after =>
          refine ⟨fileMutation q workspace operation sizeBefore bytes.length
            bytes, q, bytes, ?_, names, after,
            recorded_below_iff names hroot hlinks⟩
          unfold asToolRun
          rw [hrun]
          rfl

end

-- ================================================================ examples

/-- A write of `a.txt` in the workspace of this spelling. -/
def writeNotes (workspace : Path) : ToolRun Disk :=
  asToolRun (FileTool._run (.walking 8) workspace .write
    [("path", .str "a.txt"), ("content", .str "one")]) workspaceDisk

/-- The sample's write goes through, however its workspace is spelled. -/
theorem writeNotes_wrote :
    (writeNotes (Path.parse "/ws")).outcome
        = .ok (succeeded [] "file_write: wrote 3 bytes to a.txt").2 ∧
      (writeNotes (Path.parse "ws")).outcome
        = .ok (succeeded [] "file_write: wrote 3 bytes to a.txt").2 := by
  decide +kernel

/-- A workspace given as an absolute path. -/
theorem event_path_absolute :
    ∃ (m : FileMutation) (q : Location) (content : List UInt8),
      (writeNotes (Path.parse "/ws")).mutations = [m] ∧
      Names (.walking 8) (Path.parse "/ws")
        [("path", .str "a.txt"), ("content", .str "one")] workspaceDisk.tree
        q ∧
      (writeNotes (Path.parse "/ws")).world.tree.node q
        = some (.file content) ∧
      (RecordedBelow (.walking 8) (writeNotes (Path.parse "/ws")).world.tree
          (Path.parse "/ws") ["ws"] m.path q
        ↔ SpelledCanonically (Path.parse "/ws") ["ws"]) := by
  have hwalk : realpath workspaceDisk.tree 8 [] (Path.parse "/ws").parts
      = some ["ws"] := by
    decide +kernel
  have hwrite : FileTool.write ≠ .read := by
    decide
  exact event_path_iff hwrite (walk_of_realpath hwalk)
    ⟨_, writeNotes_wrote.1, rfl⟩

/-- In the workspace `ws` of a process that runs in `/`, the event names the
file from the root. -/
theorem event_path_from_relative :
    (writeNotes (Path.parse "ws")).world.tree.node ["ws", "a.txt"]
        = some (.file (Utf8.encode ['o', 'n', 'e'])) ∧
      (writeNotes (Path.parse "ws")).mutations.map FileMutation.path
        = ["/ws/a.txt"] ∧
      ¬ RecordedBelow (.walking 8) (writeNotes (Path.parse "ws")).world.tree
        (Path.parse "ws") ["ws"] "/ws/a.txt" ["ws", "a.txt"] := by
  refine ⟨by decide +kernel, by decide +kernel, ?_⟩
  intro h
  exact absurd h.relative (by decide)

end AgentAnvil.Sdk
