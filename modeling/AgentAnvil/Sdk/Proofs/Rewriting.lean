/-
Rewriting lines with their own text.

The text of a range names its lines unless it is empty: then the range is
one blank line, and the empty text is the command that deletes it. Lines
put in place of themselves give the file back, but for the final newline,
which is where a file that ends in two of them differs (`visible_end`).
-/
import AgentAnvil.Sdk.Proofs.Splice

namespace AgentAnvil.Sdk

open Fs

/-- The lines of a range, joined. -/
def rangeText (lines : List (List Char)) (start stop : Int) : List Char :=
  ['\n'].intercalate
    ((lines.drop (start - 1).toNat).take (stop - start + 1).toNat)

section

variable {lines : List (List Char)} {start stop : Int} {text : List Char}

-- ======================================================= the end of a file

/-- A file ends in two newlines when the last of several lines is blank. -/
theorem blank_end (hlast : text.getLast? = some '\n') :
    ['\n', '\n'] <:+ text ↔ (Lines.newlineLines text).getLast? = some [] ∧
      (Lines.newlineLines text).length ≠ 1 := by
  obtain ⟨front, rfl⟩ := List.getLast?_eq_some_iff.mp hlast
  rw [← Lines.getLast?_intercalate (Lines.newline_notMem_newlineLines _),
    Lines.newlineLines_concat, List.intercalate_splitOn]
  show ['\n'] ++ ['\n'] <:+ front ++ ['\n'] ↔ _
  rw [List.suffix_append_self_iff,
    List.singleton_suffix_iff_getLast?_eq_some]

/-- Where a file does not end in two newlines, its last line is not blank
unless it is the only one. -/
theorem visible_end (hlast : text.getLast? = some '\n')
    (hend : ¬ ['\n', '\n'] <:+ text) :
    ∃ line, (Lines.newlineLines text).getLast? = some line ∧
      (line = [] → (Lines.newlineLines text).length = 1) := by
  obtain ⟨line, hline⟩ := Option.ne_none_iff_exists'.mp
    (mt List.getLast?_eq_none_iff.mp (Lines.newlineLines_ne_nil text))
  refine ⟨line, hline, ?_⟩
  rintro rfl
  by_contra hlength
  exact hend ((blank_end hlast).mpr ⟨hline, hlength⟩)

-- ============================================================== the range

/-- Replacing lines by themselves. -/
theorem spliced_self
    (hrange : 1 ≤ start ∧ start ≤ stop ∧ stop ≤ lines.length) :
    Lines.spliced lines
      ((lines.drop (start - 1).toNat).take (stop - start + 1).toNat)
      start stop = lines := by
  have hstop : (min stop lines.length).toNat
      = (start - 1).toNat + (stop - start + 1).toNat := by
    omega
  unfold Lines.spliced
  rw [hstop, List.append_assoc, ← List.drop_drop, List.take_append_drop,
    List.take_append_drop]

/-- A range whose text is empty is one blank line. -/
theorem blank_range
    (hrange : 1 ≤ start ∧ start ≤ stop ∧ stop ≤ lines.length)
    (h : rangeText lines start stop = []) :
    start = stop ∧ lines[(start - 1).toNat]? = some [] := by
  have hlength : ((lines.drop (start - 1).toNat).take
      (stop - start + 1).toNat).length = (stop - start + 1).toNat := by
    rw [List.length_take, List.length_drop]
    omega
  unfold rangeText at h
  match hlines : (lines.drop (start - 1).toNat).take
      (stop - start + 1).toNat with
  | [] =>
      rw [hlines, List.length_nil] at hlength
      omega
  | [line] =>
      rw [hlines, List.length_singleton] at hlength
      rw [hlines, List.intercalate_singleton] at h
      refine ⟨by omega, ?_⟩
      have hfirst : ((lines.drop (start - 1).toNat).take
          (stop - start + 1).toNat)[0]? = some line := by
        rw [hlines]
        rfl
      rwa [List.getElem?_take_of_lt (by omega), List.getElem?_drop,
        Nat.add_zero, h] at hfirst
  | line :: next :: rest =>
      rw [hlines, List.intercalate_cons_cons] at h
      simp at h

/-- When a blank line is deleted, what comes last is what came last. -/
theorem endsVisibly_of_blank
    (hrange : 1 ≤ start ∧ start ≤ stop ∧ stop ≤ lines.length)
    (hone : start = stop) (hblank : lines[(start - 1).toNat]? = some [])
    (hlength : lines.length ≠ 1)
    (hvisible : ∃ line, lines.getLast? = some line ∧
      (line = [] → lines.length = 1)) :
    EndsVisibly lines [] start stop := by
  obtain ⟨line, hline, hfull⟩ := hvisible
  have hstop : stop < lines.length := by
    by_contra hend
    have hlast : (start - 1).toNat = lines.length - 1 := by
      omega
    rw [hlast, ← List.getLast?_eq_getElem?, hline] at hblank
    exact hlength (hfull (Option.some.inj hblank))
  refine ⟨line, ?_, fun h => absurd (hfull h) hlength⟩
  unfold lastRemaining
  rw [if_pos hstop, hline]

/-- A text that is not empty names the lines it was joined from. -/
theorem newLinesSplit_rangeText (h : rangeText lines start stop ≠ [])
    (hlines : ∀ line ∈ lines, '\n' ∉ line) :
    FileEditTool.newLinesSplit (rangeText lines start stop)
      = (lines.drop (start - 1).toNat).take (stop - start + 1).toNat := by
  unfold FileEditTool.newLinesSplit
  rw [if_neg h]
  refine List.splitOn_intercalate '\n' ?_ ?_
  · intro line hline
    exact hlines line (List.mem_of_mem_drop (List.mem_of_mem_take hline))
  · intro hnil
    unfold rangeText at h
    rw [hnil] at h
    exact h rfl

end

-- ================================================================ the edit

section

variable {p : Platform} {workspace : Path} {args : List (String × Json)}
  {d : Disk} {q : Location} {text : List Char} {start stop : PyInt}
  {newContent : String}

/-- Lines rewritten with their own text leave the file as it was, unless it
ends in two newlines or the write breaks off; and where that text is empty
the one blank line it is the text of is deleted, unless it is the only
line. -/
theorem file_edit_rewrites (hnames : Names p workspace args d.tree q)
    (hfile : d.tree.node q = some (.file (Utf8.encode text)))
    (hstart : intArgument args "start_line" = some start)
    (hstop : intArgument args "end_line" = some stop)
    (hnew : stringArgument args "new_content" = some newContent)
    (hrange : 1 ≤ start.value ∧ start.value ≤ stop.value ∧
      stop.value ≤ (Lines.newlineLines text).length)
    (hown : newContent.toList
      = rangeText (Lines.newlineLines text) start.value stop.value)
    (hend : ¬ ['\n', '\n'] <:+ text) :
    (newContent ≠ "" →
        d.Whole ∨ Succeeds
          (asToolRun (FileEditTool._run p workspace args) d).outcome →
        (asToolRun (FileEditTool._run p workspace args) d).world.tree.node q
          = d.tree.node q) ∧
      (newContent = "" → (Lines.newlineLines text).length ≠ 1 →
        Succeeds
          (asToolRun (FileEditTool._run p workspace args) d).outcome →
        start.value = stop.value ∧
          (asToolRun (FileEditTool._run p workspace args) d).world.tree.node q
            = some (.file (Utf8.encode (Lines.textOf
                (text.getLast? = some '\n')
                ((Lines.newlineLines text).eraseIdx
                  (start.value - 1).toNat))))) := by
  constructor
  · intro hne hends
    by_cases hok : Succeeds
        (asToolRun (FileEditTool._run p workspace args) d).outcome
    swap
    · rw [edit_unchanged (hends.resolve_right hok) hok]
    · obtain ⟨-, -, hstored⟩ :=
        edit_stores hnames hfile hstart hstop hnew hok
      have htext : rangeText (Lines.newlineLines text) start.value stop.value
          ≠ [] := by
        rw [← hown]
        exact mt String.toList_eq_nil_iff.mp hne
      rw [hown, newLinesSplit_rangeText htext
        (Lines.newline_notMem_newlineLines text), spliced_self hrange]
        at hstored
      rw [hstored, hfile]
      by_cases hlast : text.getLast? = some '\n'
      · rw [decide_eq_true hlast, (joined_eq_textOf
          (Lines.newline_notMem_newlineLines text)).mpr
            (visible_end hlast hend), ← decide_eq_true hlast,
          Lines.textOf_newlineLines]
      · rw [decide_eq_false hlast, joined_unterminated,
          ← decide_eq_false hlast, Lines.textOf_newlineLines]
  · intro hempty hlength hok
    obtain ⟨hone, hblank⟩ := blank_range hrange
      (hown.symm.trans (String.toList_eq_nil_iff.mpr hempty))
    refine ⟨hone, ?_⟩
    obtain ⟨hvalid, hpast, hstored⟩ :=
      edit_stores hnames hfile hstart hstop hnew hok
    have hsplit : FileEditTool.newLinesSplit newContent.toList = [] := by
      rw [hempty]
      rfl
    have hremaining : text.getLast? ≠ some '\n' ∨
        EndsVisibly (Lines.newlineLines text) [] start.value stop.value := by
      rw [or_iff_not_imp_left, not_not]
      intro hlast
      exact endsVisibly_of_blank hrange hone hblank hlength
        (visible_end hlast hend)
    have hstopped : (min stop.value (Lines.newlineLines text).length).toNat
        = (start.value - 1).toNat + 1 := by
      omega
    rw [← hsplit] at hremaining
    rw [hstored, (joined_spliced_iff hvalid hpast _).mpr hremaining, hsplit,
      Lines.spliced, List.append_nil, List.eraseIdx_eq_take_drop_succ,
      hstopped]

end

-- ================================================================ examples

/-- The sample's notes with a blank line between two others. -/
theorem blankNotes_fileAt : FileAt (.walking 8) (Path.parse "/ws") "notes.txt"
    (notesDisk ['a', '\n', '\n', 'b', '\n']) ["ws", "notes.txt"]
    ['a', '\n', '\n', 'b', '\n'] where
  named := by decide
  sound := fun _ => rfl
  whole := fun _ => rfl
  resolves := by decide +kernel
  below := ⟨["ws"], by decide +kernel, by decide⟩
  content := by decide +kernel
  encodes := fun s => ⟨_, rfl⟩

/-- A line replaced by itself leaves the file; a blank line replaced by
nothing is taken out. -/
theorem file_edit_rewrites_notes :
    (notesEdited ['a', '\n', 'b', '\n'] 2 2 "b").world.tree.node
          ["ws", "notes.txt"]
        = (notesDisk ['a', '\n', 'b', '\n']).tree.node ["ws", "notes.txt"] ∧
      (notesEdited ['a', '\n', '\n', 'b', '\n'] 2 2 "").world.tree.node
          ["ws", "notes.txt"]
        = some (.file (Utf8.encode ['a', '\n', 'b', '\n'])) := by
  have hstart (newContent : String) :
      intArgument (editNotes 2 2 newContent) "start_line"
        = some (.of 2) := rfl
  have hstop (newContent : String) :
      intArgument (editNotes 2 2 newContent) "end_line"
        = some (.of 2) := rfl
  have hnew (newContent : String) :
      stringArgument (editNotes 2 2 newContent) "new_content"
        = some newContent := rfl
  constructor
  · exact (file_edit_rewrites (notesDisk_fileAt.names rfl)
      notesDisk_fileAt.content (hstart "b") (hstop "b") (hnew "b")
      (by decide) (by decide) (by decide)).1 (by decide)
        (Or.inl notesDisk_fileAt.whole)
  · exact ((file_edit_rewrites (blankNotes_fileAt.names rfl)
      blankNotes_fileAt.content (hstart "") (hstop "") (hnew "")
      (by decide) (by decide) (by decide)).2 rfl (by decide)
      ⟨(succeeded [] "file_edit: replaced lines 2-2 (5 -> 4 bytes)").2,
        by decide +kernel, rfl⟩).2

/-- A blank line rewritten with its own text is deleted, and a file that
ends in two newlines loses one. -/
theorem file_edit_changes_own_text :
    rangeText (Lines.newlineLines ['a', '\n', '\n', 'b', '\n']) 2 2
        = "".toList ∧
      (notesEdited ['a', '\n', '\n', 'b', '\n'] 2 2 "").world.tree.node
          ["ws", "notes.txt"]
        ≠ (notesDisk ['a', '\n', '\n', 'b', '\n']).tree.node
          ["ws", "notes.txt"] ∧
      rangeText (Lines.newlineLines ['a', '\n', '\n']) 1 1 = "a".toList ∧
      (notesEdited ['a', '\n', '\n'] 1 1 "a").world.tree.node
          ["ws", "notes.txt"]
        ≠ (notesDisk ['a', '\n', '\n']).tree.node ["ws", "notes.txt"] := by
  decide +kernel

end AgentAnvil.Sdk
