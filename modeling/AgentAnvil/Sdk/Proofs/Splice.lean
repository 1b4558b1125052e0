/-
What `file_edit` leaves in the file.

An edit replaces lines, and is to leave the end of the file as it was: a
newline there, or none. The source takes a final newline off before it
splits the text, and puts one on if what it has joined does not end in
one. Joined lines end in a newline when the last of several is blank, so
that line is lost then; and where no line remains, a newline is made up
(`joined_eq_textOf`).
-/
import AgentAnvil.Sdk.Proofs.FileEffects
import AgentAnvil.Sdk.Proofs.LineNumbers

namespace AgentAnvil.Sdk

open Fs

-- ==================================================== statement vocabulary

/-- The line that comes last when lines are replaced: the file's own if the
range ends before it, else the last of the new lines, else the one before
the range. -/
def lastRemaining (lines newLines : List (List Char)) (start stop : Int) :
    Option (List Char) :=
  if stop < lines.length then lines.getLast?
  else if newLines ≠ [] then newLines.getLast?
  else (lines.take (start - 1).toNat).getLast?

/-- How many lines there are when lines are replaced. -/
def remaining (lines newLines : List (List Char)) (start stop : Int) : Nat :=
  (start - 1).toNat + newLines.length + (lines.length - stop.toNat)

/-- A line remains, and the last one is not blank unless it is the only
one. -/
def EndsVisibly (lines newLines : List (List Char)) (start stop : Int) :
    Prop :=
  ∃ line, lastRemaining lines newLines start stop = some line ∧
    (line = [] → remaining lines newLines start stop = 1)

/-- The file has its lines replaced, and ends in a newline if it did. -/
def Splices (t : Tree) (q : Location) (text newContent : List Char)
    (start stop : Int) : Prop :=
  t.node q = some (.file (Utf8.encode (Lines.textOf
    (text.getLast? = some '\n')
    (Lines.spliced (Lines.newlineLines text)
      (FileEditTool.newLinesSplit newContent) start stop))))

instance (t : Tree) (q : Location) (text newContent : List Char)
    (start stop : Int) : Decidable (Splices t q text newContent start stop) :=
  inferInstanceAs (Decidable (_ = _))

/-- A result, and no error. -/
def Succeeds (outcome : Except Exc ToolResult) : Prop :=
  ∃ result, outcome = .ok result ∧ result.isError = false

-- ============================================================ joined lines

/-- The final newline is put back right if the lines end visibly. -/
theorem joined_eq_textOf {lines : List (List Char)}
    (hlines : ∀ line ∈ lines, '\n' ∉ line) :
    FileEditTool.joined true lines = Lines.textOf true lines
      ↔ ∃ line, lines.getLast? = some line ∧
          (line = [] → lines.length = 1) := by
  have hlast := Lines.getLast?_intercalate hlines
  cases hend : lines.getLast? with
  | none =>
      rw [List.getLast?_eq_none_iff.mp hend]
      constructor
      · intro h
        cases h
      · rintro ⟨line, h, -⟩
        cases h
  | some line =>
      have hne : lines ≠ [] := by
        rintro rfl
        cases hend
      rw [hend, Option.some_inj] at hlast
      rw [Lines.textOf_terminated hne, FileEditTool.joined]
      by_cases hnewline : (['\n'].intercalate lines).getLast? = some '\n'
      · obtain ⟨hblank, hlength⟩ := hlast.mp hnewline
        rw [if_neg (by simp [hnewline])]
        constructor
        · intro h
          exact absurd (List.append_right_eq_self.mp h.symm)
            (List.cons_ne_nil _ _)
        · rintro ⟨line', h, hone⟩
          rw [← Option.some.inj h] at hone
          exact absurd (hone hblank) hlength
      · rw [if_pos ⟨rfl, hnewline⟩]
        refine iff_of_true rfl ⟨line, rfl, ?_⟩
        intro hblank
        by_contra hlength
        exact hnewline (hlast.mpr ⟨hblank, hlength⟩)

/-- Without a final newline the lines are joined as they are. -/
theorem joined_unterminated (lines : List (List Char)) :
    FileEditTool.joined false lines = Lines.textOf false lines := by
  unfold FileEditTool.joined
  rw [if_neg (by simp)]
  rfl

section

variable {lines newLines : List (List Char)} {start stop : Int}

/-- The last line after a splice is that of the lines behind the range, or of
the new ones, or of those before it. -/
theorem getLast?_spliced (hrange : 1 ≤ start ∧ start ≤ stop) :
    (Lines.spliced lines newLines start stop).getLast?
      = lastRemaining lines newLines start stop := by
  unfold Lines.spliced lastRemaining
  rw [List.getLast?_append, List.getLast?_append]
  by_cases hstop : stop < lines.length
  · rw [if_pos hstop, List.getLast?_drop, if_neg (by omega)]
    obtain ⟨line, hline⟩ := Option.ne_none_iff_exists'.mp
      (mt List.getLast?_eq_none_iff.mp
        (List.ne_nil_of_length_pos (l := lines) (by omega)))
    rw [hline]
    rfl
  · have hdrop : lines.length ≤ (min stop lines.length).toNat := by
      omega
    rw [if_neg hstop, List.drop_of_length_le hdrop, List.getLast?_nil,
      Option.none_or]
    by_cases hnew : newLines = []
    · rw [hnew, if_neg (not_not_intro rfl), List.getLast?_nil,
        Option.none_or]
    · rw [if_pos hnew]
      obtain ⟨line, hline⟩ := Option.ne_none_iff_exists'.mp
        (mt List.getLast?_eq_none_iff.mp hnew)
      rw [hline]
      rfl

/-- The lines before the range, the new ones and those behind it. -/
theorem length_spliced (hrange : 1 ≤ start ∧ start ≤ stop)
    (hstart : start ≤ lines.length + 1) :
    (Lines.spliced lines newLines start stop).length
      = remaining lines newLines start stop := by
  unfold Lines.spliced remaining
  rw [List.length_append, List.length_append, List.length_take,
    List.length_drop]
  omega

theorem newline_notMem_spliced (hlines : ∀ line ∈ lines, '\n' ∉ line)
    (hnew : ∀ line ∈ newLines, '\n' ∉ line) :
    ∀ line ∈ Lines.spliced lines newLines start stop, '\n' ∉ line := by
  intro line hline
  rcases List.mem_append.mp hline with hline | hline
  · rcases List.mem_append.mp hline with hline | hline
    · exact hlines line (List.mem_of_mem_take hline)
    · exact hnew line hline
  · exact hlines line (List.mem_of_mem_drop hline)

end

theorem newline_notMem_newLinesSplit (newContent : List Char) :
    ∀ line ∈ FileEditTool.newLinesSplit newContent, '\n' ∉ line := by
  unfold FileEditTool.newLinesSplit
  split
  · intro line hline
    cases hline
  · exact Lines.newline_notMem_splitOn newContent

-- ================================================================ the edit

/-- Whether the spliced lines are joined into their text. -/
theorem joined_spliced_iff {text : List Char} {start stop : Int}
    (hrange : 1 ≤ start ∧ start ≤ stop)
    (hpast : start ≤ (Lines.newlineLines text).length + 1)
    (newContent : List Char) :
    FileEditTool.joined (text.getLast? = some '\n')
        (Lines.spliced (Lines.newlineLines text)
          (FileEditTool.newLinesSplit newContent) start stop)
      = Lines.textOf (text.getLast? = some '\n')
        (Lines.spliced (Lines.newlineLines text)
          (FileEditTool.newLinesSplit newContent) start stop)
      ↔ text.getLast? ≠ some '\n' ∨
          EndsVisibly (Lines.newlineLines text)
            (FileEditTool.newLinesSplit newContent) start stop := by
  by_cases hlast : text.getLast? = some '\n'
  · rw [decide_eq_true hlast, joined_eq_textOf
      (newline_notMem_spliced (Lines.newline_notMem_newlineLines text)
        (newline_notMem_newLinesSplit _)),
      getLast?_spliced hrange, length_spliced hrange hpast]
    exact (or_iff_right (not_not_intro hlast)).symm
  · rw [decide_eq_false hlast]
    exact iff_of_true (joined_unterminated _) (Or.inl hlast)

/-- An edit that is not refused joins the spliced lines. An append is a
splice after the last line. -/
theorem edited_ok {text newContent newText : List Char} {start stop : PyInt}
    (hrange : 1 ≤ start.value ∧ start.value ≤ stop.value)
    (h : FileEditTool.edited text start stop newContent = .ok newText) :
    start.value ≤ (Lines.newlineLines text).length + 1 ∧
      newText = FileEditTool.joined (text.getLast? = some '\n')
        (Lines.spliced (Lines.newlineLines text)
          (FileEditTool.newLinesSplit newContent) start.value stop.value) := by
  simp only [FileEditTool.edited] at h
  split at h
  · cases h
  next hpast =>
    refine ⟨by omega, ?_⟩
    split at h
    · next happend =>
      split at h
      · cases h
      · rw [← Except.ok.inj h, Lines.spliced,
          List.take_of_length_le (by omega),
          List.drop_of_length_le (by omega), List.append_nil]
    · exact (Except.ok.inj h).symm

section

variable {p : Platform} {workspace : Path} {args : List (String × Json)}
  {d d' : Disk} {q : Location} {text : List Char} {start stop : PyInt}
  {newContent : String}

/-- The location the arguments of a call name is one. -/
theorem Names.unique {q' : Location} (h : Names p workspace args d.tree q)
    (h' : Names p workspace args d.tree q') : q = q' := by
  obtain ⟨path, hpath, hwalk⟩ := h.canonical
  obtain ⟨path', hpath', hwalk'⟩ := h'.canonical
  rw [hpath] at hpath'
  cases hpath'
  exact Walk.unique hwalk hwalk'

/-- A body run as a tool leaves the disk as it left it. -/
theorem asToolRun_world {body : Py Disk FileResult}
    {r : Except Exc FileResult} (h : body d = (r, d')) :
    (asToolRun body d).world = d' := by
  unfold asToolRun
  rw [h]
  cases r with
  | error exc => rfl
  | ok res => rfl

/-- A tool succeeds if its body returned a result that is no error. -/
theorem succeeds_iff {body : Py Disk FileResult} {r : Except Exc FileResult}
    (h : body d = (r, d')) :
    Succeeds (asToolRun body d).outcome
      ↔ ∃ res, r = .ok res ∧ res.2.isError = false := by
  unfold asToolRun
  rw [h]
  cases r with
  | error exc =>
      constructor
      · rintro ⟨result, hresult, -⟩
        cases hresult
      · rintro ⟨res, hres, -⟩
        cases hres
  | ok res =>
      constructor
      · rintro ⟨result, hresult, hok⟩
        cases hresult
        exact ⟨res, rfl, hok⟩
      · rintro ⟨res', hres, hok⟩
        cases hres
        exact ⟨res.2, rfl, hok⟩

/-- An edit leaves the tree as it was, or it got as far as its write. -/
theorem edit_world_cases (p : Platform) (workspace : Path)
    (args : List (String × Json)) (d : Disk) :
    (asToolRun (FileEditTool._run p workspace args) d).world.tree = d.tree ∧
        ¬ Succeeds
          (asToolRun (FileEditTool._run p workspace args) d).outcome ∨
      ∃ r d', FileEditTool._run p workspace args d = (r, d') ∧
        Edited p workspace args d r d' ∧
        (asToolRun (FileEditTool._run p workspace args) d).world = d' := by
  match hrun : FileEditTool._run p workspace args d with
  | (r, d') =>
      rw [succeeds_iff hrun, asToolRun_world hrun]
      rcases edit_cases hrun with hdeclined | hedited
      · refine Or.inl ⟨hdeclined.tree, ?_⟩
        rintro ⟨res, hres, hok⟩
        obtain ⟨content, rfl⟩ := hdeclined.refused res hres
        cases hok
      · exact Or.inr ⟨r, d', rfl, hedited, rfl⟩

/-- An edit that does not succeed leaves the tree as it was, where no write
breaks off. -/
theorem edit_unchanged (hwhole : d.Whole) (h : ¬ Succeeds
    (asToolRun (FileEditTool._run p workspace args) d).outcome) :
    (asToolRun (FileEditTool._run p workspace args) d).world.tree
      = d.tree := by
  rcases edit_world_cases p workspace args d with
    ⟨htree, -⟩ | ⟨r, d', hrun, hedited, -⟩
  · exact htree
  · cases hedited with
    | torn names reached torn => exact absurd hwhole torn.tears
    | stored =>
        exact absurd ((succeeds_iff hrun).mpr ⟨_, rfl, rfl⟩) h

/-- What a successful edit stores. -/
theorem edit_stores (hnames : Names p workspace args d.tree q)
    (hfile : d.tree.node q = some (.file (Utf8.encode text)))
    (hstart : intArgument args "start_line" = some start)
    (hstop : intArgument args "end_line" = some stop)
    (hnew : stringArgument args "new_content" = some newContent)
    (hok : Succeeds
      (asToolRun (FileEditTool._run p workspace args) d).outcome) :
    (1 ≤ start.value ∧ start.value ≤ stop.value) ∧
      start.value ≤ (Lines.newlineLines text).length + 1 ∧
      (asToolRun (FileEditTool._run p workspace args) d).world.tree.node q
        = some (.file (Utf8.encode (FileEditTool.joined
            (text.getLast? = some '\n')
            (Lines.spliced (Lines.newlineLines text)
              (FileEditTool.newLinesSplit newContent.toList) start.value
              stop.value)))) := by
  rcases edit_world_cases p workspace args d with
    ⟨-, hfail⟩ | ⟨r, d', hrun, hedited, hworld⟩
  · exact absurd hok hfail
  · rw [hworld]
    cases hedited with
    | torn names reached torn =>
      obtain ⟨res, hres, -⟩ := (succeeds_iff hrun).mp hok
      cases hres
    | stored names _ startLine endLine replacement range before edited after =>
      cases hnames.unique names
      rw [hstart] at startLine
      rw [hstop] at endLine
      rw [hnew] at replacement
      rw [hfile] at before
      cases startLine
      cases endLine
      cases replacement
      injection before with before
      injection before with before
      cases Utf8.encode_injective before
      obtain ⟨hpast, rfl⟩ := edited_ok range edited
      exact ⟨range, hpast, after⟩

/-- An edit that succeeds is an exact splice of the file's lines if and
only if the file does not end in a newline, or a line remains and the last
one is not blank unless it is the only one. -/
theorem file_edit_splices_iff (hnames : Names p workspace args d.tree q)
    (hfile : d.tree.node q = some (.file (Utf8.encode text)))
    (hstart : intArgument args "start_line" = some start)
    (hstop : intArgument args "end_line" = some stop)
    (hnew : stringArgument args "new_content" = some newContent)
    (hok : Succeeds
      (asToolRun (FileEditTool._run p workspace args) d).outcome) :
    Splices (asToolRun (FileEditTool._run p workspace args) d).world.tree q
        text newContent.toList start.value stop.value
      ↔ text.getLast? ≠ some '\n' ∨
          EndsVisibly (Lines.newlineLines text)
            (FileEditTool.newLinesSplit newContent.toList) start.value
            stop.value := by
  obtain ⟨hrange, hpast, hstored⟩ :=
    edit_stores hnames hfile hstart hstop hnew hok
  unfold Splices
  rw [hstored, Option.some_inj, Node.file.injEq, Utf8.encode_injective.eq_iff]
  exact joined_spliced_iff hrange hpast _

/-- The location of a file is the one its path names. -/
theorem FileAt.names {path : String} {text : List Char}
    (h : FileAt p workspace path d q text)
    (hpath : pathArgument args = some path) :
    Names p workspace args d.tree q where
  canonical := ⟨path, hpath, p.resolve_canonical _ _ _ h.resolves⟩
  below := by
    obtain ⟨root, hroot, hbelow⟩ := h.below
    exact ⟨root, p.resolve_canonical _ _ _ hroot, hbelow⟩

end

-- ================================================================ examples

/-- The arguments of an edit of `notes.txt`. -/
def editNotes (start stop : Int) (newContent : String) :
    List (String × Json) := [
  ("path", .str "notes.txt"), ("start_line", .int start),
  ("end_line", .int stop), ("new_content", .str newContent)]

/-- An edit of `/ws/notes.txt`, where this is its text. -/
def notesEdited (text : List Char) (start stop : Int) (newContent : String) :
    ToolRun Disk :=
  asToolRun (FileEditTool._run (.walking 8) (Path.parse "/ws")
    (editNotes start stop newContent)) (notesDisk text)

/-- The sample's notes, with one line replaced. -/
theorem file_edit_splices_notes :
    Splices (notesEdited ['a', '\n', 'b', '\n'] 2 2 "c").world.tree
        ["ws", "notes.txt"] ['a', '\n', 'b', '\n'] ['c'] 2 2
      ↔ ['a', '\n', 'b', '\n'].getLast? ≠ some '\n' ∨
          EndsVisibly [['a'], ['b']] [['c']] 2 2 := by
  have hstart : intArgument (editNotes 2 2 "c") "start_line"
      = some (.of 2) := rfl
  have hstop : intArgument (editNotes 2 2 "c") "end_line" = some (.of 2) :=
    rfl
  have hnew : stringArgument (editNotes 2 2 "c") "new_content"
      = some "c" := rfl
  have hok : Succeeds (notesEdited ['a', '\n', 'b', '\n'] 2 2 "c").outcome :=
    ⟨(succeeded [] "file_edit: replaced lines 2-2 (4 -> 4 bytes)").2,
      by decide +kernel, rfl⟩
  have hlines : Lines.newlineLines ['a', '\n', 'b', '\n']
      = [['a'], ['b']] := by
    decide
  have hsplit : FileEditTool.newLinesSplit "c".toList = [['c']] := by
    decide
  have hiff := file_edit_splices_iff (notesDisk_fileAt.names rfl)
    notesDisk_fileAt.content hstart hstop hnew hok
  rw [hlines, hsplit] at hiff
  exact hiff

/-- A blank line at the end of the file is lost when another line is
replaced, and a file whose only line is deleted keeps a newline. -/
theorem file_edit_loses_blank_end :
    (Succeeds (notesEdited ['a', '\n', '\n'] 1 1 "b").outcome ∧
        ¬ Splices (notesEdited ['a', '\n', '\n'] 1 1 "b").world.tree
          ["ws", "notes.txt"] ['a', '\n', '\n'] ['b'] 1 1) ∧
      (Succeeds (notesEdited ['a', '\n'] 1 1 "").outcome ∧
        ¬ Splices (notesEdited ['a', '\n'] 1 1 "").world.tree
          ["ws", "notes.txt"] ['a', '\n'] [] 1 1) := by
  refine ⟨⟨?_, by decide +kernel⟩, ⟨?_, by decide +kernel⟩⟩
  · exact ⟨(succeeded [] "file_edit: replaced lines 1-1 (3 -> 2 bytes)").2,
      by decide +kernel, rfl⟩
  · exact ⟨(succeeded [] "file_edit: replaced lines 1-1 (2 -> 1 bytes)").2,
      by decide +kernel, rfl⟩

end AgentAnvil.Sdk
