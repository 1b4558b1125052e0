/-
The line numbers of `file_read` and of `file_edit`.

`file_read` numbers the lines `splitlines` makes of the text Python reads;
`file_edit` splits the bytes at newlines. Their numbers mean the same lines
just when newlines are all that ends a line (`lineNumbers_agree`).

Both sides are stated of runs of the tools on one disk: what a whole-file
read shows, and which line an edit of one line replaces.
-/
import AgentAnvil.Sdk.FileTools

namespace AgentAnvil.Sdk

open Fs

-- ==================================================== statement vocabulary

/-- A path in the workspace names a file, and no call fails or breaks
off. -/
structure FileAt (p : Platform) (workspace : Path) (path : String) (d : Disk)
    (target : Location) (text : List Char) : Prop where
  named : path ≠ ""
  sound : d.Sound
  whole : d.Whole
  resolves : p.resolve d.tree (workspace.join (Path.parse path))
    = .ok target
  below : ∃ root, p.resolve d.tree workspace = .ok root ∧ root <+: target
  content : d.tree.node target = some (.file (Utf8.encode text))
  encodes : ∀ s, ∃ bytes, p.encode s = .ok bytes

/-- The `i`-th line of the output is `i: ` and the line. -/
def ShowsLine (content : String) (i : Nat) (line : List Char) : Prop :=
  (content.toList.splitOn '\n')[i - 1]?
    = some (Nat.toDigits 10 i ++ ':' :: ' ' :: line)

instance (content : String) (i : Nat) (line : List Char) :
    Decidable (ShowsLine content i line) :=
  inferInstanceAs (Decidable (_ = _))

/-- A whole-file `file_read` shows a line under a number. -/
def Shown (p : Platform) (workspace : Path) (path : String) (d : Disk)
    (i : Nat) (line : List Char) : Prop :=
  ∃ content,
    (asToolRun (FileReadTool._run p workspace [("path", .str path)]) d).outcome
      = .ok (succeeded [] content).2 ∧
    ShowsLine content i line

/-- `file_edit` of line `i` alone. -/
def editLine (p : Platform) (workspace : Path) (path : String) (i : Nat)
    (newContent : String) : Py Disk FileResult :=
  FileEditTool._run p workspace [
    ("path", .str path), ("start_line", .int i), ("end_line", .int i),
    ("new_content", .str newContent)]

/-- `file_edit` of line `i` puts whatever it is given in place of a line,
and leaves the lines before and after. -/
def Replaced (p : Platform) (workspace : Path) (path : String) (d : Disk)
    (target : Location) (text : List Char) (i : Nat) (line : List Char) :
    Prop :=
  ∃ before after : List (List Char), before.length + 1 = i ∧
    Lines.newlineLines text = before ++ line :: after ∧
    ∀ newContent,
      (asToolRun (editLine p workspace path i newContent) d).world.tree.node
          target
        = some (.file (Utf8.encode (FileEditTool.joined
            (text.getLast? = some '\n')
            (before ++ FileEditTool.newLinesSplit newContent.toList
              ++ after))))

/-- A line is shown under a number just when there is one to edit under it,
an empty file excepted, and it is that line up to its end. -/
def LineNumbersAgree (p : Platform) (workspace : Path) (path : String)
    (d : Disk) (target : Location) (text : List Char) : Prop :=
  (∀ i, 1 ≤ i → ((∃ line, Shown p workspace path d i line) ↔
    i ≤ (Lines.newlineLines text).length ∧ text ≠ [])) ∧
  ∀ i line, 1 ≤ i → Shown p workspace path d i line →
    ∃ line', Replaced p workspace path d target text i line' ∧
      Lines.UpToBoundary line line'

-- ========================================================== what is shown

theorem newline_notMem_digits (n : Nat) : '\n' ∉ Nat.toDigits 10 n := by
  intro h
  have hdigit := Nat.isDigit_of_mem_toDigits (by decide) (by decide) h
  exact absurd hdigit (by decide)

/-- The numbered lines come apart again. -/
theorem splitOn_numbered {lines : List (List Char)}
    (hlines : ∀ line ∈ lines, '\n' ∉ line) (hne : lines ≠ []) :
    (['\n'].intercalate ((List.range' 1 lines.length).map
      (FileReadTool.numbered lines))).splitOn '\n'
      = (List.range' 1 lines.length).map (FileReadTool.numbered lines) := by
  refine List.splitOn_intercalate '\n' ?_ ?_
  · intro piece hpiece
    obtain ⟨i, -, rfl⟩ := List.mem_map.mp hpiece
    have hline : '\n' ∉ lines.getD (i - 1) [] := by
      rw [List.getD_eq_getElem?_getD]
      cases hget : lines[i - 1]? with
      | none => exact List.not_mem_nil
      | some line => exact hlines line (List.mem_of_getElem? hget)
    unfold FileReadTool.numbered
    rw [List.mem_append, List.mem_cons, List.mem_cons]
    rintro (h | h | h | h)
    · exact newline_notMem_digits i h
    · cases h
    · cases h
    · exact hline h
  · simpa using hne

/-- What is shown under a number is the line of that number. -/
theorem showsLine_numbered {lines : List (List Char)}
    (hlines : ∀ line ∈ lines, '\n' ∉ line) {i : Nat} (hi : 1 ≤ i)
    (line : List Char) :
    ShowsLine (String.ofList (['\n'].intercalate
        ((List.range' 1 lines.length).map (FileReadTool.numbered lines))))
        i line
      ↔ lines[i - 1]? = some line := by
  unfold ShowsLine
  rw [String.toList_ofList]
  by_cases hne : lines = []
  · -- the one line of an empty output has no number
    have hdigits : Nat.toDigits 10 i ≠ [] := Nat.toDigits_ne_nil
    rw [hne]
    show [[]][i - 1]? = _ ↔ [][i - 1]? = _
    constructor
    · intro h
      have hmem := List.mem_of_getElem? h
      rw [List.mem_singleton] at hmem
      exact absurd (List.append_eq_nil_iff.mp hmem).1 hdigits
    · intro h
      cases h
  · rw [splitOn_numbered hlines hne, List.getElem?_map]
    by_cases hlen : i - 1 < lines.length
    · rw [List.getElem?_range' hlen, Option.map_some, Option.some_inj,
        FileReadTool.numbered, Nat.one_mul, Nat.add_sub_cancel_left,
        List.getD_eq_getElem?_getD, List.getElem?_eq_getElem hlen,
        Option.getD_some, Option.some_inj, Nat.add_sub_cancel' hi,
        List.append_cancel_left_eq]
      simp
    · rw [List.getElem?_eq_none (by rw [List.length_range']; omega),
        List.getElem?_eq_none (by omega)]
      simp

-- ========================================================= what the tools do

section

variable {p : Platform} {workspace : Path} {path : String} {d : Disk}
  {target : Location} {text : List Char}

theorem resolved_ok (hsound : d.Sound) {arg : Path} {q : Location}
    (h : p.resolve d.tree arg = .ok q) :
    p.resolved arg d = (.ok q, d.called) := by
  unfold Platform.resolved
  rw [Py.bind_ok (sysCall_ok hsound), Py.bind_ok (Py.get_apply _),
    Disk.called_tree, h, Py.ofExcept_apply]

/-- The check passes, and what comes after it goes on. -/
theorem inWorkspace_ok (h : FileAt p workspace path d target text)
    (tool : String) (next : Location → Py Disk FileResult) :
    inWorkspace p workspace tool path next d
      = next target d.called.called := by
  obtain ⟨root, hroot, hbelow⟩ := h.below
  have hresolve : resolveBelow p workspace path d
      = (.ok (some target), d.called.called) := by
    unfold resolveBelow
    rw [Py.bind_ok (resolved_ok h.sound h.resolves)]
    refine (Py.bind_ok (resolved_ok (d := d.called) h.sound hroot)).trans ?_
    rw [if_pos hbelow]
    rfl
  rw [inWorkspace, Py.bind_ok hresolve]

/-- The path is taken from the first entry, if it is not empty. -/
theorem pathArgument_cons (h : path ≠ "") (rest : List (String × Json)) :
    pathArgument (("path", .str path) :: rest) = some path := by
  unfold pathArgument
  rw [stringArgument, List.lookup_cons_self]
  simpa using h

/-- With no range asked for, every line is numbered. -/
theorem format_whole (path : String) (lines : List (List Char)) :
    FileReadTool.format [("path", .str path)] lines
      = succeeded [] (String.ofList (['\n'].intercalate
          ((List.range' 1 lines.length).map
            (FileReadTool.numbered lines)))) := by
  have hcount : ((lines.length : Int) + 1 - 1).toNat = lines.length := by
    omega
  have hnonempty : ¬ ((PyInt.of lines.length).value < (PyInt.of 1).value ∧
      lines ≠ []) := by
    rintro ⟨hshort, hne⟩
    have hpos := List.length_pos_iff.mpr hne
    simp only [PyInt.of] at hshort
    omega
  show FileReadTool.formatRange lines (.of 1) (.of lines.length) = _
  simp only [FileReadTool.formatRange, ite_self]
  rw [if_neg hnonempty]
  show succeeded [] (String.ofList (['\n'].intercalate
    ((List.range' 1 ((lines.length : Int) + 1 - 1).toNat).map _))) = _
  rw [hcount]

/-- The output of a whole-file read. -/
theorem read_outcome (h : FileAt p workspace path d target text)
    (hsize : (Utf8.encode text).length ≤ FileReadTool.MAX_FILE_BYTES) :
    (asToolRun (FileReadTool._run p workspace [("path", .str path)])
      d).outcome
      = .ok (succeeded [] (String.ofList (['\n'].intercalate
          ((List.range' 1 (Lines.textLines text).length).map
            (FileReadTool.numbered (Lines.textLines text)))))).2 := by
  have hcontent : d.called.called.tree.node target
      = some (.file (Utf8.encode text)) := h.content
  have hrun : FileReadTool._run p workspace [("path", .str path)] d
      = (.ok (FileReadTool.format [("path", .str path)]
          (Lines.textLines text)),
        d.called.called.called.called.called.called.logged
          (.read target)) := by
    rw [FileReadTool._run, pathArgument_cons h.named]
    refine (inWorkspace_ok h _ _).trans ?_
    unfold FileReadTool.readTarget
    rw [Py.bind_ok (pathExists_ok (d := d.called.called) h.sound), hcontent,
      Option.isSome_some, if_pos rfl,
      Py.bind_ok (isFile_ok (d := d.called.called.called) h.sound),
      Disk.called_tree, hcontent, isRegular, if_pos rfl,
      Py.bind_ok (statSize_ok (d := d.called.called.called.called) h.sound
        hcontent),
      if_neg (by omega),
      Py.bind_ok (readBytes_ok (d := d.called.called.called.called.called)
        h.sound hcontent),
      Utf8.decode_encode]
    rfl
  rw [asToolRun, hrun, format_whole]

/-- An edit of one line puts its text between the lines around it. -/
theorem edited_line {before after : List (List Char)} {line : List Char}
    (hlines : Lines.newlineLines text = before ++ line :: after)
    {number : PyInt} (hnumber : number.value = before.length + 1)
    (newContent : List Char) :
    FileEditTool.edited text number number newContent
      = .ok (FileEditTool.joined (text.getLast? = some '\n')
          (before ++ FileEditTool.newLinesSplit newContent ++ after)) := by
  have hlength : (Lines.newlineLines text).length
      = before.length + 1 + after.length := by
    rw [hlines, List.length_append, List.length_cons]
    omega
  have hpast : ¬ (((Lines.newlineLines text).length : Int) + 1
      < number.value) := by
    omega
  have happend : ¬ (((Lines.newlineLines text).length : Int)
      < number.value) := by
    omega
  have hmin : (min number.value
      ((Lines.newlineLines text).length : Int)).toNat
      = before.length + 1 := by
    omega
  have htake : (number.value - 1).toNat = before.length := by
    omega
  simp only [FileEditTool.edited]
  rw [if_neg hpast, if_neg happend, hmin, htake, hlines, List.take_left,
    List.drop_append, List.drop_of_length_le (by omega),
    Nat.add_sub_cancel_left, List.drop_one, List.tail_cons,
    List.nil_append]

/-- What an edit of one line leaves in the file. -/
theorem editLine_stores (h : FileAt p workspace path d target text)
    {before after : List (List Char)} {line : List Char}
    (hlines : Lines.newlineLines text = before ++ line :: after)
    (newContent : String) :
    (asToolRun (editLine p workspace path (before.length + 1) newContent)
      d).world.tree.node target
      = some (.file (Utf8.encode (FileEditTool.joined
          (text.getLast? = some '\n')
          (before ++ FileEditTool.newLinesSplit newContent.toList
            ++ after)))) := by
  have hcontent : d.called.called.tree.node target
      = some (.file (Utf8.encode text)) := h.content
  obtain ⟨bytes, hbytes⟩ := h.encodes (String.ofList
    (FileEditTool.joined (text.getLast? = some '\n')
      (before ++ FileEditTool.newLinesSplit newContent.toList ++ after)))
  obtain ⟨d', hwrite, hnode⟩ := writeBytes_ok
    (d := d.called.called.called.called.logged (.read target)) h.sound
    h.whole hcontent bytes
  have hnumber : (PyInt.of (before.length + 1 : Nat)).value
      = before.length + 1 := by
    rfl
  have hrange : ¬ ((PyInt.of (before.length + 1 : Nat)).value < 1 ∨
      (PyInt.of (before.length + 1 : Nat)).value
        < (PyInt.of (before.length + 1 : Nat)).value) := by
    omega
  have hrun : ∃ result, editLine p workspace path (before.length + 1)
      newContent d = (.ok result, d') := by
    unfold editLine
    rw [FileEditTool._run, pathArgument_cons h.named]
    show ∃ result, FileEditTool.editRange p workspace path
      (.of (before.length + 1 : Nat)) (.of (before.length + 1 : Nat))
      newContent d = _
    unfold FileEditTool.editRange
    rw [if_neg hrange,
      inWorkspace_ok h,
      Py.bind_ok (pathExists_ok (d := d.called.called) h.sound), hcontent,
      Option.isSome_some, if_pos rfl, FileEditTool.editTarget,
      Py.bind_ok (readBytes_ok (d := d.called.called.called) h.sound
        hcontent),
      Utf8.decode_encode]
    simp only [edited_line hlines hnumber]
    unfold Platform.encoded
    rw [hbytes, Py.bind_ok (Py.ofExcept_apply _ _), Py.bind_ok hwrite]
    exact ⟨_, rfl⟩
  obtain ⟨result, hrun⟩ := hrun
  rw [asToolRun, hrun]
  have hutf8 := p.encode_utf8 _ _ hbytes
  rw [String.toList_ofList] at hutf8
  rw [← hutf8]
  exact hnode

/-- What `file_read` shows as line `i` is line `i` of `splitlines`. -/
theorem shown_iff (h : FileAt p workspace path d target text)
    (hsize : (Utf8.encode text).length ≤ FileReadTool.MAX_FILE_BYTES)
    {i : Nat} (hi : 1 ≤ i) (line : List Char) :
    Shown p workspace path d i line
      ↔ (Lines.textLines text)[i - 1]? = some line := by
  have hlines : ∀ line ∈ Lines.textLines text, '\n' ∉ line :=
    Lines.newline_notMem_splitlines _
  rw [← showsLine_numbered hlines hi line]
  constructor
  · rintro ⟨content, hcontent, hshows⟩
    rw [read_outcome h hsize] at hcontent
    have htext : String.ofList (['\n'].intercalate
        ((List.range' 1 (Lines.textLines text).length).map
          (FileReadTool.numbered (Lines.textLines text)))) = content :=
      congrArg ToolResult.content (Except.ok.inj hcontent)
    rwa [← htext] at hshows
  · intro hshows
    exact ⟨_, read_outcome h hsize, hshows⟩

/-- Where the text has such a line at newlines, `file_edit` replaces that one.
-/
theorem replaced_of_line (h : FileAt p workspace path d target text)
    {i : Nat} (hi : 1 ≤ i) {line : List Char}
    (hline : (Lines.newlineLines text)[i - 1]? = some line) :
    Replaced p workspace path d target text i line := by
  obtain ⟨hlt, hget⟩ := List.getElem?_eq_some_iff.mp hline
  have hlines : Lines.newlineLines text
      = (Lines.newlineLines text).take (i - 1)
        ++ line :: (Lines.newlineLines text).drop (i - 1 + 1) := by
    rw [← hget, ← List.drop_eq_getElem_cons hlt, List.take_append_drop]
  have hlength : ((Lines.newlineLines text).take (i - 1)).length + 1 = i := by
    rw [List.length_take]
    omega
  refine ⟨_, _, hlength, hlines, ?_⟩
  intro newContent
  have hstores := editLine_stores h hlines newContent
  rwa [hlength] at hstores

/-- The line is the same up to the boundary that ends it. -/
theorem upToBoundary_get {text : List Char} (h : Lines.NewlinesOnly text)
    {i : Nat} {line : List Char}
    (hline : (Lines.textLines text)[i]? = some line) :
    ∃ line', (Lines.linesOrNone text)[i]? = some line' ∧
      Lines.UpToBoundary line line' := by
  obtain ⟨hlength, hget⟩ :=
    List.forall₂_iff_get.mp (Lines.textLines_upTo h)
  obtain ⟨hlt, hline⟩ := List.getElem?_eq_some_iff.mp hline
  refine ⟨_, List.getElem?_eq_getElem (by omega), ?_⟩
  rw [← hline]
  exact hget i hlt (by omega)

/-- The empty text has no line, any other as many as it has newlines, and what
follows them. -/
theorem le_linesOrNone {text : List Char} {i : Nat} (hi : 1 ≤ i) :
    i ≤ (Lines.linesOrNone text).length
      ↔ i ≤ (Lines.newlineLines text).length ∧ text ≠ [] := by
  by_cases hnil : text = []
  · unfold Lines.linesOrNone
    rw [if_pos hnil, List.length_nil]
    constructor
    · intro h
      omega
    · rintro ⟨-, h⟩
      exact absurd hnil h
  · unfold Lines.linesOrNone
    rw [if_neg hnil]
    exact (and_iff_left hnil).symm

/-- The two tools number the lines of a file alike if and only if every
boundary `splitlines` knows is, in this file, a newline, a carriage return
before one, or the last character. -/
theorem lineNumbers_agree (h : FileAt p workspace path d target text)
    (hsize : (Utf8.encode text).length ≤ FileReadTool.MAX_FILE_BYTES) :
    LineNumbersAgree p workspace path d target text
      ↔ Lines.NewlinesOnly text := by
  have hshown : ∀ i, 1 ≤ i → ((∃ line, Shown p workspace path d i line)
      ↔ i ≤ (Lines.textLines text).length) := by
    intro i hi
    simp only [shown_iff h hsize hi]
    constructor
    · rintro ⟨line, hline⟩
      have := (List.getElem?_eq_some_iff.mp hline).1
      omega
    · intro hle
      exact ⟨_, List.getElem?_eq_getElem (by omega)⟩
  rw [← (Lines.length_textLines text).2]
  constructor
  · rintro ⟨hnumbers, -⟩
    -- whatever number one side has, the other has
    have hiff : ∀ i, 1 ≤ i → (i ≤ (Lines.textLines text).length
        ↔ i ≤ (Lines.linesOrNone text).length) := by
      intro i hi
      rw [← hshown i hi, hnumbers i hi, le_linesOrNone hi]
    have htext := hiff (Lines.textLines text).length
    have hnone := hiff (Lines.linesOrNone text).length
    have hle := (Lines.length_textLines text).1
    omega
  · intro hlength
    have honly := (Lines.length_textLines text).2.mp hlength
    refine ⟨?_, ?_⟩
    · intro i hi
      rw [hshown i hi, hlength, le_linesOrNone hi]
    · intro i line hi hline
      obtain ⟨line', hline', hupTo⟩ :=
        upToBoundary_get honly ((shown_iff h hsize hi line).mp hline)
      refine ⟨line', replaced_of_line h hi ?_, hupTo⟩
      have hne : text ≠ [] := by
        rintro rfl
        cases hline'
      rwa [Lines.linesOrNone, if_neg hne] at hline'

end

-- ================================================================ examples

/-- A disk with one file, `/ws/notes.txt`. -/
def notesDisk (text : List Char) : Disk :=
  let made := (mkdirs ["ws"] (.ofTree .empty)).2
  (writeBytes ["ws", "notes.txt"] (Utf8.encode text) made).2

theorem notesDisk_fileAt : FileAt (.walking 8) (Path.parse "/ws") "notes.txt"
    (notesDisk ['a', '\n', 'b', '\n']) ["ws", "notes.txt"]
    ['a', '\n', 'b', '\n'] where
  named := by decide
  sound := fun _ => rfl
  whole := fun _ => rfl
  resolves := by decide +kernel
  below := ⟨["ws"], by decide +kernel, by decide⟩
  content := by decide +kernel
  encodes := fun s => ⟨_, rfl⟩

/-- Notes whose lines end in newlines alone. -/
theorem lineNumbers_agree_notes :
    LineNumbersAgree (.walking 8) (Path.parse "/ws") "notes.txt"
        (notesDisk ['a', '\n', 'b', '\n']) ["ws", "notes.txt"]
        ['a', '\n', 'b', '\n']
      ↔ Lines.NewlinesOnly ['a', '\n', 'b', '\n'] :=
  lineNumbers_agree notesDisk_fileAt (by decide +kernel)

/-- A line separator gives `file_read` a second line that `file_edit` does
not know of. -/
theorem lineNumbers_differ_at_separator :
    ¬ LineNumbersAgree (.walking 8) (Path.parse "/ws") "notes.txt"
      (notesDisk ['a', '\u2028', 'b', '\n']) ["ws", "notes.txt"]
      ['a', '\u2028', 'b', '\n'] := by
  intro h
  have hshown : Shown (.walking 8) (Path.parse "/ws") "notes.txt"
      (notesDisk ['a', '\u2028', 'b', '\n']) 2 ['b'] :=
    ⟨"1: a\n2: b", by decide +kernel, by decide +kernel⟩
  have hle := ((h.1 2 (by decide)).mp ⟨_, hshown⟩).1
  exact absurd hle (by decide +kernel)

end AgentAnvil.Sdk
