/-
The workspace as the model sees it: texts under names.

A tree holds texts (`textsOf`), and what a file tool is asked and answers
tells which text was seen or put where (`Tells`). The disk explains all of
it: the tool calls of a run without `bash`, in order, are a history of a
`KeyedStore` that starts with the texts before the run and ends with the
texts after it (`run_replays`). The directories, the bytes, the links and
the ways to spell a path are below that.

So the model can rely on its own writes: what `file_read` shows of a file,
whatever path it is asked for, is the content of the last `file_write` to
it, if the trace reports no mutation of the file in between
(`run_reads_own_writes`). What is shown is said of the text (`Lists`), not
of how the tool puts it together; `format_lists` is the link.

Both need a disk where no write breaks off, since such a write changes a
text and reports nothing, and a disk that the trace is not written to.
-/
import AgentAnvil.Lib.KeyedStore
import AgentAnvil.Sdk.Proofs.RunEffects
import AgentAnvil.Sdk.Proofs.Splice
import AgentAnvil.Sdk.Proofs.Truncation

namespace AgentAnvil.Sdk

open Fs KeyedStore

-- ==================================================== statement vocabulary

/-- A text that was seen or put at a location. -/
abbrev TextAccess := Access Location (List Char)

/-- The texts in a tree: what is in its files, where that is UTF-8. -/
def textsOf (t : Tree) : Store Location (List Char) := fun q =>
  match t.node q with
  | some (.file bytes) => Utf8.decode bytes
  | _ => none

/-- The lines a read asks for, of so many: all, if it does not say; and a
number past either end of the text means that end. -/
structure LinesAsked (args : List (String × Json)) (count first : Nat)
    (last : Int) : Prop where
  first : (args.lookup "start_line" = none ∧ first = 1) ∨
    ∃ start, intArgument args "start_line" = some start ∧
      (first : Int) = max 1 start.value
  last : (args.lookup "end_line" = none ∧ last = count) ∨
    ∃ stop, intArgument args "end_line" = some stop ∧
      last = min stop.value count

/-- The lines of a text that a read asks for, one under the other, each
after its number: `i: ` and line `i` of the text. -/
def Lists (args : List (String × Json)) (text : List Char)
    (content : String) : Prop :=
  ∃ first last entries,
    LinesAsked args (Lines.textLines text).length first last ∧
    content.toList = ['\n'].intercalate entries ∧
    entries.length = (last + 1 - first).toNat ∧
    ∀ k entry, entries[k]? = some entry → ∃ line,
      (Lines.textLines text)[first + k - 1]? = some line ∧
        entry = (toString (first + k)).toList ++ ": ".toList ++ line

/-- A result shows a text: the whole of it if it fits, and otherwise the
longest front that does, marked as cut. -/
def ShowsText (content : String) (shown : ToolResult) : Prop :=
  ((Utf8.encode content.toList).length ≤ MAX_INLINE_RESULT_BYTES →
    shown.content = content ∧ shown.truncated = false) ∧
  (MAX_INLINE_RESULT_BYTES < (Utf8.encode content.toList).length →
    ∃ p, Utf8.LongestFitting MAX_INLINE_RESULT_BYTES content.toList p ∧
      shown.content = String.ofList (p ++ cutEnd MAX_INLINE_RESULT_BYTES p)
        ++ "\n[truncated]" ∧
      shown.truncated = true)

/-- What a call of a file tool and what it returned tell of the texts,
where paths lead as they do in a tree. -/
inductive Tells (p : Platform) (workspace : Path)
    (args : List (String × Json)) (t : Tree) :
    FileTool → Except Exc FileResult → List TextAccess → Prop where
  /-- an error result or an exception tells nothing -/
  | refused {tool r} (refused : Refused r) : Tells p workspace args t tool r []
  | read {q text content} (names : Names p workspace args t q)
      (lists : Lists args text content) :
      Tells p workspace args t .read (.ok (succeeded [] content))
        [.seen q text]
  | write {q content m answer} (names : Names p workspace args t q)
      (argument : stringArgument args "content" = some content)
      (reported : m.path = textFrom workspace q) :
      Tells p workspace args t .write (.ok (succeeded [m] answer))
        [.put q content.toList]
  | edit {q start stop newContent text newText m answer}
      (names : Names p workspace args t q)
      (startLine : intArgument args "start_line" = some start)
      (endLine : intArgument args "end_line" = some stop)
      (replacement : stringArgument args "new_content" = some newContent)
      (edited : FileEditTool.edited text start stop newContent.toList
        = .ok newText)
      (reported : m.path = textFrom workspace q) :
      Tells p workspace args t .edit (.ok (succeeded [m] answer))
        [.seen q text, .put q newText]

/-- What a tool call of a run tells of the texts. -/
inductive CallTells (p : Platform) (workspace : Path) (t : Tree) :
    ToolCall → List TextAccess → Prop where
  | unavailable {use} : CallTells p workspace t (.unavailable use) []
  | search {use result} (named : use.name = WebSearchTool.name) :
      CallTells p workspace t (.executed use [] result) []
  | file {use} {tool : FileTool} {r told} (named : use.name = tool.name)
      (tells : Tells p workspace use.input t tool r told) :
      CallTells p workspace t
        (.executed use (reported r) (answerOf use.name r)) told

/-- What the tool calls of a run tell, in order. -/
inductive CallsTell (p : Platform) (workspace : Path) (t : Tree) :
    List ToolCall → List TextAccess → Prop where
  | nil : CallsTell p workspace t [] []
  | cons {call calls told later} (first : CallTells p workspace t call told)
      (rest : CallsTell p workspace t calls later) :
      CallsTell p workspace t (call :: calls) (told ++ later)

-- ============================================================== the texts

section

variable {t t' : Tree} {q : Location}

/-- A file of UTF-8 is a text of the store. -/
theorem textsOf_file {text : List Char}
    (h : t.node q = some (.file (Utf8.encode text))) :
    textsOf t q = some text := by
  simp [textsOf, h, Utf8.decode_encode]

/-- A directory that was made holds no text. -/
theorem textsOf_grown (h : t'.node q = t.node q
      ∨ (t.node q = none ∧ t'.node q = some .directory)) :
    textsOf t' q = textsOf t q := by
  rcases h with hsame | ⟨hnone, hdir⟩
  · simp [textsOf, hsame]
  · simp [textsOf, hnone, hdir]

/-- Directories made above a file change no text. -/
theorem textsOf_kept {d d' : Disk} (hreached : Reached q d d')
    (hkept : d'.tree.node q = d.tree.node q) :
    textsOf d'.tree = textsOf d.tree := by
  funext o
  exact textsOf_grown (hreached.grown_or hkept)

/-- A text that was stored, and every other as it was. -/
theorem textsOf_stored {d d' : Disk} {text : List Char}
    (hreached : Reached q d d')
    (hstored : d'.tree.node q = some (.file (Utf8.encode text))) :
    textsOf d'.tree = Function.update (textsOf d.tree) q (some text) := by
  funext o
  by_cases ho : o = q
  · rw [ho, textsOf_file hstored, Function.update_self]
  · rw [Function.update_of_ne ho]
    refine textsOf_grown ((hreached.grown o ho).imp_right ?_)
    intro hmade
    exact ⟨hmade.1, hmade.2.1⟩

end

-- ========================================================= what is listed

/-- A numbered line is its number, a colon and the line. -/
theorem numbered_eq {lines : List (List Char)} {i : Nat} {line : List Char}
    (h : lines[i - 1]? = some line) :
    FileReadTool.numbered lines i
      = (toString i).toList ++ ": ".toList ++ line := by
  have hdigits : (toString i).toList = Nat.toDigits 10 i :=
    String.toList_ofList
  rw [FileReadTool.numbered, List.getD_eq_getElem?_getD, h, Option.getD_some,
    hdigits]
  simp

/-- A range of numbered lines, within the text, is made of these lines, each
after its number. -/
theorem numbered_range {lines : List (List Char)} {first count k : Nat}
    {entry : List Char} (hone : 1 ≤ first)
    (hwithin : ∀ i < count, first + i ≤ lines.length)
    (h : ((List.range' first count).map (FileReadTool.numbered lines))[k]?
      = some entry) :
    ∃ line, lines[first + k - 1]? = some line ∧
      entry = (toString (first + k)).toList ++ ": ".toList ++ line := by
  rw [List.getElem?_map, Option.map_eq_some_iff] at h
  obtain ⟨i, hi, rfl⟩ := h
  obtain ⟨hlt, hget⟩ := List.getElem?_eq_some_iff.mp hi
  rw [List.length_range'] at hlt
  rw [List.getElem_range', Nat.one_mul] at hget
  have hline := hwithin k hlt
  have hbound : first + k - 1 < lines.length := by
    omega
  rw [← hget]
  exact ⟨_, List.getElem?_eq_getElem hbound,
    numbered_eq (List.getElem?_eq_getElem hbound)⟩

/-- A number that was given, or the default. -/
theorem intArgument_or {args : List (String × Json)} {name : String}
    {default value : PyInt}
    (h : (args.lookup name).elim (some default) asInt = some value) :
    (args.lookup name = none ∧ value.value = default.value) ∨
      intArgument args name = some value := by
  unfold intArgument
  cases hlookup : args.lookup name with
  | none =>
      rw [hlookup] at h
      rw [← Option.some.inj h]
      exact Or.inl ⟨rfl, rfl⟩
  | some given =>
      rw [hlookup] at h
      exact Or.inr h

/-- What a read formats lists the lines that are asked for. -/
theorem formatRange_lists {args : List (String × Json)} {text : List Char}
    {start stop : PyInt}
    (hstart : (args.lookup "start_line" = none ∧ start.value = 1) ∨
      intArgument args "start_line" = some start)
    (hstop : (args.lookup "end_line" = none ∧
        stop.value = (Lines.textLines text).length) ∨
      intArgument args "end_line" = some stop) :
    Refused (.ok (FileReadTool.formatRange (Lines.textLines text) start
        stop)) ∨
      ∃ content, Lists args text content ∧
        FileReadTool.formatRange (Lines.textLines text) start stop
          = succeeded [] content := by
  generalize hlines : Lines.textLines text = lines at hstop ⊢
  simp only [FileReadTool.formatRange]
  generalize hfirst : (if 1 < start.value then start else .of 1) = first
  generalize hlast : (if stop.value < lines.length then stop
    else .of lines.length) = last
  have hone : first.value = max 1 start.value := by
    rw [← hfirst]
    split
    · omega
    · show (1 : Int) = _
      omega
  have hcount : last.value = min stop.value lines.length := by
    rw [← hlast]
    split
    · omega
    · show (lines.length : Int) = _
      omega
  have hnat : (first.value.toNat : Int) = first.value := by
    omega
  split
  · exact Or.inl (refused_refused _)
  · refine Or.inr ⟨_, ⟨first.value.toNat, last.value, _, ?_,
      String.toList_ofList, ?_, ?_⟩, rfl⟩
    · rw [hlines]
      constructor
      · rcases hstart with ⟨hnone, hval⟩ | hsome
        · refine Or.inl ⟨hnone, ?_⟩
          omega
        · refine Or.inr ⟨start, hsome, ?_⟩
          omega
      · rcases hstop with ⟨hnone, hval⟩ | hsome
        · refine Or.inl ⟨hnone, ?_⟩
          omega
        · exact Or.inr ⟨stop, hsome, hcount⟩
    · rw [List.length_map, List.length_range', hnat]
    · intro k entry hentry
      rw [hlines]
      refine numbered_range (by omega) ?_ hentry
      intro i hi
      omega

/-- What `file_read` shows lists the lines asked for, unless it refuses the
range. -/
theorem format_lists (args : List (String × Json)) (text : List Char) :
    Refused (.ok (FileReadTool.format args (Lines.textLines text))) ∨
      ∃ content, Lists args text content ∧
        FileReadTool.format args (Lines.textLines text)
          = succeeded [] content := by
  unfold FileReadTool.format
  cases hstart : (args.lookup "start_line").elim (some (.of 1)) asInt with
  | none => exact Or.inl (refused_refused _)
  | some start =>
      cases hstop : (args.lookup "end_line").elim
          (some (.of (Lines.textLines text).length)) asInt with
      | none => exact Or.inl (refused_refused _)
      | some stop =>
          exact formatRange_lists (intArgument_or hstart)
            (intArgument_or hstop)

/-- What the model is shown of what a tool answered. -/
theorem shows_succeeded (content : String) :
    ShowsText content (succeeded [] content).2.clamp := by
  obtain ⟨hfits, hcut⟩ := clamp_keeps_front content 0 false
  constructor
  · intro hsize
    rw [succeeded, hfits hsize]
    exact ⟨rfl, rfl⟩
  · intro hsize
    obtain ⟨p, hp, hshown⟩ := hcut hsize
    rw [succeeded, hshown]
    exact ⟨p, hp, rfl, rfl⟩

-- =============================================================== one call

section

variable {p : Platform} {workspace : Path} {args : List (String × Json)}
  {d d' : Disk} {q : Location} {r : Except Exc FileResult}

/-- Arguments name a file by the links alone. -/
theorem Names.congr {t t' : Tree} (h : Names p workspace args t q)
    (hlinks : Tree.SameLinks t t') : Names p workspace args t' q where
  canonical := by
    obtain ⟨path, hpath, hwalk⟩ := h.canonical
    exact ⟨path, hpath, Walk.congr hwalk hlinks⟩
  below := by
    obtain ⟨root, hwalk, hbelow⟩ := h.below
    exact ⟨root, Walk.congr hwalk hlinks, hbelow⟩

theorem Tells.congr {t t' : Tree} {tool : FileTool} {told : List TextAccess}
    (h : Tells p workspace args t tool r told)
    (hlinks : Tree.SameLinks t t') :
    Tells p workspace args t' tool r told := by
  cases h with
  | refused refused => exact .refused refused
  | read names lists => exact .read (names.congr hlinks) lists
  | write names argument reported =>
      exact .write (names.congr hlinks) argument reported
  | edit names startLine endLine replacement edited reported =>
      exact .edit (names.congr hlinks) startLine endLine replacement edited
        reported

theorem refused_of_pure {content : String}
    (h : (pure (refused content) : Py Disk FileResult) d = (r, d')) :
    Refused r := by
  injection h with hr hd
  rw [← hr]
  exact refused_refused content

/-- A read is refused, or shows the text that is there. -/
theorem readTarget_shows {path : String} {d₁ : Disk} (hquiet : d.Quiet d₁)
    (hnames : Names p workspace args d.tree q)
    (h : FileReadTool.readTarget p args path q d₁ = (r, d')) :
    Refused r ∨ ∃ text content, textsOf d.tree q = some text
      ∧ Lists args text content ∧ r = .ok (succeeded [] content) := by
  refine look_cases hnames hquiet (fun h => (pathExists_spec h).1) h
    (fun hd => Or.inl hd.refused) ?_
  intro there d₂ _ hquiet h
  cases there with
  | false => exact Or.inl (refused_of_pure h)
  | true =>
      refine look_cases hnames hquiet (fun h => (isFile_spec h).1) h
        (fun hd => Or.inl hd.refused) ?_
      intro regular d₃ _ hquiet h
      cases regular with
      | false => exact Or.inl (refused_of_pure h)
      | true =>
          refine look_cases hnames hquiet (fun h => (statSize_spec h).1) h
            (fun hd => Or.inl hd.refused) ?_
          intro size d₄ _ hquiet h
          split at h
          · exact Or.inl (refused_of_pure h)
          · rcases Py.bind_cases h with ⟨bytes, d₅, hread, h⟩ | ⟨exc, -, rfl⟩
            swap
            · exact Or.inl (refused_error exc)
            have hnode := (readBytes_spec hread).2.2 bytes rfl
            rw [hquiet.1] at hnode
            cases htext : Utf8.decode bytes with
            | none =>
                rw [htext] at h
                exact Or.inl (refused_of_pure h)
            | some text =>
                rw [htext] at h
                injection h with hr hd
                rw [← hr]
                refine (format_lists args text).imp_right ?_
                rintro ⟨content, hlists, hformat⟩
                refine ⟨text, content, ?_, hlists, by rw [hformat]⟩
                simp [textsOf, hnode, htext]

/-- A read that goes through shows a text that is in the store now. -/
theorem read_shows (h : FileReadTool._run p workspace args d = (r, d')) :
    Refused r ∨ ∃ q text content, Names p workspace args d.tree q
      ∧ textsOf d.tree q = some text ∧ Lists args text content
      ∧ r = .ok (succeeded [] content) := by
  rw [FileReadTool._run] at h
  cases hpath : pathArgument args with
  | none =>
      rw [hpath] at h
      exact Or.inl (refused_of_pure h)
  | some path =>
      rw [hpath] at h
      refine inWorkspace_cases hpath h (fun hd => Or.inl hd.refused) ?_
      intro q d₁ hquiet hnames hnext
      rcases readTarget_shows hquiet hnames hnext with hrefused
        | ⟨text, content, htext, hlists, hr⟩
      · exact Or.inl hrefused
      · exact Or.inr ⟨q, text, content, hnames, htext, hlists, hr⟩

/-- What a write that goes through leaves at its location. -/
theorem writeTarget_content {path content : String} {res : FileResult}
    (h : FileWriteTool.writeTarget p workspace path content q d
      = (.ok res, d')) :
    d'.tree.node q = some (.file (Utf8.encode content.toList)) := by
  rcases Py.bind_cases h with ⟨size, d₁, -, h⟩ | ⟨exc, -, hr⟩
  swap
  · cases hr
  rcases Py.bind_cases h with ⟨there, d₂, -, h⟩ | ⟨exc, -, hr⟩
  swap
  · cases hr
  rcases Py.bind_cases h with ⟨u, d₃, -, h⟩ | ⟨exc, -, hr⟩
  swap
  · cases hr
  rcases Py.bind_cases h with ⟨bytes, d₄, hencoded, h⟩ | ⟨exc, -, hr⟩
  swap
  · cases hr
  injection hencoded with hbytes hd
  have hutf8 := p.encode_utf8 _ _ hbytes
  rcases Py.bind_cases h with ⟨u', d₅, hwrite, h⟩ | ⟨exc, -, hr⟩
  swap
  · cases hr
  injection h with hr hd
  rw [← hd, ← hutf8]
  cases (writeBytes_spec hwrite).2 with
  | stored stored => exact stored.node_self

/-- A write is refused, or it was of its content. -/
theorem write_content {res : FileResult}
    (h : FileWriteTool._run p workspace args d = (.ok res, d')) :
    Refused (.ok res) ∨ ∃ q content, Names p workspace args d.tree q
      ∧ stringArgument args "content" = some content
      ∧ d'.tree.node q = some (.file (Utf8.encode content.toList)) := by
  rw [FileWriteTool._run] at h
  cases hpath : pathArgument args with
  | none =>
      rw [hpath] at h
      exact Or.inl (refused_of_pure h)
  | some path =>
      rw [hpath] at h
      cases hcontent : stringArgument args "content" with
      | none =>
          rw [hcontent] at h
          exact Or.inl (refused_of_pure h)
      | some content =>
          rw [hcontent] at h
          refine inWorkspace_cases hpath h (fun hd => Or.inl hd.refused) ?_
          intro q d₁ hquiet hnames hnext
          exact Or.inr ⟨q, content, hnames, rfl, writeTarget_content hnext⟩

/-- A result that is not an error did not come of a refusal. -/
theorem not_refused_succeeded {mutations : List FileMutation}
    {content : String} : ¬ Refused (.ok (succeeded mutations content)) := by
  intro h
  obtain ⟨text, htext⟩ := h _ rfl
  have herror : (succeeded mutations content).2.isError = true := by
    rw [htext]
    rfl
  cases herror

/-- The disk explains what a call tells, if its write did not break off. -/
theorem tells_of_run {tool : FileTool} (hwhole : d.Whole)
    (h : tool._run p workspace args d = (r, d')) :
    ∃ told, Tells p workspace args d.tree tool r told
      ∧ Replays (textsOf d.tree) told (textsOf d'.tree) := by
  cases tool with
  | read =>
      have hrun : FileReadTool._run p workspace args d = (r, d') := h
      rw [(read_untouched hrun).tree]
      rcases read_shows hrun with hrefused
        | ⟨q, text, content, hnames, htext, hlists, rfl⟩
      · exact ⟨[], .refused hrefused, rfl⟩
      · exact ⟨_, .read hnames hlists, htext, rfl⟩
  | write =>
      have hrun : FileWriteTool._run p workspace args d = (r, d') := h
      cases write_mutates hrun with
      | declined declined =>
          rw [declined.tree]
          exact ⟨[], .refused declined.refused, rfl⟩
      | failed names reached kept =>
          rw [textsOf_kept reached kept]
          exact ⟨[], .refused (refused_error _), rfl⟩
      | torn names reached torn => exact absurd hwhole torn.tears
      | stored names reached before after =>
          rcases write_content hrun with hrefused
            | ⟨q, content, hnames, hcontent, hnode⟩
          · exact absurd hrefused not_refused_succeeded
          · have hq := names.unique hnames
            subst hq
            rw [textsOf_stored reached hnode]
            exact ⟨_, .write names hcontent rfl, rfl⟩
  | edit =>
      have hrun : FileEditTool._run p workspace args d = (r, d') := h
      rcases edit_cases hrun with hdeclined | hedited
      · rw [hdeclined.tree]
        exact ⟨[], .refused hdeclined.refused, rfl⟩
      · cases hedited with
        | torn names reached torn => exact absurd hwhole torn.tears
        | stored names reached startLine endLine replacement range before
            edited after =>
            rw [textsOf_stored reached after]
            exact ⟨_, .edit names startLine endLine replacement edited rfl,
              textsOf_file before, rfl⟩

end

-- ================================================================ all calls

namespace CallsTell

variable {p : Platform} {workspace : Path} {t t' : Tree}
  {front later : List ToolCall} {told told' : List TextAccess}

theorem append (h : CallsTell p workspace t front told)
    (h' : CallsTell p workspace t later told') :
    CallsTell p workspace t (front ++ later) (told ++ told') := by
  induction h with
  | nil => exact h'
  | cons first rest ih =>
      rw [List.append_assoc]
      exact .cons first ih

/-- What calls tell can be split where the calls are. -/
theorem split (h : CallsTell p workspace t (front ++ later) told) :
    ∃ a b, told = a ++ b ∧ CallsTell p workspace t front a
      ∧ CallsTell p workspace t later b := by
  induction front generalizing told with
  | nil => exact ⟨[], told, rfl, .nil, h⟩
  | cons call front ih =>
      cases h with
      | cons first rest =>
          obtain ⟨a, b, rfl, hfront, hlater⟩ := ih rest
          exact ⟨_, b, (List.append_assoc _ _ _).symm, .cons first hfront,
            hlater⟩

theorem congr (h : CallsTell p workspace t front told)
    (hlinks : Tree.SameLinks t t') :
    CallsTell p workspace t' front told := by
  induction h with
  | nil => exact .nil
  | cons first rest ih =>
      refine .cons ?_ ih
      cases first with
      | unavailable => exact .unavailable
      | search named => exact .search named
      | file named tells => exact .file named (tells.congr hlinks)

/-- A text that was put is reported under the path of its location. -/
theorem put_reported (h : CallsTell p workspace t front told) {q : Location}
    {text : List Char} (hput : Access.put q text ∈ told) :
    ∃ call ∈ front, ∃ m ∈ call.mutations, m.path = textFrom workspace q := by
  induction h with
  | nil => cases hput
  | @cons call calls told later first rest ih =>
      rcases List.mem_append.mp hput with hhere | hlater
      · refine ⟨call, List.mem_cons_self, ?_⟩
        cases first with
        | unavailable => cases hhere
        | search named => cases hhere
        | file named tells =>
            cases tells with
            | refused refused => cases hhere
            | read names => simp at hhere
            | write names argument told =>
                simp only [List.mem_singleton, Access.put.injEq] at hhere
                rw [hhere.1]
                exact ⟨_, List.mem_singleton_self _, told⟩
            | edit names startLine endLine replacement edited told =>
                simp only [List.mem_cons, List.not_mem_nil, or_false,
                  reduceCtorEq, false_or, Access.put.injEq] at hhere
                rw [hhere.1]
                exact ⟨_, List.mem_singleton_self _, told⟩
      · obtain ⟨call', hcall', hm⟩ := ih hlater
        exact ⟨call', List.mem_cons_of_mem _ hcall', hm⟩

end CallsTell

section

variable {p : Platform} {workspace : Path} {t : Tree} {use : ToolUse}
  {mutations : List FileMutation} {result : ToolResult}
  {told : List TextAccess}

/-- An answer that is no error is what a tool returned. -/
theorem not_refused_answer {name : String} {r : Except Exc FileResult}
    (h : (answerOf name r).isError = false) : ¬ Refused r := by
  intro hrefused
  cases r with
  | error exc => cases h
  | ok res =>
      obtain ⟨content, rfl⟩ := hrefused res rfl
      simp [answerOf, refused] at h

/-- A write that went through put its content. -/
theorem write_tells
    (h : CallTells p workspace t (.executed use mutations result) told)
    (hname : use.name = FileWriteTool.name)
    (hresult : result.isError = false) :
    ∃ q content, Names p workspace use.input t q
      ∧ stringArgument use.input "content" = some content
      ∧ told = [.put q content.toList] := by
  cases h with
  | search named =>
      rw [hname] at named
      exact absurd named (by decide)
  | @file _ tool r _ named tells =>
      have htool : tool = .write := by
        rw [hname] at named
        cases tool with
        | write => rfl
        | read => exact absurd named (by decide)
        | edit => exact absurd named (by decide)
      subst htool
      cases tells with
      | refused refused => exact absurd refused (not_refused_answer hresult)
      | write names argument reported => exact ⟨_, _, names, argument, rfl⟩

/-- A read that went through shows the text it saw. -/
theorem read_tells
    (h : CallTells p workspace t (.executed use mutations result) told)
    (hname : use.name = FileReadTool.name)
    (hresult : result.isError = false) :
    ∃ q text content, Names p workspace use.input t q
      ∧ told = [.seen q text] ∧ Lists use.input text content
      ∧ ShowsText content result := by
  cases h with
  | search named =>
      rw [hname] at named
      exact absurd named (by decide)
  | @file _ tool r _ named tells =>
      have htool : tool = .read := by
        rw [hname] at named
        cases tool with
        | read => rfl
        | write => exact absurd named (by decide)
        | edit => exact absurd named (by decide)
      subst htool
      cases tells with
      | refused refused => exact absurd refused (not_refused_answer hresult)
      | read names lists =>
          exact ⟨_, _, _, names, rfl, lists, shows_succeeded _⟩

end

section

variable {κ : Type} {host : Host} {workspace : Path}
  {inv : Invocation (Disk × κ)}

/-- The exchange of a run: what its tool calls tell, the disk explains. -/
theorem OverBuiltins.tells (h : OverBuiltins host workspace inv)
    (hbash : ¬ Listed inv BashTool.name) {d : Disk} (hwhole : d.Whole)
    (own : κ) :
    ∃ told, CallsTell host.toPlatform workspace d.tree
        (transcriptOf inv (d, own)).toolCalls told
      ∧ Replays (textsOf d.tree) told
          (textsOf (transcriptOf inv (d, own)).world.1.tree) := by
  have hsustains : Sustains inv.tools inv.client fun w calls w' =>
      w.1.Whole → w'.1.Whole ∧ Tree.SameLinks w.1.tree w'.1.tree ∧ ∃ told,
        CallsTell host.toPlatform workspace w.1.tree calls told
          ∧ Replays (textsOf w.1.tree) told (textsOf w'.1.tree) := by
    refine ⟨fun w hwhole => ⟨hwhole, .refl _, [], .nil, rfl⟩, ?_, ?_, ?_⟩
    · intro a cs b cs' c hab hbc hwhole
      obtain ⟨hwhole', hlinks, told, htold, hreplays⟩ := hab hwhole
      obtain ⟨hwhole'', hlinks', told', htold', hreplays'⟩ := hbc hwhole'
      exact ⟨hwhole'', hlinks.trans hlinks', told ++ told',
        htold.append (htold'.congr hlinks.symm), hreplays.append hreplays'⟩
    · intro request w hwhole
      rw [h.client]
      exact ⟨hwhole, .refl _, [], .nil, rfl⟩
    · intro tu w hwhole
      have hcalled := h.called hbash tu w
      generalize toolCall inv.tools tu w = out at hcalled ⊢
      cases hcalled with
      | unavailable =>
          exact ⟨hwhole, .refl _, [], .cons .unavailable .nil, rfl⟩
      | search named =>
          exact ⟨hwhole, .refl _, [], .cons (.search named) .nil, rfl⟩
      | file listed named ran =>
          obtain ⟨told, htells, hreplays⟩ := tells_of_run hwhole ran
          have heffect := effect_of_run ran
          refine ⟨heffect.whole hwhole, heffect.sameLinks, told ++ [],
            .cons (.file named htells) .nil, ?_⟩
          rwa [List.append_nil]
  exact (hsustains.transcript inv.maxSteps.toNat _ (d, own) hwhole).2.2

/-- Without `bash`, and where no write breaks off, the tool calls of a run
are a history of a store of texts: its first state is the texts before the
run, its last the texts after it, and every text that an answer shows or an
edit starts from was in it at that moment. -/
theorem run_replays (h : OverBuiltins host workspace inv)
    (hbash : ¬ Listed inv BashTool.name) {d : Disk} (hwhole : d.Whole)
    (own : κ) {clock : Clock}
    (hlasts : clock.Lasts
      (lineCount ((transcriptOf inv (d, own)).script inv))) :
    ∃ told, CallsTell host.toPlatform workspace d.tree
        (transcriptOf inv (d, own)).toolCalls told
      ∧ Replays (textsOf d.tree) told
          (textsOf (execute inv (d, own) clock).2.runtime.world.1.tree) := by
  rw [execute_eq inv rfl hlasts]
  exact h.tells hbash hwhole own

/-- What the model reads is what it wrote: a `file_read` that goes through
shows the lines of the content an earlier `file_write` was given, whatever
paths the two were asked for, if they lead to one file, no tool call in
between reported a mutation of it, and no write breaks off. -/
theorem run_reads_own_writes (h : OverBuiltins host workspace inv)
    (hbash : ¬ Listed inv BashTool.name) {d : Disk} (hwhole : d.Whole)
    {own : κ}
    {before between after : List ToolCall} {writing reading : ToolUse}
    {mutations mutations' : List FileMutation} {wrote shown : ToolResult}
    (hcalls : (transcriptOf inv (d, own)).toolCalls
      = before ++ .executed writing mutations wrote
          :: (between ++ .executed reading mutations' shown :: after))
    (hwriting : writing.name = FileWriteTool.name)
    (hwrote : wrote.isError = false)
    (hreading : reading.name = FileReadTool.name)
    (hshown : shown.isError = false) {content : String}
    (hcontent : stringArgument writing.input "content" = some content)
    {q : Location}
    (hq : Names host.toPlatform workspace writing.input d.tree q)
    (hq' : Names host.toPlatform workspace reading.input d.tree q)
    (hbetween : ∀ call ∈ between, ∀ m ∈ call.mutations,
      m.path ≠ textFrom workspace q) :
    ∃ listing, Lists reading.input content.toList listing
      ∧ ShowsText listing shown := by
  obtain ⟨told, htold, hreplays⟩ := h.tells hbash hwhole own
  rw [hcalls] at htold
  obtain ⟨front, rest, rfl, -, hrest⟩ := htold.split
  cases hrest with
  | cons hwrite hrest =>
      obtain ⟨q₁, content', hq₁, hcontent', rfl⟩ :=
        write_tells hwrite hwriting hwrote
      obtain ⟨mid, rest', rfl, hmid, hrest'⟩ := hrest.split
      cases hrest' with
      | @cons _ _ _ rest' hread _ =>
          obtain ⟨q₂, text, listing, hq₂, rfl, hlists, hshows⟩ :=
            read_tells hread hreading hshown
          have hput : q₁ = q := hq₁.unique hq
          have hseen : q₂ = q := hq₂.unique hq'
          subst hput hseen
          rw [hcontent] at hcontent'
          cases hcontent'
          -- nothing was put there in between
          have hnone : lastPut q₂ mid = none := by
            apply lastPut_eq_none
            intro v hv
            obtain ⟨call, hcall, m, hm, hpath⟩ := hmid.put_reported hv
            exact hbetween call hcall m hm hpath
          have hhistory : Replays (textsOf d.tree)
              ((front ++ .put q₂ content.toList :: mid)
                ++ .seen q₂ text :: rest')
              (textsOf (transcriptOf inv (d, own)).world.1.tree) := by
            simpa using hreplays
          have htext := hhistory.seen
          simp only [lastPut_append, lastPut, hnone, Option.none_or, if_true,
            Option.some_or, Option.some_inj] at htext
          rw [htext]
          exact ⟨listing, hlists, hshows⟩

end

-- ================================================================== examples

namespace Sample

def writing : ToolUse where
  id := "tu-1"
  name := "file_write"
  input := [("path", .str "a.txt"), ("content", .str "one\ntwo\n")]

/-- Under another spelling of the path. -/
def reading : ToolUse where
  id := "tu-2"
  name := "file_read"
  input := [("path", .str "../ws/./a.txt")]

def askedFor (use : ToolUse) : LLMResponse where
  textBlocks := []
  toolUses := [use]
  stopReason := "tool_use"
  inputTokens := 3
  outputTokens := 1

/-- A run in `/ws` of a model that writes a file and reads it. -/
def writesAndReads : Invocation (Disk × Nat) where
  spec :=
    { (scriptedTask "echo" []).spec with
      tools := [⟨"file_write", none⟩, ⟨"file_read", none⟩] }
  taskId := "task-1"
  registry :=
    (builtins
      { toPlatform := .walking 8
        shell := fun _ _ _ d => (.timeoutExpired, d)
        repr := fun _ => "" } (Path.parse "/ws")).map (ToolClass.beside Nat)
  client :=
    { complete := fun request => Py.zoom Prod.snd
        (fun own world => (world.1, own))
        ((scriptedClient [askedFor writing, askedFor reading,
          saysDone]).complete request) }
  wallStart := 0
  wallEnd := 0

/-- The sample's run is over the built-in tools. -/
theorem writesAndReads_overBuiltins :
    OverBuiltins
      { toPlatform := .walking 8
        shell := fun _ _ _ d => (.timeoutExpired, d)
        repr := fun _ => "" } (Path.parse "/ws") writesAndReads :=
  ⟨rfl, fun _ _ => rfl⟩

theorem writesAndReads_listed : ¬ Listed writesAndReads BashTool.name := by
  intro h
  obtain ⟨spec, hspec, hname⟩ := h
  simp only [writesAndReads, List.mem_cons, List.not_mem_nil, or_false]
    at hspec
  rcases hspec with rfl | rfl
  · exact absurd hname (by decide)
  · exact absurd hname (by decide)

end Sample

open Sample in
/-- A run that writes a text and reads it. -/
theorem run_replays_demo : ∃ told,
    CallsTell (.walking 8) (Path.parse "/ws") workspaceDisk.tree
        (transcriptOf writesAndReads (workspaceDisk, 0)).toolCalls told
      ∧ Replays (textsOf workspaceDisk.tree) told
          (textsOf (execute writesAndReads (workspaceDisk, 0)
            everyMs).2.runtime.world.1.tree) :=
  run_replays writesAndReads_overBuiltins writesAndReads_listed
    (fun _ => rfl) 0 (Clock.lasts_system ..)

open Sample in
/-- What it reads is what it wrote. -/
theorem run_reads_own_writes_demo : ∃ wrote mutations shown,
    (transcriptOf writesAndReads (workspaceDisk, 0)).toolCalls
        = [.executed writing mutations wrote, .executed reading [] shown]
      ∧ ∃ listing, Lists reading.input "one\ntwo\n".toList listing
        ∧ ShowsText listing shown := by
  have hws : realpath workspaceDisk.tree 8 [] (Path.parse "/ws").parts
      = some ["ws"] := by
    decide +kernel
  have hwriting : realpath workspaceDisk.tree 8 []
      ((Path.parse "/ws").join (Path.parse "a.txt")).parts
        = some ["ws", "a.txt"] := by
    decide +kernel
  have hreading : realpath workspaceDisk.tree 8 []
      ((Path.parse "/ws").join (Path.parse "../ws/./a.txt")).parts
        = some ["ws", "a.txt"] := by
    decide +kernel
  have hbelow : ∃ root, Canonical workspaceDisk.tree [] (Path.parse "/ws") root
      ∧ root <+: ["ws", "a.txt"] :=
    ⟨["ws"], walk_of_realpath hws, by decide⟩
  refine ⟨_, _, _, rfl, ?_⟩
  exact @run_reads_own_writes _ _ _ _ writesAndReads_overBuiltins
    writesAndReads_listed workspaceDisk (fun _ => rfl) 0 [] [] [] writing
    reading _ [] _ _ rfl rfl rfl rfl rfl _ rfl ["ws", "a.txt"]
    ⟨⟨_, rfl, walk_of_realpath hwriting⟩, hbelow⟩
    ⟨⟨_, rfl, walk_of_realpath hreading⟩, hbelow⟩
    (fun call hcall => absurd hcall List.not_mem_nil)

end AgentAnvil.Sdk
