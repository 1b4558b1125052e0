/-
The `file_mutation` events of a path are a journal of the file.

The invariant (`Journal`) is about one location: what was there first, what
is there now, and the events in between. A call that stores the file adds
one event to the journal of its location and none to any other, whatever
way the paths are spelled, because two locations never have one text.

A tool stores before it emits, so the journal of a file is only as good as
the writer: an event that is refused is missing from it, and the file is
changed all the same (`file_mutations_journal_refused`). The journal of a
location is therefore claimed where none of its own events is refused; what
is refused of others does not matter to it.
-/
import AgentAnvil.Sdk.Builtins
import AgentAnvil.Sdk.Legs
import AgentAnvil.Sdk.Proofs.FileEffects

namespace AgentAnvil.Sdk

open Fs

-- ==================================================== statement vocabulary

/-- The mutation an event reports of the file of this text. -/
def EventData.mutationOf (text : String) : EventData → Option FileMutation
  | .fileMutation path operation sizeBefore sizeAfter hashAfter =>
      if path = text then
        some { path, operation, sizeBefore, sizeAfter, hashAfter }
      else none
  | _ => none

/-- The mutations of a file, in order. -/
def mutationsOf (text : String) (events : List Event) : List FileMutation :=
  events.filterMap fun e => e.data.mutationOf text

/-- An edit that starts from what the mutation before it left. -/
def Continues (before after : FileMutation) : Prop :=
  after.operation = "edit" ∧ after.sizeBefore = before.sizeAfter

/-- The last mutation says what is in the file. -/
def Describes (m : FileMutation) (node : Option Node) : Prop :=
  ∃ content, node = some (.file content) ∧ m.sizeAfter = content.length ∧
    m.hashAfter = sha256Bytes content

/-- The mutations of a location, from what was there first to what is there
now: without one nothing happened to it, unless a directory was made. -/
def Journal (first now : Option Node) (mutations : List FileMutation) :
    Prop :=
  (mutations = [] ∧
      (now = first ∨ (first = none ∧ now = some .directory))) ∨
    ∃ opening last, mutations.head? = some opening ∧
      mutations.getLast? = some last ∧
      FoundBefore first opening.operation opening.sizeBefore ∧
      mutations.IsChain Continues ∧ Describes last now

/-- A call of a file tool, as the loop makes it. -/
def callFileTool (p : Platform) (workspace : Path) (timeoutSeconds : Int)
    (tool : FileTool) (args : List (String × Json)) :
    Py (Runtime Disk) ToolResult :=
  Tool.run { cls := tool.cls p workspace, timeoutSeconds } args

/-- Calls of the file tools one after another, whatever they come to. -/
def fileCalls (p : Platform) (workspace : Path) (timeoutSeconds : Int) :
    List (FileTool × List (String × Json)) → Py (Runtime Disk) Unit
  | [] => return ()
  | (tool, args) :: rest => do
      let _ ← Py.attempt (callFileTool p workspace timeoutSeconds tool args)
      fileCalls p workspace timeoutSeconds rest

/-- The events of a file of this text that were refused. -/
def refusedOf (text : String) (w : Writer) : List FileMutation :=
  mutationsOf text w.refused

-- ============================================================= the journal

namespace Journal

variable {first now now' : Option Node} {mutations : List FileMutation}

/-- What does not touch a file leaves its journal. -/
theorem grown (h : Journal first now mutations)
    (hnow : now' = now ∨ (now = none ∧ now' = some .directory)) :
    Journal first now' mutations := by
  rcases hnow with rfl | ⟨hnone, hdir⟩
  · exact h
  · rcases h with ⟨hnil, hsame | ⟨-, hmade⟩⟩
      | ⟨opening, last, -, -, -, -, hlast⟩
    · exact Or.inl ⟨hnil, Or.inr ⟨by rw [← hsame, hnone], hdir⟩⟩
    · rw [hnone] at hmade
      cases hmade
    · obtain ⟨content, hcontent, -⟩ := hlast
      rw [hnone] at hcontent
      cases hcontent

/-- A store adds its mutation to the journal. -/
theorem stored (h : Journal first now mutations) {m : FileMutation}
    (hbefore : FoundBefore now m.operation m.sizeBefore)
    (hafter : Describes m now') : Journal first now' (mutations ++ [m]) := by
  refine Or.inr ?_
  rcases h with ⟨rfl, hnow⟩
    | ⟨opening, last, hhead, hlast, hfirst, hchain, hdescribes⟩
  · refine ⟨m, m, rfl, rfl, ?_, List.isChain_singleton m, hafter⟩
    rcases hnow with rfl | ⟨-, hdir⟩
    · exact hbefore
    · rcases hbefore with ⟨hnone, -⟩ | ⟨old, hold, -⟩
      · rw [hdir] at hnone
        cases hnone
      · rw [hdir] at hold
        cases hold
  · refine ⟨opening, m, ?_, List.getLast?_concat, hfirst, ?_, hafter⟩
    · rw [List.head?_append, hhead]
      rfl
    · obtain ⟨content, hcontent, hsize, -⟩ := hdescribes
      have hcontinues : Continues last m := by
        rcases hbefore with ⟨hnone, -⟩ | ⟨old, hold, hoperation, hsize'⟩
        · rw [hcontent] at hnone
          cases hnone
        · rw [hcontent] at hold
          injection hold with hold
          injection hold with hold
          exact ⟨hoperation, by rw [hsize', hsize, hold]⟩
      refine List.isChain_append.mpr ⟨hchain, List.isChain_singleton m, ?_⟩
      intro x hx y hy
      rw [hlast] at hx
      cases hx
      cases hy
      exact hcontinues

end Journal

-- ================================================================ one call

section

variable {p : Platform} {workspace : Path} {args : List (String × Json)}
  {d d' : Disk} {q : Location}

/-- The location a call is about has the names of nodes. -/
theorem Names.entries (h : Names p workspace args d.tree q) :
    ∀ name ∈ q, isEntry name = true := by
  obtain ⟨path, -, hwalk⟩ := h.canonical
  refine Walk.entries hwalk ?_ ((workspace.join (Path.parse path)).parted)
  intro name hname
  unfold Path.start at hname
  split at hname
  · exact p.cwd_entries name hname
  · cases hname

/-- Every location is left as it was, but for directories made, unless the
file there was stored. -/
theorem Reached.grown_or {o : Location} (h : Reached q d d')
    (hkept : d'.tree.node q = d.tree.node q) :
    d'.tree.node o = d.tree.node o ∨
      (d.tree.node o = none ∧ d'.tree.node o = some .directory) := by
  by_cases ho : o = q
  · rw [ho]
    exact Or.inl hkept
  · exact (h.grown o ho).imp_right fun ⟨hnone, hdir, _⟩ => ⟨hnone, hdir⟩

/-- The mutations a result comes with. -/
def reported : Except Exc FileResult → List FileMutation
  | .ok res => res.1
  | .error _ => []

/-- A call reports a mutation if it stored a file, and none otherwise. -/
theorem Effect.reports {r : Except Exc FileResult}
    (h : Effect p workspace args d r d') :
    reported r = [] ∨ ∃ m res, r = .ok res ∧ res.1 = [m] := by
  cases h with
  | raised quiet => exact Or.inl rfl
  | rejected quiet => exact Or.inl rfl
  | @looked q r d' names reached tree silent =>
      cases r with
      | error exc => exact Or.inl rfl
      | ok res =>
          rcases silent res rfl with ⟨content, rfl⟩ | ⟨content, rfl⟩
          · exact Or.inl rfl
          · exact Or.inl rfl
  | failed names reached kept => exact Or.inl rfl
  | torn names reached torn => exact Or.inl rfl
  | stored names reached before after => exact Or.inr ⟨_, _, rfl, rfl⟩

/-- A call that breaks no write off keeps every journal, with the mutations
it reports of the location added. -/
theorem Effect.journal {r : Except Exc FileResult}
    (h : Effect p workspace args d r d') (hwhole : d.Whole) {o : Location}
    (ho : ∀ name ∈ o, isEntry name = true) {first : Option Node}
    {mutations : List FileMutation}
    (hjournal : Journal first (d.tree.node o) mutations) :
    Journal first (d'.tree.node o) (mutations ++ (reported r).filter
      fun m => m.path = textFrom workspace o) := by
  cases h with
  | raised quiet =>
      rw [quiet.1, reported, List.filter_nil, List.append_nil]
      exact hjournal
  | rejected quiet =>
      rw [quiet.1, reported, refused, List.filter_nil, List.append_nil]
      exact hjournal
  | looked names reached tree silent =>
      have hnone : reported r = [] := by
        cases r with
        | error exc => rfl
        | ok res =>
            rcases silent res rfl with ⟨content, rfl⟩ | ⟨content, rfl⟩ <;> rfl
      rw [tree, hnone, List.filter_nil, List.append_nil]
      exact hjournal
  | failed names reached kept =>
      rw [reported, List.filter_nil, List.append_nil]
      exact hjournal.grown (reached.grown_or kept)
  | torn names reached torn => exact absurd hwhole torn.tears
  | @stored q operation sizeBefore bytes content d' names reached before
      after =>
      by_cases hoq : o = q
      · subst hoq
        have hown : ((reported (.ok (succeeded [fileMutation o workspace
            operation sizeBefore bytes.length bytes] content))).filter
            fun m => m.path = textFrom workspace o)
            = [fileMutation o workspace operation sizeBefore bytes.length
                bytes] := by
          rw [reported, succeeded, List.filter_cons_of_pos, List.filter_nil]
          exact decide_eq_true rfl
        rw [hown]
        refine hjournal.stored before ⟨bytes, after, rfl, ?_⟩
        have hoperation : operation ≠ "delete" := by
          rcases before with ⟨-, rfl, -⟩ | ⟨old, -, rfl, -⟩ <;> decide
        exact if_pos hoperation
      · have hother : ((reported (.ok (succeeded [fileMutation q workspace
            operation sizeBefore bytes.length bytes] content))).filter
            fun m => m.path = textFrom workspace o) = [] := by
          rw [reported, succeeded, List.filter_cons_of_neg, List.filter_nil]
          rw [decide_eq_true_iff]
          intro htext
          exact hoq (textFrom_injective ho names.entries htext.symm)
        rw [hother, List.append_nil]
        exact hjournal.grown ((reached.grown o hoq).imp_right
          fun ⟨hnone, hdir, _⟩ => ⟨hnone, hdir⟩)

end

-- =============================================================== all calls

/-- The mutations of one file, in a trace of two parts. -/
theorem mutationsOf_append (text : String) (events later : List Event) :
    mutationsOf text (events ++ later)
      = mutationsOf text events ++ mutationsOf text later :=
  List.filterMap_append

/-- The events of some mutations, and those of them of one file. -/
theorem mutationsOf_nextAll (text : String) (w : Writer)
    (mutations : List FileMutation) :
    mutationsOf text (w.nextAll (mutations.map FileMutation.data))
      = mutations.filter fun m => m.path = text := by
  induction mutations generalizing w with
  | nil => rfl
  | cons m mutations ih =>
      have hm : (w.next m.data).data.mutationOf text
          = if m.path = text then some m else none := rfl
      rw [List.map_cons, EventWriter.nextAll, mutationsOf,
        List.filterMap_cons, hm, List.filter_cons]
      by_cases hpath : m.path = text
      · simp only [hpath, if_true, decide_true]
        exact congrArg (m :: ·) (ih _)
      · simp only [hpath, if_false, decide_false]
        exact ih _

section

variable {p : Platform} {workspace : Path} {timeoutSeconds : Int}
  {tool : FileTool} {args : List (String × Json)} {rt rt' : Runtime Disk}
  {outcome : Except Exc ToolResult}

/-- What a call does to the runtime: its body is done with the disk before
the writer is asked to take its event, if it has one. -/
theorem fileCall_cases {r : Except Exc FileResult} {d' : Disk}
    (hrun : tool._run p workspace args rt.world = (r, d'))
    (h : callFileTool p workspace timeoutSeconds tool args rt
      = (outcome, rt')) :
    rt'.world = d' ∧
      ((reported r = [] ∧ rt'.events = rt.events ∧
          outcome = r.map fun res => res.2.clamp) ∨
        ∃ m res e, r = .ok res ∧ res.1 = [m] ∧
          rt.events.Emitted .fileMutation m.data e rt'.events ∧
          outcome = e.map fun _ => res.2.clamp) := by
  have hran : asToolRun (tool._run p workspace args) rt.world
      = ⟨reported r, r.map Prod.snd, d'⟩ := by
    rw [asToolRun, hrun]
    cases r with
    | error exc => rfl
    | ok res => rfl
  have hcall := Tool.run_apply
    { cls := tool.cls p workspace, timeoutSeconds } args hran
  unfold callFileTool at h
  rw [hcall] at h
  rcases (effect_of_run hrun).reports with hnone | ⟨m, res, rfl, hone⟩
  · simp only [hnone] at h
    injection h with hr hrt
    rw [← hr, ← hrt]
    refine ⟨rfl, Or.inl ⟨hnone, rfl, ?_⟩⟩
    cases r with
    | error exc => rfl
    | ok res => rfl
  · have hreported : reported (.ok res) = [m] := hone
    simp only [hreported] at h
    rcases Py.bind_cases h with ⟨u, rt₁, hemit, h⟩ | ⟨exc, hemit, rfl⟩
    · rcases Py.bind_cases hemit with ⟨u, rt₂, hemit, hnil⟩ | ⟨_, _, hr⟩
      · obtain ⟨e, w', hemitted, rfl, hok⟩ := Runtime.emit_cases hemit
        injection hnil with hu hrt
        injection h with hr hrt'
        rw [← hr, ← hrt', ← hrt]
        refine ⟨rfl, Or.inr ⟨m, res, e, rfl, hone, hemitted, ?_⟩⟩
        cases e with
        | error exc => cases hok
        | ok event => rfl
      · cases hr
    · rcases Py.bind_cases hemit with ⟨u, rt₂, hemit, hnil⟩ | ⟨_, hemit, hr⟩
      · cases hnil
      · obtain ⟨e, w', hemitted, rfl, hraised⟩ := Runtime.emit_cases hemit
        refine ⟨rfl, Or.inr ⟨m, res, e, rfl, hone, hemitted, ?_⟩⟩
        cases e with
        | error exc =>
            rw [hraised] at hr
            cases hr
            rfl
        | ok event => cases hraised

variable {text : String}

/-- A mutation's own event, among those of a file. -/
theorem mutationsOf_next (w : Writer) (m : FileMutation) :
    mutationsOf text [w.next m.data]
      = [m].filter fun m => m.path = text :=
  mutationsOf_nextAll text w [m]

/-- Emitting a mutation adds it to those of its file, unless the writer
refuses it or has no timestamp for it. -/
theorem mutationsOf_emitted {w w' : Writer} {m : FileMutation}
    {e : Except Exc Event}
    (h : w.Emitted .fileMutation m.data e w') (hlasts : w.clock.Lasts 1)
    (hkept : refusedOf text w' = []) :
    mutationsOf text w'.lines
      = mutationsOf text w.lines ++ [m].filter fun m => m.path = text := by
  cases h with
  | written lasts =>
      show mutationsOf text (w.lines ++ [w.next m.data]) = _
      rw [mutationsOf_append, mutationsOf_next]
  | spent spent => exact absurd hlasts spent
  | refused lasts =>
      have hnone : mutationsOf text (w.refused ++ [w.next m.data]) = [] :=
        hkept
      rw [mutationsOf_append, mutationsOf_next] at hnone
      rw [(List.append_eq_nil_iff.mp hnone).2, List.append_nil]
      rfl
  | interrupted lasts =>
      show mutationsOf text (w.lines ++ [w.next m.data]) = _
      rw [mutationsOf_append, mutationsOf_next]

/-- A call keeps the journal of every location none of whose events it has
refused. -/
theorem fileCall_journal
    (h : callFileTool p workspace timeoutSeconds tool args rt
      = (outcome, rt'))
    (hwhole : rt.world.Whole) (hlasts : rt.events.clock.Lasts 1)
    {q : Location} (hq : ∀ name ∈ q, isEntry name = true)
    (hkept : refusedOf (textFrom workspace q) rt'.events = [])
    {first : Option Node}
    (hjournal : Journal first (rt.world.tree.node q)
      (mutationsOf (textFrom workspace q) rt.events.lines)) :
    Journal first (rt'.world.tree.node q)
      (mutationsOf (textFrom workspace q) rt'.events.lines) := by
  rcases hrun : tool._run p workspace args rt.world with ⟨r, d'⟩
  have hnext := (effect_of_run hrun).journal hwhole hq hjournal
  obtain ⟨rfl, ⟨hnone, hevents, -⟩ | ⟨m, res, e, rfl, hone, hemitted, -⟩⟩ :=
    fileCall_cases hrun h
  · rw [hnone, List.filter_nil, List.append_nil] at hnext
    rwa [hevents]
  · have hreported : reported (.ok res) = [m] := hone
    rw [hreported] at hnext
    rwa [mutationsOf_emitted hemitted hlasts hkept]

/-- A call keeps what was refused, and takes one timestamp at most. -/
theorem fileCall_writer
    (h : callFileTool p workspace timeoutSeconds tool args rt
      = (outcome, rt')) :
    (∀ e ∈ rt.events.refused, e ∈ rt'.events.refused) ∧
      ∀ n, rt.events.clock.Lasts (n + 1) → rt'.events.clock.Lasts n := by
  rcases hrun : tool._run p workspace args rt.world with ⟨r, d'⟩
  obtain ⟨-, ⟨-, hevents, -⟩ | ⟨m, res, e, -, -, hemitted, -⟩⟩ :=
    fileCall_cases hrun h
  · rw [hevents]
    exact ⟨fun e he => he, fun n hn => hn.mono (Nat.le_succ n)⟩
  · exact ⟨hemitted.refused_mem, fun n hn => hemitted.lasts hn⟩

end

/-- What was refused stays refused. -/
theorem fileCalls_refused (p : Platform) (workspace : Path)
    (timeoutSeconds : Int) (calls : List (FileTool × List (String × Json)))
    (rt : Runtime Disk) :
    ∀ e ∈ rt.events.refused,
      e ∈ (fileCalls p workspace timeoutSeconds calls rt).2.events.refused := by
  induction calls generalizing rt with
  | nil => exact fun e he => he
  | cons call rest ih =>
      obtain ⟨tool, args⟩ := call
      rcases hcall : callFileTool p workspace timeoutSeconds tool args rt
        with ⟨outcome, rt'⟩
      rw [fileCalls, Py.bind_ok (Py.attempt_eq hcall)]
      exact fun e he => ih rt' e ((fileCall_writer hcall).1 e he)

/-- Calls keep the journal of every location none of whose events they have
refused. The induction is on the calls; what is refused at the end was not
there before. -/
theorem fileCalls_journal (p : Platform) (workspace : Path)
    (timeoutSeconds : Int)
    (calls : List (FileTool × List (String × Json))) {rt : Runtime Disk}
    (hwhole : rt.world.Whole) (hlasts : rt.events.clock.Lasts calls.length)
    {q : Location} (hq : ∀ name ∈ q, isEntry name = true)
    (hkept : refusedOf (textFrom workspace q)
      (fileCalls p workspace timeoutSeconds calls rt).2.events = [])
    {first : Option Node}
    (hjournal : Journal first (rt.world.tree.node q)
      (mutationsOf (textFrom workspace q) rt.events.lines)) :
    Journal first
      ((fileCalls p workspace timeoutSeconds calls rt).2.world.tree.node q)
      (mutationsOf (textFrom workspace q)
        (fileCalls p workspace timeoutSeconds calls rt).2.events.lines) := by
  induction calls generalizing rt with
  | nil => exact hjournal
  | cons call rest ih =>
      obtain ⟨tool, args⟩ := call
      rcases hcall : callFileTool p workspace timeoutSeconds tool args rt
        with ⟨outcome, rt'⟩
      rw [fileCalls, Py.bind_ok (Py.attempt_eq hcall)] at hkept ⊢
      have hkept' : refusedOf (textFrom workspace q) rt'.events = [] := by
        unfold refusedOf mutationsOf at hkept ⊢
        rw [List.filterMap_eq_nil_iff] at hkept ⊢
        exact fun e he => hkept e
          (fileCalls_refused p workspace timeoutSeconds rest rt' e he)
      rcases hrun : tool._run p workspace args rt.world with ⟨r, d'⟩
      have hwhole' : rt'.world.Whole := by
        rw [(fileCall_cases hrun hcall).1]
        exact (effect_of_run hrun).whole hwhole
      refine ih hwhole' ((fileCall_writer hcall).2 _ hlasts) hkept ?_
      exact fileCall_journal hcall hwhole
        (hlasts.mono (by rw [List.length_cons]; omega)) hq hkept' hjournal

/-- The `file_mutation` events of every location, over any sequence of
calls of the file tools from any tree, into any file that refuses none of
them. -/
theorem file_mutations_journal (p : Platform) (workspace : Path)
    (timeoutSeconds : Int) (taskId : String) (clock : Clock)
    (sink : List Event → Event → Receipt) (d : Disk) (hwhole : d.Whole)
    (calls : List (FileTool × List (String × Json)))
    (hlasts : clock.Lasts calls.length) (q : Location)
    (hq : ∀ name ∈ q, isEntry name = true) :
    let ran := (fileCalls p workspace timeoutSeconds calls
      { events := .into taskId clock sink, world := d }).2
    refusedOf (textFrom workspace q) ran.events = [] →
      Journal (d.tree.node q) (ran.world.tree.node q)
        (mutationsOf (textFrom workspace q) ran.events.lines) := by
  intro ran hkept
  exact fileCalls_journal p workspace timeoutSeconds calls hwhole hlasts hq
    hkept (Or.inl ⟨rfl, Or.inl rfl⟩)

/-- A disk with the directory `/ws`. -/
def workspaceDisk : Disk :=
  .ofTree (Tree.empty.put ["ws"] .directory rfl (by decide))

/-- A write and an edit of a new file, under two spellings of its path. -/
theorem file_mutations_journal_demo :
    let ran := (fileCalls (.walking 8) (Path.parse "/ws") 60
      [(.write, [("path", .str "a.txt"), ("content", .str "one\n")]),
        (.edit, [("path", .str "../ws/./a.txt"), ("start_line", .int 1),
          ("end_line", .int 1), ("new_content", .str "two")])]
      { events := .into "task-1" everyMs fun _ _ => .written
        world := .ofTree (Tree.empty.put ["ws"] .directory rfl (by decide)) }).2
    Journal none (ran.world.tree.node ["ws", "a.txt"])
      (mutationsOf (textFrom (Path.parse "/ws") ["ws", "a.txt"])
        ran.events.lines) :=
  file_mutations_journal (.walking 8) (Path.parse "/ws") 60 "task-1" everyMs
    (fun _ _ => .written)
    (.ofTree (Tree.empty.put ["ws"] .directory rfl (by decide)))
    (fun _ => rfl) _ trivial ["ws", "a.txt"] (by decide) (by decide +kernel)

/-- A write of the new file `/ws/a.txt`, whose event the file of events
refuses or the clock has no timestamp for. -/
def writesUnreported (clock : Clock)
    (sink : List Event → Event → Receipt) : Runtime Disk :=
  (fileCalls (.walking 8) (Path.parse "/ws") 60
    [(.write, [("path", .str "a.txt"), ("content", .str "one\n")])]
    { events := .into "task-1" clock sink, world := workspaceDisk }).2

/-- The file is there, and no event says so: a journal of nothing is none
of it. -/
theorem file_mutations_journal_refused :
    (¬ Journal none
      ((writesUnreported everyMs fun _ _ => .refused
        ⟨"UnicodeEncodeError", "surrogates not allowed"⟩).world.tree.node
          ["ws", "a.txt"])
      (mutationsOf "a.txt" (writesUnreported everyMs fun _ _ => .refused
        ⟨"UnicodeEncodeError", "surrogates not allowed"⟩).events.lines)) ∧
      ¬ Journal none
        ((writesUnreported (.replay [] 0) fun _ _ => .written).world.tree.node
          ["ws", "a.txt"])
        (mutationsOf "a.txt"
          (writesUnreported (.replay [] 0) fun _ _ => .written).events.lines)
    := by
  have hno : ∀ now mutations, mutations = [] →
      now = some (.file (Utf8.encode ['o', 'n', 'e', '\n'])) →
      ¬ Journal none now mutations := by
    rintro now mutations rfl rfl (⟨-, hnone | ⟨-, hdir⟩⟩ | ⟨_, _, hhead, -⟩)
    · cases hnone
    · cases hdir
    · cases hhead
  exact ⟨hno _ _ (by decide +kernel) (by decide +kernel),
    hno _ _ (by decide +kernel) (by decide +kernel)⟩

end AgentAnvil.Sdk
