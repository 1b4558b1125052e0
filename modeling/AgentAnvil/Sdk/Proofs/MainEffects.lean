/-
What the process does to the disk, from the start of `main` to its exit.

`main_outcomes` says what is done before the run, and the rules of
`RunEffects` what a run does; here they are put together, for a provider
without access to the disk and a task without `bash`. Whatever `main` comes
to, only the events file and what is in the workspace is written
(`main_confined`), the trace is a journal of every other file from before
the process was started (`main_journal`), and a task that lists no tool
that writes leaves the workspace as it was (`main_looks`).

The workspace is where its path leads before anything is done. A link in
the place of the events file is excluded throughout: what is done there
depends on where it leads, and the path of the workspace might lead through
it. The journal needs more, for its lines are kept off the disk: that no
tool can reach the events file, and that a file is either stored as
reported or not at all.
-/
import AgentAnvil.Sdk.Proofs.EntryPoint
import AgentAnvil.Sdk.Proofs.Journal
import AgentAnvil.Sdk.Proofs.RunEffects

namespace AgentAnvil.Sdk

open Fs

-- ==================================================== statement vocabulary

section

variable {κ φ : Type}

/-- The provider's SDK leaves the disk alone. -/
def Remote (inst : Installation κ φ) : Prop :=
  ∀ key api, inst.anthropic key = .ok api → ∀ args w,
    (api.create args w).2.1 = w.1

/-- The task `main` finds lists a tool of this name, if it loads. -/
def TaskLists (inst : Installation κ φ) (args : Args) (d : Disk)
    (name : String) : Prop :=
  ∃ q bytes spec, Canonical d.tree inst.host.cwd (Path.parse args.task) q
    ∧ d.tree.node q = some (.file bytes)
    ∧ parseTask inst.yaml bytes = .ok spec
    ∧ ∃ tool ∈ spec.tools, tool.name = name

/-- At or below the workspace. -/
def InWorkspace (p : Platform) (d : Disk) (args : Args) (q : Location) :
    Prop :=
  ∃ root, Canonical d.tree p.cwd (Path.parse args.workspace) root
    ∧ root <+: q

/-- The events of the trace, if one was opened. -/
def Process.events (p : Process κ) : List Event :=
  (p.trace.map TraceFile.lines).getD []

end

-- ============================================================ the client

/-- A call of the client does to the world what the call of the provider
does, if it comes to that. -/
theorem AnthropicClient.complete_cases {ω φ : Type} {api : AnthropicApi ω φ}
    {model : String} {request : Request} {w w' : ω}
    {r : Except Exc LLMResponse}
    (h : (client api model).complete request w = (r, w')) :
    w' = w ∨ ∃ args, w' = (api.create args w).2 := by
  rcases Py.bind_cases h with ⟨args, w₁, hargs, h⟩ | ⟨exc, hargs, rfl⟩
  · injection hargs with _ hw
    subst hw
    refine Or.inr ⟨args, ?_⟩
    rcases Py.bind_cases h with ⟨msg, w₂, hcreate, h⟩ | ⟨exc, hcreate, rfl⟩
    · injection h with _ hw
      rw [hcreate, hw]
    · rw [hcreate]
  · injection hargs with _ hw
    exact Or.inl hw.symm

section

variable {κ φ : Type} {inst : Installation κ φ} {environ : Environ}

/-- Whichever client is made, its calls leave the disk alone. -/
theorem makeClient_remote (hremote : Remote inst) {provider model : String}
    {apiKey : Option String} {client : LLMClient (Disk × κ)}
    (h : makeClient inst environ provider model apiKey = .ok client)
    (request : Request) (w : Disk × κ) :
    (client.complete request w).2.1 = w.1 := by
  unfold makeClient at h
  by_cases hmock : provider = "mock"
  · rw [if_pos hmock] at h
    rw [← Except.ok.inj h]
    rfl
  · rw [if_neg hmock] at h
    by_cases hanthropic : provider = "anthropic"
    · rw [if_pos hanthropic] at h
      unfold AnthropicClient.new at h
      split at h
      next key hkey =>
        cases hconnect : inst.anthropic key with
        | error exc =>
            rw [hconnect] at h
            cases h
        | ok api =>
            rw [hconnect] at h
            rw [← Except.ok.inj h]
            rcases hcall : (AnthropicClient.client api model).complete
              request w with ⟨r, w'⟩
            rcases AnthropicClient.complete_cases hcall with rfl | ⟨args, rfl⟩
            · rfl
            · exact hremote key api hconnect args w
      next => cases h
    · rw [if_neg hanthropic] at h
      cases h

end

-- ======================================================== up to the run

section

variable {κ φ : Type} {inst : Installation κ φ} {environ : Environ}
  {options : Options} {taskPath : Location} {p p' : Process κ}
  {inv : Invocation (Disk × κ)} {d : Disk} {path : Location}

namespace Ran

/-- What is run has the built-in tools, whatever the task is. -/
theorem overBuiltins
    (h : Ran inst environ options taskPath p p' inv d path)
    (hremote : Remote inst) :
    OverBuiltins inst.host
      (Path.parse (parseArgs environ options).workspace) inv := by
  obtain ⟨bytes, spec, apiKey, client, -, -, hclient, rfl⟩ :=
    h.prepared.task
  exact ⟨rfl, fun request w => makeClient_remote hremote hclient request w⟩

/-- The tools a run has are those its task lists. -/
theorem listed (h : Ran inst environ options taskPath p p' inv d path)
    {name : String} (hlisted : Listed inv name) :
    TaskLists inst (parseArgs environ options) p.disk name := by
  obtain ⟨bytes, spec, apiKey, client, hfile, hparse, -, rfl⟩ :=
    h.prepared.task
  exact ⟨taskPath, bytes, spec, h.named, hfile, hparse, hlisted⟩

/-- Before the run no link is made, and none taken away. -/
theorem sameLinks (h : Ran inst environ options taskPath p p' inv d path)
    (hplain : PlainEvents inst.host.toPlatform p.disk
      (parseArgs environ options)) :
    Tree.SameLinks p.disk.tree d.tree := by
  intro q target
  by_cases hfile : IsEventsFile inst.host.toPlatform p.disk
      (parseArgs environ options) q
  · -- there is one events file, and now it is new
    have hbefore := hplain q hfile target
    have hnow := h.prepared.opened
    rw [h.prepared.events.unique hfile] at hnow
    simp [hnow, hbefore]
  · rcases h.setUp q hfile with hsame | ⟨hnone, hmade⟩
    · rw [hsame]
    · simp [hnone, hmade]

end Ran

end

-- ============================================================ the process

section

variable {κ φ : Type} {inst : Installation κ φ} {environ : Environ}
  {options : Options} {p p' : Process κ} {r : Except Exc Int}

/-- The run changes nothing outside of the workspace the process was given,
where its path led before. -/
theorem Ran.unchanged {taskPath path : Location} {inv : Invocation (Disk × κ)}
    {d : Disk} (hran : Ran inst environ options taskPath p p' inv d path)
    (hremote : Remote inst)
    (hbash : ¬ TaskLists inst (parseArgs environ options) p.disk
      BashTool.name)
    (hplain : PlainEvents inst.host.toPlatform p.disk
      (parseArgs environ options)) {q : Location}
    (hq : ¬ InWorkspace inst.host.toPlatform p.disk (parseArgs environ options)
      q) : p'.disk.tree.node q = d.tree.node q := by
  obtain ⟨root, hroot, hdir⟩ := hran.prepared.workspace
  have hrun := (run_confined (hran.overBuiltins hremote)
    (fun hlisted => hbash (hran.listed hlisted)) d p.client (inst.clock_lasts _)
    (hroot.congr (hran.sameLinks hplain)) hdir).1
  rw [hran.disk]
  refine hrun.unchanged q ?_
  intro hbelow
  exact hq ⟨root, hroot, hbelow⟩

/-- Whatever `main` comes to, and whatever the model asks for: but for
directories that were made, nothing was done on the disk outside of the
workspace and the events file. -/
theorem main_confined (h : main inst environ options p = (r, p'))
    (hremote : Remote inst)
    (hbash : ¬ TaskLists inst (parseArgs environ options) p.disk
      BashTool.name)
    (hplain : PlainEvents inst.host.toPlatform p.disk
      (parseArgs environ options)) :
    SetUp (fun q =>
        IsEventsFile inst.host.toPlatform p.disk
          (parseArgs environ options) q
        ∨ InWorkspace inst.host.toPlatform p.disk
            (parseArgs environ options) q)
      p.disk p'.disk := by
  rcases main_outcomes hplain h with ⟨-, hquiet, -⟩ | ⟨-, -, hsetup⟩
    | ⟨-, taskPath, inv, d, path, hran⟩
  · exact .of_tree hquiet.1
  · exact hsetup.mono fun q hq => Or.inl hq
  · refine (hran.setUp.mono fun q hq => Or.inl hq).trans ?_
    intro q hq
    exact Or.inl (hran.unchanged hremote hbash hplain fun hin =>
      hq (Or.inr hin))

/-- What was set up before a journal was begun is no part of it. -/
theorem Journal.of_setUp {S : Location → Prop} {d d' : Disk} {q : Location}
    {now : Option Node} {mutations : List FileMutation}
    (hsetup : SetUp S d d') (hq : ¬ S q)
    (h : Journal (d'.tree.node q) now mutations) :
    Journal (d.tree.node q) now mutations := by
  rcases hsetup q hq with hsame | ⟨hnone, hdir⟩
  · rwa [hsame] at h
  · rw [hdir] at h
    rw [hnone]
    rcases h with ⟨hnil, hnow⟩ | ⟨opening, last, -, -, hfound, -, -⟩
    · rcases hnow with rfl | ⟨hnot, -⟩
      · exact Or.inl ⟨hnil, Or.inr ⟨rfl, rfl⟩⟩
      · cases hnot
    · rcases hfound with ⟨hnot, -⟩ | ⟨old, hold, -⟩
      · cases hnot
      · cases hold

/-- The trace of a process is a journal of every file but its own: it
starts from what was there before the process did, and ends with what is
there when it has exited. Without a trace nothing has happened. No write may
break off, and the trace is to be kept outside of the workspace: then no
tool touches its file, in which is what was written through the handle. -/
theorem main_journal (h : main inst environ options p = (r, p'))
    (hremote : Remote inst)
    (hbash : ¬ TaskLists inst (parseArgs environ options) p.disk
      BashTool.name)
    (hplain : PlainEvents inst.host.toPlatform p.disk
      (parseArgs environ options))
    (houtside : ∀ events, IsEventsFile inst.host.toPlatform p.disk
      (parseArgs environ options) events →
        ¬ InWorkspace inst.host.toPlatform p.disk (parseArgs environ options)
          events)
    (hwhole : p.disk.Whole) (hnew : p.trace = none) :
    (∀ q, (∀ name ∈ q, isEntry name = true) →
      ¬ IsEventsFile inst.host.toPlatform p.disk (parseArgs environ options)
        q →
      Journal (p.disk.tree.node q) (p'.disk.tree.node q)
        (mutationsOf (textFrom
          (Path.parse (parseArgs environ options).workspace) q) p'.events))
    ∧ ∀ trace, p'.trace = some trace →
        p'.disk.tree.node trace.path = some (.file trace.before) := by
  rcases main_outcomes hplain h with ⟨-, hquiet, hleft⟩ | ⟨-, hleft, hsetup⟩
    | ⟨-, taskPath, inv, d, path, hran⟩
  · rw [Process.events, hleft.trace, hnew, hquiet.1]
    exact ⟨fun q _ _ => Or.inl ⟨rfl, Or.inl rfl⟩, fun _ ht => by cases ht⟩
  · rw [Process.events, hleft.trace, hnew]
    refine ⟨?_, fun _ ht => by cases ht⟩
    intro q _ hother
    exact Journal.of_setUp hsetup hother (Or.inl ⟨rfl, Or.inl rfl⟩)
  · have hwhole' : d.Whole := by
      unfold Disk.Whole
      rwa [hran.torn]
    constructor
    · intro q hq hother
      have hrun := run_journal (hran.overBuiltins hremote)
        (fun hlisted => hbash (hran.listed hlisted)) hwhole' p.client
        (inst.clock_lasts _) hq
      rw [Process.events, hran.trace, hran.disk]
      exact Journal.of_setUp hran.setUp hother hrun
    · intro trace ht
      rw [hran.trace] at ht
      rw [← Option.some.inj ht]
      have hkept := hran.unchanged hremote hbash hplain
        (houtside path hran.prepared.events)
      exact hkept.trans hran.prepared.opened

/-- A task that lists no tool that writes leaves everything but the events
file as it was, up to directories, and its trace reports no mutation. -/
theorem main_looks (h : main inst environ options p = (r, p'))
    (hremote : Remote inst)
    (hlists : ∀ name ∈ [BashTool.name, FileWriteTool.name,
      FileEditTool.name],
      ¬ TaskLists inst (parseArgs environ options) p.disk name)
    (hplain : PlainEvents inst.host.toPlatform p.disk
      (parseArgs environ options)) (hnew : p.trace = none) :
    SetUp (IsEventsFile inst.host.toPlatform p.disk
        (parseArgs environ options)) p.disk p'.disk
      ∧ ∀ e ∈ p'.events, e.data.mutation = none := by
  rcases main_outcomes hplain h with ⟨-, hquiet, hleft⟩ | ⟨-, hleft, hsetup⟩
    | ⟨-, taskPath, inv, d, path, hran⟩
  · rw [Process.events, hleft.trace, hnew]
    exact ⟨.of_tree hquiet.1, fun e he => by cases he⟩
  · rw [Process.events, hleft.trace, hnew]
    exact ⟨hsetup, fun e he => by cases he⟩
  · have hnot : ∀ name ∈ [BashTool.name, FileWriteTool.name,
        FileEditTool.name], ¬ Listed inv name :=
      fun name hname hlisted => hlists name hname (hran.listed hlisted)
    have hrun := run_looks (hran.overBuiltins hremote) (hnot _ (by simp))
      (hnot _ (by simp)) (hnot _ (by simp)) d p.client (inst.clock_lasts _)
    rw [Process.events, hran.trace, hran.disk]
    exact ⟨hran.setUp.trans (.of_tree hrun.1), hrun.2⟩

end

-- ================================================================== examples

namespace Sample

/-- A provider that answers so, one message after the other. -/
def scriptedApi (messages : List ProviderMessage) :
    AnthropicApi (Disk × Nat) Unit where
  int _ := .ok 4096
  float _ := .ok ()
  create _ w :=
    match messages[w.2]? with
    | some msg => (.ok msg, w.1, w.2 + 1)
    | none => (.error ⟨"APIError", ""⟩, w)

/-- Its model asks for a write through the link, under this tool's name. -/
def asksFor (tool : String) : List ProviderMessage := [
  { content := [.known (.toolUse ⟨"tu-1", tool, escape⟩)]
    stopReason := some "tool_use"
    usage := none },
  { content := [.known (.text "done")]
    stopReason := some "end_turn"
    usage := none }]

/-- A task for that provider with one tool. -/
def anthropicTask (tool : String) : Json := .obj [
  ("prompt", .str "hi"),
  ("model", .obj [("provider", .str "anthropic"), ("name", .str "m")]),
  ("tools", .arr [.obj [("name", .str tool)]])]

def remoteWith (tool : String) : Installation Nat Unit where
  host :=
    { toPlatform := .walking 20
      shell := fun _ _ _ d => (.timeoutExpired, d)
      repr := fun _ => "" }
  yaml :=
    { safeLoad := fun _ => .ok (anthropicTask tool)
      int := fun _ => .error (validationError "int")
      decodeError := fun _ => "" }
  anthropic _ := .ok (scriptedApi (asksFor "file_write"))
  wall _ := "2026-01-15T10:30:00.123Z"
  mono := everyMsNs
  wallStart := 0
  wallEnd := 0

def withKey : Environ := [("ANTHROPIC_API_KEY", "k")]

def inWs : Options :=
  { Options.none with
    task := some "/task.yaml"
    workspace := some "/ws"
    traceDir := some "/logs" }

/-- The disk with the link, with a task on it. -/
def linkedProcess : Process Nat where
  disk := .ofTree (linkedDisk.tree.put ["task.yaml"] (.file []) rfl
    (by decide +kernel))
  client := 0
  trace := none
  stdout := []
  stderr := []

theorem remoteWith_remote (tool : String) : Remote (remoteWith tool) := by
  intro key api h args w
  rw [← Except.ok.inj h]
  simp only [scriptedApi]
  split <;> rfl

/-- The one tool the task lists. -/
theorem remoteWith_lists {tool name : String} {args : Args} {d : Disk}
    (h : TaskLists (remoteWith tool) args d name) : name = tool := by
  obtain ⟨q, bytes, spec, -, -, hparse, entry, hentry, rfl⟩ := h
  unfold parseTask at hparse
  cases hdecode : Utf8.decode bytes with
  | none =>
      rw [hdecode] at hparse
      cases hparse
  | some text =>
      rw [hdecode] at hparse
      injection hparse with hspec
      rw [← hspec] at hentry
      rw [List.mem_singleton.mp hentry]

/-- The sample keeps its events in `logs`. -/
theorem eventsFile_inWs {q : Location} (h : IsEventsFile
    (remoteWith "file_write").host.toPlatform linkedProcess.disk
    (parseArgs withKey inWs) q) : q = ["logs", "events.jsonl"] := by
  obtain ⟨dir, hdir, rfl⟩ := h
  have hwalk : realpath linkedProcess.disk.tree 8 []
      (Path.parse "/logs").parts = some ["logs"] := by
    decide +kernel
  have hlogs : Canonical linkedProcess.disk.tree [] (Path.parse "/logs")
      ["logs"] := walk_of_realpath hwalk
  have htrace : (parseArgs withKey inWs).traceDir = "/logs" := rfl
  rw [htrace] at hdir
  rw [hdir.unique hlogs]
  rfl

end Sample

namespace Sample

/-- There is no link at its events file. -/
theorem linked_plain :
    PlainEvents (remoteWith "file_write").host.toPlatform linkedProcess.disk
      (parseArgs withKey inWs) := by
  intro q hq target
  rw [eventsFile_inWs hq]
  simp [linkedProcess, linkedDisk, Disk.ofTree, Tree.put, Tree.empty]

/-- The trace is kept outside of the workspace. -/
theorem linked_outside {q : Location}
    (h : IsEventsFile (remoteWith "file_write").host.toPlatform
      linkedProcess.disk (parseArgs withKey inWs) q) :
    ¬ InWorkspace (remoteWith "file_write").host.toPlatform
      linkedProcess.disk (parseArgs withKey inWs) q := by
  rintro ⟨root, hroot, hbelow⟩
  have hwalk : realpath linkedProcess.disk.tree 8 []
      (Path.parse "/ws").parts = some ["ws"] := by
    decide +kernel
  have hws : Canonical linkedProcess.disk.tree [] (Path.parse "/ws") ["ws"] :=
    walk_of_realpath hwalk
  have hpath : (parseArgs withKey inWs).workspace = "/ws" := rfl
  rw [hpath] at hroot
  rw [eventsFile_inWs h, hroot.unique hws] at hbelow
  exact absurd hbelow (by decide)

end Sample

open Sample in
/-- A model that tries to leave the workspace through a link. -/
theorem main_confined_demo :
    SetUp (fun q =>
        IsEventsFile (remoteWith "file_write").host.toPlatform
          linkedProcess.disk (parseArgs withKey inWs) q
        ∨ InWorkspace (remoteWith "file_write").host.toPlatform
            linkedProcess.disk (parseArgs withKey inWs) q)
      linkedProcess.disk
      (main (remoteWith "file_write") withKey inWs linkedProcess).2.disk := by
  rcases hmain : main (remoteWith "file_write") withKey inWs linkedProcess
    with ⟨r, p'⟩
  refine main_confined hmain (remoteWith_remote _) ?_ linked_plain
  intro hlists
  exact absurd (remoteWith_lists hlists) (by decide)

open Sample in
/-- A write in the sample's workspace, which holds a link as well. -/
theorem main_journal_demo :
    Journal (linkedProcess.disk.tree.node ["ws", "a.txt"])
      ((main (remoteWith "file_write") withKey inWs
        linkedProcess).2.disk.tree.node ["ws", "a.txt"])
      (mutationsOf (textFrom (Path.parse (parseArgs withKey inWs).workspace)
        ["ws", "a.txt"])
        (main (remoteWith "file_write") withKey inWs
          linkedProcess).2.events) := by
  rcases hmain : main (remoteWith "file_write") withKey inWs linkedProcess
    with ⟨r, p'⟩
  have hjournal := (main_journal hmain (remoteWith_remote _)
    (fun hlists => absurd (remoteWith_lists hlists) (by decide)) linked_plain
    (fun events => linked_outside) (fun _ => rfl) rfl).1
  exact hjournal ["ws", "a.txt"] (by decide)
    fun hq => absurd (eventsFile_inWs hq) (by decide)

open Sample in
/-- A model that asks for a tool its task does not list. -/
theorem main_looks_demo :
    SetUp (IsEventsFile (remoteWith "file_read").host.toPlatform
        linkedProcess.disk (parseArgs withKey inWs)) linkedProcess.disk
      (main (remoteWith "file_read") withKey inWs
        linkedProcess).2.disk := by
  rcases hmain : main (remoteWith "file_read") withKey inWs linkedProcess
    with ⟨r, p'⟩
  refine (main_looks hmain (remoteWith_remote _) ?_ linked_plain rfl).1
  intro name hname hlists
  rw [remoteWith_lists hlists] at hname
  exact absurd hname (by decide)

end AgentAnvil.Sdk
