/-
What a whole run does to the world of its tools.

A run touches its world in two ways only: through the client, and through
the tools that its spec lists. `Sustains` says of a relation between a
world, the tool calls carried out, and the world afterwards that every call
keeps it and that it composes; `execute_sustains` is the rule: the relation
then holds between the two ends of a run. The `file_mutation` events of its
trace are what its tool calls report (`eventsOf_mutations`).

Three instances over the built-in tools, for a client that leaves the disk
alone and a spec without `bash`: the run stays inside the workspace
(`run_confined`), its trace is a journal of every file (`run_journal`), and
without the two tools that write it changes nothing (`run_looks`).
-/
import AgentAnvil.Sdk.Proofs.Confinement
import AgentAnvil.Sdk.Transcript

namespace AgentAnvil.Sdk

open Fs

variable {ω : Type}

-- ======================================================== what is reported

def ToolCall.mutations : ToolCall → List FileMutation
  | unavailable _ => []
  | executed _ mutations _ => mutations

/-- The tool calls of an exchange, in order. -/
def Transcript.toolCalls (tr : Transcript ω) : List ToolCall :=
  tr.turns.flatMap Turn.toolCalls

def Transcript.mutations (tr : Transcript ω) : List FileMutation :=
  tr.toolCalls.flatMap ToolCall.mutations

/-- The mutation a `file_mutation` event reports. -/
def EventData.mutation : EventData → Option FileMutation
  | .fileMutation path operation sizeBefore sizeAfter hashAfter =>
      some { path, operation, sizeBefore, sizeAfter, hashAfter }
  | _ => none

theorem mutation_withoutLatency (data : EventData) :
    data.withoutLatency.mutation = data.mutation := by
  cases data <;> rfl

/-- The events of mutations report just these mutations. -/
theorem filterMap_mutation (mutations : List FileMutation) :
    (mutations.map fun m => m.data.withoutLatency).filterMap
      EventData.mutation = mutations := by
  induction mutations with
  | nil => rfl
  | cons m mutations ih =>
      rw [List.map_cons, List.filterMap_cons, ih]
      rfl

/-- A tool call writes the mutations its tool reported, and no others. -/
theorem ToolCall.script_mutations (call : ToolCall) :
    (call.script.flatMap Act.datas).filterMap EventData.mutation
      = call.mutations := by
  cases call with
  | unavailable use => rfl
  | executed use mutations result =>
      simp only [script, List.flatMap_cons, List.flatMap_nil, Act.datas,
        List.map_map, List.append_nil]
      show List.filterMap _ (_ :: (List.map _ mutations ++ _)) = _
      rw [List.filterMap_cons, List.filterMap_append]
      show List.filterMap EventData.mutation
        (mutations.map fun m => m.data.withoutLatency) ++ [] = _
      rw [filterMap_mutation, List.append_nil]
      rfl

variable (inv : Invocation ω)

theorem Turn.script_mutations (k : Nat) (t : Turn) :
    ((t.script inv k).flatMap Act.datas).filterMap EventData.mutation
      = t.toolCalls.flatMap ToolCall.mutations := by
  have hcalls : ∀ calls : List ToolCall,
      ((calls.flatMap ToolCall.script).flatMap Act.datas).filterMap
        EventData.mutation = calls.flatMap ToolCall.mutations := by
    intro calls
    induction calls with
    | nil => rfl
    | cons call calls ih =>
        simp only [List.flatMap_cons, List.flatMap_append,
          List.filterMap_append, ih, ToolCall.script_mutations]
  simp only [script, List.flatMap_append, List.filterMap_append, hcalls]
  show [] ++ (t.toolCalls.flatMap ToolCall.mutations) ++ [] = _
  rw [List.append_nil, List.nil_append]

theorem turnsScript_mutations (k : Nat) (ts : List Turn) :
    ((turnsScript inv k ts).flatMap Act.datas).filterMap EventData.mutation
      = (ts.flatMap Turn.toolCalls).flatMap ToolCall.mutations := by
  induction ts generalizing k with
  | nil => rfl
  | cons t ts ih =>
      simp only [turnsScript, List.flatMap_append, List.filterMap_append, ih,
        Turn.script_mutations, List.flatMap_cons]

/-- The `file_mutation` events of a trace are what its tool calls report. -/
theorem eventsOf_mutations {world : ω} {clock : Clock}
    (hlasts : clock.Lasts (lineCount ((transcriptOf inv world).script inv))) :
    (eventsOf inv world clock).filterMap (fun e => e.data.mutation)
      = (transcriptOf inv world).mutations := by
  rw [filterMap_eventsOf inv mutation_withoutLatency hlasts,
    Transcript.filterMap_datas inv _ rfl rfl, turnsScript_mutations]
  cases (transcriptOf inv world).ending <;> exact List.append_nil _

/-- Those of one file, among all. -/
theorem mutationsOf_eq_filter (text : String) (events : List Event) :
    mutationsOf text events
      = (events.filterMap fun e => e.data.mutation).filter
        fun m => m.path = text := by
  induction events with
  | nil => rfl
  | cons e events ih =>
      have htail : mutationsOf text (e :: events)
          = (e.data.mutationOf text).toList ++ mutationsOf text events := by
        show List.filterMap _ _ = _
        rw [List.filterMap_cons]
        cases e.data.mutationOf text <;> rfl
      rw [htail, ih, List.filterMap_cons]
      cases hdata : e.data with
      | fileMutation path operation sizeBefore sizeAfter hashAfter =>
          simp only [EventData.mutationOf, EventData.mutation,
            List.filter_cons]
          by_cases hpath : path = text
          · simp [hpath]
          · simp [hpath]
      | _ => rfl

-- ================================================================ the rule

/-- A relation that composes, and that every call of the client and of the
tools keeps. -/
structure Sustains (tools : List (Tool ω)) (client : LLMClient ω)
    (R : ω → List ToolCall → ω → Prop) : Prop where
  refl : ∀ w, R w [] w
  trans : ∀ {a cs b cs' c}, R a cs b → R b cs' c → R a (cs ++ cs') c
  client : ∀ request w, R w [] (client.complete request w).2
  toolCall : ∀ tu w, R w [(toolCall tools tu w).1] (toolCall tools tu w).2

namespace Sustains

variable {tools : List (Tool ω)} {client : LLMClient ω}
  {R : ω → List ToolCall → ω → Prop}

/-- The tool calls of a step, by induction on the tool uses. -/
theorem toolCalls (h : Sustains tools client R) (uses : List ToolUse)
    (w : ω) :
    R w (toolCalls tools uses w).1 (toolCalls tools uses w).2 := by
  induction uses generalizing w with
  | nil => exact h.refl w
  | cons tu uses ih => exact h.trans (h.toolCall tu w) (ih _)

variable {inv}

/-- The exchange, by induction on the steps left: a client call, then its
tools. -/
theorem transcript (h : Sustains inv.tools inv.client R) (remaining : Nat)
    (messages : List Message) (w : ω) :
    R w (transcript inv remaining messages w).toolCalls
      (transcript inv remaining messages w).world := by
  induction remaining generalizing messages w with
  | zero => exact h.refl w
  | succ remaining ih =>
      have hclient := h.client (inv.request messages) w
      simp only [Sdk.transcript]
      rcases hcall : inv.client.complete (inv.request messages) w with
        ⟨answer, world⟩
      rw [hcall] at hclient
      cases answer with
      | error exc => exact hclient
      | ok resp =>
          by_cases htools : resp.callsTools
          · simp only [htools, if_true]
            have hcalls := h.toolCalls resp.toolUses world
            have hturn := h.trans hcalls (ih
              (Turn.answered ⟨messages, resp,
                (Sdk.toolCalls inv.tools resp.toolUses world).1⟩)
              (Sdk.toolCalls inv.tools resp.toolUses world).2)
            have hrun := h.trans hclient hturn
            rwa [List.nil_append] at hrun
          · simp only [htools, if_false]
            exact hclient

end Sustains

/-- What every call keeps, a run keeps. -/
theorem execute_sustains {R : ω → List ToolCall → ω → Prop}
    (h : Sustains inv.tools inv.client R) (world : ω) {clock : Clock}
    (hlasts : clock.Lasts (lineCount ((transcriptOf inv world).script inv))) :
    R world (transcriptOf inv world).toolCalls
      (execute inv world clock).2.runtime.world := by
  rw [execute_eq inv rfl hlasts]
  exact h.transcript inv.maxSteps.toNat _ world

-- ====================================================== which tools there are

section

variable {κ : Type} {host : Host} {workspace : Path}
  {inv : Invocation (Disk × κ)}

/-- A run over the built-in tools, beside a client that leaves the disk
alone and has a state of its own. -/
structure OverBuiltins (host : Host) (workspace : Path)
    (inv : Invocation (Disk × κ)) : Prop where
  registry : inv.registry
    = (builtins host workspace).map (ToolClass.beside κ)
  client : ∀ request world,
    (inv.client.complete request world).2.1 = world.1

/-- The spec lists a tool of this name. -/
def Listed (inv : Invocation (Disk × κ)) (name : String) : Prop :=
  ∃ spec ∈ inv.spec.tools, spec.name = name

/-- The result the model is shown of what a file tool returned. -/
def answerOf (name : String) : Except Exc FileResult → ToolResult
  | .error exc => raisedResult name exc
  | .ok res => res.2.clamp

/-- What comes of a call where `bash` is not listed. -/
inductive Called (host : Host) (workspace : Path)
    (inv : Invocation (Disk × κ)) (tu : ToolUse) (w : Disk × κ) :
    ToolCall × (Disk × κ) → Prop where
  | unavailable : Called host workspace inv tu w (.unavailable tu, w)
  /-- the search does nothing -/
  | search {result} (named : tu.name = WebSearchTool.name) :
      Called host workspace inv tu w (.executed tu [] result, w)
  | file {tool : FileTool} {r d'} (listed : Listed inv tool.name)
      (named : tu.name = tool.name)
      (ran : tool._run host.toPlatform workspace tu.input w.1 = (r, d')) :
      Called host workspace inv tu w
        (.executed tu (reported r) (answerOf tu.name r), (d', w.2))

/-- A file tool's class does what its body does. -/
theorem Called.of_cls {tool : FileTool} {tu : ToolUse} (w : Disk × κ)
    (hlisted : Listed inv tool.name) (hnamed : tu.name = tool.name)
    (timeoutSeconds : Int) :
    let ran := ((tool.cls host.toPlatform workspace).beside κ)._run
      timeoutSeconds tu.input w
    Called host workspace inv tu w
      (.executed tu ran.mutations (ran.result tu.name), ran.world) := by
  rcases hrun : tool._run host.toPlatform workspace tu.input w.1 with ⟨r, d'⟩
  have hfile := Called.file hlisted hnamed hrun
  show Called host workspace inv tu w
    (.executed tu (asToolRun _ w.1).mutations
      (ToolRun.result tu.name ⟨_, (asToolRun _ w.1).outcome, _⟩),
      ((asToolRun _ w.1).world, w.2))
  rw [asToolRun, hrun]
  cases r <;> exact hfile

/-- Without `bash` a tool call is of a file tool or of the search, or of a
tool there is none of. -/
theorem OverBuiltins.called (h : OverBuiltins host workspace inv)
    (hbash : ¬ Listed inv BashTool.name) (tu : ToolUse) (w : Disk × κ) :
    Called host workspace inv tu w (toolCall inv.tools tu w) := by
  simp only [toolCall]
  cases hfind : toolMap inv.tools tu.name with
  | none => exact .unavailable
  | some tool =>
      obtain ⟨hmem, htold⟩ := toolMap_mem hfind
      obtain ⟨hcls, spec, hspec, hname, -⟩ := buildTools_mem hmem
      rw [h.registry] at hcls
      obtain ⟨cls, hcls, heq⟩ := List.mem_map.mp hcls
      rw [← heq] at hname htold
      have hlisted : Listed inv cls.name := ⟨spec, hspec, hname⟩
      have hnamed : tu.name = cls.name := htold.symm
      simp only [← heq]
      simp only [builtins, List.mem_cons, List.not_mem_nil, or_false] at hcls
      rcases hcls with rfl | rfl | rfl | rfl | rfl
      · exact absurd hlisted hbash
      · exact .of_cls w hlisted hnamed _
      · exact .of_cls w hlisted hnamed _
      · exact .of_cls w hlisted hnamed _
      · exact .search hnamed

/-- Where `bash` is not listed, what every call of a listed file tool keeps
of the disk, a run keeps, between its two ends and the `file_mutation`
events of its trace. -/
theorem OverBuiltins.sustains (h : OverBuiltins host workspace inv)
    (hbash : ¬ Listed inv BashTool.name)
    {R : Disk → List FileMutation → Disk → Prop} (hrefl : ∀ d, R d [] d)
    (htrans : ∀ {a ms b ns c}, R a ms b → R b ns c → R a (ms ++ ns) c)
    (hfile : ∀ tool : FileTool, Listed inv tool.name → ∀ args d r d',
      tool._run host.toPlatform workspace args d = (r, d') →
        R d (reported r) d') (d : Disk) (own : κ) {clock : Clock}
    (hlasts : clock.Lasts
      (lineCount ((transcriptOf inv (d, own)).script inv))) :
    R d ((eventsOf inv (d, own) clock).filterMap fun e => e.data.mutation)
      (execute inv (d, own) clock).2.runtime.world.1 := by
  rw [eventsOf_mutations inv hlasts]
  refine execute_sustains inv (R := fun w calls w' =>
    R w.1 (calls.flatMap ToolCall.mutations) w'.1) ?_ (d, own) hlasts
  refine ⟨fun w => hrefl w.1, ?_, ?_, ?_⟩
  · intro a cs b cs' c hab hbc
    rw [List.flatMap_append]
    exact htrans hab hbc
  · intro request w
    rw [h.client]
    exact hrefl w.1
  · intro tu w
    have hcalled := h.called hbash tu w
    generalize toolCall inv.tools tu w = out at hcalled ⊢
    cases hcalled with
    | unavailable => exact hrefl w.1
    | search named => exact hrefl w.1
    | @file tool r d' listed named ran =>
        show R w.1 (reported r ++ []) d'
        rw [List.append_nil]
        exact hfile tool listed tu.input w.1 r d' ran

-- ======================================================== inside the workspace

/-- A run without `bash` opens, writes and makes nothing outside the
workspace, whatever the model asks for, and every path leads where it
led. -/
theorem run_confined (h : OverBuiltins host workspace inv)
    (hbash : ¬ Listed inv BashTool.name) (d : Disk) (own : κ) {clock : Clock}
    (hlasts : clock.Lasts (lineCount ((transcriptOf inv (d, own)).script inv)))
    {root : Location}
    (hroot : Canonical d.tree host.cwd workspace root)
    (hdir : d.tree.node root = some .directory) :
    Confined root d (execute inv (d, own) clock).2.runtime.world.1 ∧
      ∀ cwd path q, Canonical d.tree cwd path q →
        Canonical (execute inv (d, own) clock).2.runtime.world.1.tree
          cwd path q := by
  have hrun := h.sustains hbash
    (R := fun d _ d' => Canonical d.tree host.cwd workspace root →
      d.tree.node root = some .directory →
        Confined root d d' ∧ Tree.SameLinks d.tree d'.tree
          ∧ d'.tree.node root = some .directory)
    ?_ ?_ ?_ d own hlasts hroot hdir
  · exact ⟨hrun.1, fun cwd path q hq => Walk.congr hq hrun.2.1⟩
  · intro d _ hdir
    exact ⟨.of_quiet (.refl d), .refl d.tree, hdir⟩
  · intro a ms b ns c hab hbc hroot hdir
    obtain ⟨hconf, hlinks, hdirb⟩ := hab hroot hdir
    obtain ⟨hconf', hlinks', hdirc⟩ := hbc (hroot.congr hlinks) hdirb
    exact ⟨hconf.trans hconf', hlinks.trans hlinks', hdirc⟩
  · intro tool _ args d r d' hran hroot hdir
    have heffect := effect_of_run hran
    exact ⟨heffect.confined hroot hdir, heffect.sameLinks,
      heffect.directory hdir⟩

-- ================================================================ the journal

/-- The `file_mutation` events in the trace of a run without `bash`, on a
disk where no write breaks off, are a journal of every file: they start
from what was there before the run, each goes on from the one before it,
and the last says what is there now. -/
theorem run_journal (h : OverBuiltins host workspace inv)
    (hbash : ¬ Listed inv BashTool.name) {d : Disk} (hwhole : d.Whole)
    (own : κ) {clock : Clock}
    (hlasts : clock.Lasts (lineCount ((transcriptOf inv (d, own)).script inv)))
    {q : Location}
    (hq : ∀ name ∈ q, isEntry name = true) :
    Journal (d.tree.node q)
      ((execute inv (d, own) clock).2.runtime.world.1.tree.node q)
      (mutationsOf (textFrom workspace q)
        (eventsOf inv (d, own) clock)) := by
  rw [mutationsOf_eq_filter]
  have hrun := h.sustains hbash
    (R := fun d ms d' => d.Whole → d'.Whole ∧ ∀ first mutations,
      Journal first (d.tree.node q) mutations →
        Journal first (d'.tree.node q)
          (mutations ++ ms.filter fun m => m.path = textFrom workspace q))
    ?_ ?_ ?_ d own hlasts hwhole
  · exact hrun.2 _ [] (Or.inl ⟨rfl, Or.inl rfl⟩)
  · intro d hwhole
    refine ⟨hwhole, ?_⟩
    intro first mutations hjournal
    rwa [List.filter_nil, List.append_nil]
  · intro a ms b ns c hab hbc hwhole
    obtain ⟨hwhole', hfirst⟩ := hab hwhole
    obtain ⟨hwhole'', hnext⟩ := hbc hwhole'
    refine ⟨hwhole'', ?_⟩
    intro first mutations hjournal
    have hboth := hnext first _ (hfirst first mutations hjournal)
    rwa [List.append_assoc, ← List.filter_append] at hboth
  · intro tool _ args d r d' hran hwhole
    have heffect := effect_of_run hran
    refine ⟨heffect.whole hwhole, ?_⟩
    intro first mutations hjournal
    exact heffect.journal hwhole hq hjournal

-- ============================================================ only looking

/-- A body that answers without events, whatever it finds. -/
def AlwaysSilent (body : Py Disk FileResult) : Prop :=
  ∀ d, Silent (body d).1

/-- What a statement found does not matter to what follows. -/
theorem alwaysSilent_bind {α : Type} {m : Py Disk α}
    {f : α → Py Disk FileResult} (h : ∀ a, AlwaysSilent (f a)) :
    AlwaysSilent (m >>= f) := by
  intro d
  rcases hm : m d with ⟨r, d'⟩
  cases r with
  | ok a =>
      rw [Py.bind_ok hm]
      exact h a d'
  | error exc =>
      rw [Py.bind_error hm]
      exact (refused_error exc).silent

theorem alwaysSilent_refused (content : String) :
    AlwaysSilent (pure (refused content)) :=
  fun _ => (refused_refused content).silent

/-- `file_read` reports nothing, whatever it finds. -/
theorem read_alwaysSilent (p : Platform) (workspace : Path)
    (args : List (String × Json)) :
    AlwaysSilent (FileReadTool._run p workspace args) := by
  rw [FileReadTool._run]
  cases pathArgument args with
  | none => exact alwaysSilent_refused _
  | some path =>
      apply alwaysSilent_bind
      intro found
      cases found with
      | none => exact alwaysSilent_refused _
      | some target =>
          apply alwaysSilent_bind
          intro there
          split
          · apply alwaysSilent_bind
            intro regular
            split
            · apply alwaysSilent_bind
              intro size
              split
              · exact alwaysSilent_refused _
              · apply alwaysSilent_bind
                intro bytes
                split
                · exact alwaysSilent_refused _
                · intro d
                  exact silent_format rfl
            · exact alwaysSilent_refused _
          · exact alwaysSilent_refused _

theorem reported_of_silent {r : Except Exc FileResult} (h : Silent r) :
    reported r = [] := by
  cases r with
  | error exc => rfl
  | ok res =>
      rcases h res rfl with ⟨content, rfl⟩ | ⟨content, rfl⟩
      · rfl
      · rfl

/-- A run whose spec lists none of the tools that write changes nothing in
the tree, and its trace reports no mutation. -/
theorem run_looks (h : OverBuiltins host workspace inv)
    (hbash : ¬ Listed inv BashTool.name)
    (hwrite : ¬ Listed inv FileWriteTool.name)
    (hedit : ¬ Listed inv FileEditTool.name) (d : Disk) (own : κ)
    {clock : Clock}
    (hlasts : clock.Lasts
      (lineCount ((transcriptOf inv (d, own)).script inv))) :
    (execute inv (d, own) clock).2.runtime.world.1.tree = d.tree ∧
      ∀ e ∈ eventsOf inv (d, own) clock, e.data.mutation = none := by
  have hrun := h.sustains hbash
    (R := fun d ms d' => d'.tree = d.tree ∧ ms = []) ?_ ?_ ?_ d own hlasts
  · exact ⟨hrun.1, List.filterMap_eq_nil_iff.mp hrun.2⟩
  · intro d
    exact ⟨rfl, rfl⟩
  · intro a ms b ns c hab hbc
    exact ⟨hbc.1.trans hab.1, by rw [hab.2, hbc.2]; rfl⟩
  · intro tool hlisted args d r d' hran
    cases tool with
    | read =>
        have hsilent := read_alwaysSilent host.toPlatform workspace args d
        have hrun : FileReadTool._run host.toPlatform workspace args d
            = (r, d') := hran
        rw [hrun] at hsilent
        exact ⟨(read_untouched hrun).tree, reported_of_silent hsilent⟩
    | write => exact absurd hlisted hwrite
    | edit => exact absurd hlisted hedit

end

end AgentAnvil.Sdk
