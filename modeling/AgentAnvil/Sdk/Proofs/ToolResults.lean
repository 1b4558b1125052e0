/-
The trace determines what the model saw from its tools.

A `tool_result` block has a flag where the event has an exit code. Every
exit of every built-in tool sets the two alike (`Agrees`), and so do the
loop's own two; a truncated result keeps both. So each block is the image
of its `tool_call_end` event (`Answers.shown`).

The loop appends the blocks of a response in one message, when all of its
calls are closed. So the invariant (`Shows`) has two parts: the blocks the
model is shown answer the calls that were closed, in order, and where there
are more of these, the last step broke off among its calls, for an event
that opens or closes one. No other loss does it: one of a `file_mutation`
event is reported to the model as an exception of the tool, and those
around the calls come before them or after the message.
-/
import AgentAnvil.Sdk.Builtins
import AgentAnvil.Sdk.Legs
import AgentAnvil.Sdk.Proofs.FileEffects

namespace AgentAnvil.Sdk

open Fs

-- ==================================================== statement vocabulary

/-- What a `tool_result` block tells the model. -/
structure ShownResult where
  toolUseId : String
  content : String
  isError : Bool
  deriving DecidableEq, Repr

def Block.shown : Block → Option ShownResult
  | .toolResult toolUseId content isError =>
      some { toolUseId, content, isError }
  | .text _ => none
  | .toolUse _ => none

/-- The `tool_result` blocks of a message, in order. -/
def Message.shownResults (m : Message) : List ShownResult :=
  match m.content with
  | .text _ => []
  | .blocks items => items.filterMap Block.shown

/-- The image of a `tool_call_end` event. -/
def EventData.shown : EventData → Option ShownResult
  | .toolCallEnd toolCallId result _ exitCode _ =>
      some { toolUseId := toolCallId, content := result,
             isError := decide (exitCode ≠ 0) }
  | _ => none

/-- The task, with the tools of the registry. -/
def Invocation.withBuiltins {κ : Type} (host : Host) (workspace : Path)
    (task : Invocation (Disk × κ)) : Invocation (Disk × κ) :=
  { task with registry := (builtins host workspace).map (.beside κ) }

-- ========================================================= the tools' exits

/-- The flag says what the exit code says. -/
def ToolResult.Agrees (result : ToolResult) : Prop :=
  result.isError = decide (result.exitCode ≠ 0)

/-- Every result a class gives is such. -/
def ToolClass.Agrees {ω : Type} (cls : ToolClass ω) : Prop :=
  ∀ timeoutSeconds args world result,
    (cls._run timeoutSeconds args world).outcome = .ok result →
      result.Agrees

/-- An error result of a file tool has exit code 1 and says so. -/
theorem refused_agrees (content : String) : (refused content).2.Agrees := rfl

theorem succeeded_agrees (mutations : List FileMutation) (content : String) :
    (succeeded mutations content).2.Agrees := rfl

/-- Whatever a call of a file tool comes to, its result agrees. -/
theorem Effect.agrees {p : Platform} {workspace : Path}
    {args : List (String × Json)} {d d' : Disk} {res : FileResult}
    (h : Effect p workspace args d (.ok res) d') : res.2.Agrees := by
  cases h with
  | rejected quiet => exact refused_agrees _
  | looked names reached tree silent =>
      rcases silent res rfl with ⟨content, rfl⟩ | ⟨content, rfl⟩
      · exact refused_agrees _
      · exact succeeded_agrees _ _
  | stored names reached before after => exact succeeded_agrees _ _

theorem FileTool.cls_agrees (p : Platform) (workspace : Path)
    (tool : FileTool) : (tool.cls p workspace).Agrees := by
  intro timeoutSeconds args d result h
  match hrun : tool._run p workspace args d with
  | (.error exc, d') =>
      simp only [FileTool.cls, asToolRun, hrun] at h
      cases h
  | (.ok res, d') =>
      simp only [FileTool.cls, asToolRun, hrun] at h
      rw [← Except.ok.inj h]
      exact (effect_of_run hrun).agrees

/-- `bash` calls a result an error just if the exit code is not 0; a timeout
is one. -/
theorem BashTool.result_agrees {timeoutSeconds : Int}
    {outcome : ShellOutcome} {result : ToolResult}
    (h : BashTool.result timeoutSeconds outcome = .ok result) :
    result.Agrees := by
  cases outcome with
  | completed returncode stdout stderr =>
      rw [← Except.ok.inj h]
      rfl
  | timeoutExpired =>
      rw [← Except.ok.inj h]
      rfl
  | raised exc =>
      rw [BashTool.result] at h
      split at h
      · rw [← Except.ok.inj h]
        rfl
      · cases h

theorem BashTool.cls_agrees (host : Host) (workspace : Path) :
    (BashTool.cls host workspace).Agrees := by
  intro timeoutSeconds args d result h
  simp only [BashTool.cls, BashTool._run] at h
  split at h
  · rw [← Except.ok.inj h]
    exact refused_agrees _
  · exact BashTool.result_agrees h

theorem WebSearchTool.cls_agrees (host : Host) :
    (WebSearchTool.cls host).Agrees := by
  intro timeoutSeconds args d result h
  rw [← Except.ok.inj h]
  exact succeeded_agrees _ _

/-- Flag and exit code agree for every tool the SDK comes with. -/
theorem builtins_agree (host : Host) (workspace : Path) (κ : Type) :
    ∀ cls ∈ (builtins host workspace).map (ToolClass.beside κ),
      cls.Agrees := by
  have hbuiltins : ∀ cls ∈ builtins host workspace, cls.Agrees := by
    intro cls hcls
    simp only [builtins, List.mem_cons, List.not_mem_nil, or_false] at hcls
    rcases hcls with rfl | rfl | rfl | rfl | rfl
    · exact BashTool.cls_agrees host workspace
    · exact FileTool.cls_agrees host.toPlatform workspace .read
    · exact FileTool.cls_agrees host.toPlatform workspace .write
    · exact FileTool.cls_agrees host.toPlatform workspace .edit
    · exact WebSearchTool.cls_agrees host
  intro cls hcls
  obtain ⟨cls, hmem, rfl⟩ := List.mem_map.mp hcls
  intro timeoutSeconds args world result h
  exact hbuiltins cls hmem timeoutSeconds args world.1 result h

theorem ToolResult.Agrees.clamp {result : ToolResult} (h : result.Agrees) :
    result.clamp.Agrees := by
  unfold ToolResult.clamp
  split
  · exact h
  · exact h

-- ======================================================== one block, one event

section

variable {ω : Type} {tools : List (Tool ω)}

/-- A block is the image of the event that closes its call. -/
theorem Answers.shown (htools : ∀ tool ∈ tools, tool.cls.Agrees)
    {block : Block} {data : EventData} (h : Answers tools block data) :
    block.shown = data.shown := by
  cases h with
  | unavailable tu => rfl
  | raised tu exc latencyMs => rfl
  | @returned tu tool world result mem ran latencyMs =>
      have hflag : result.clamp.isError
          = decide (result.clamp.exitCode ≠ 0) :=
        (htools tool mem _ _ _ _ ran).clamp
      rw [Block.shown, EventData.shown, hflag]

/-- Blocks that answer their calls, one by one, show what the events show. -/
theorem answers_shown (htools : ∀ tool ∈ tools, tool.cls.Agrees)
    {blocks : List Block} {ends : List EventData}
    (h : List.Forall₂ (Answers tools) blocks ends) :
    blocks.filterMap Block.shown = ends.filterMap EventData.shown := by
  induction h with
  | nil => rfl
  | cons hanswers _ ih =>
      rw [List.filterMap_cons, List.filterMap_cons, hanswers.shown htools, ih]

/-- Only the blocks that are results are shown as such. -/
theorem results_shown (m : Message) :
    m.results.filterMap Block.shown = m.shownResults := by
  unfold Message.results Message.shownResults
  cases m.content with
  | text s => rfl
  | blocks items =>
      show (items.filter _).filterMap Block.shown
        = items.filterMap Block.shown
      rw [List.filterMap_filter]
      congr 1
      funext block
      cases block <;> rfl

/-- Only the events that close calls have an image. -/
theorem toolEnds_shown (events : List Event) :
    (toolEnds events).filterMap EventData.shown
      = events.filterMap fun e => e.data.shown := by
  unfold toolEnds
  rw [List.filterMap_filter, List.filterMap_map]
  congr 1
  funext e
  show (if decide (e.data.type = .toolCallEnd) = true then e.data.shown
    else none) = e.data.shown
  cases e.data <;> rfl

-- ============================================================ the invariant

/-- The model has been shown what the closed calls came to, in order, and
all of it unless a step broke off among its calls. -/
def Shows (tools : List (Tool ω)) (s : Frame ω) : Prop :=
  ∃ front extra, toolEnds s.runtime.events.lines = front ++ extra ∧
    List.Forall₂ (Answers tools) (s.messages.flatMap Message.results) front ∧
    (extra ≠ [] → ¬ s.runtime.events.clock.Lasts 1 ∨
      ∃ e, s.runtime.events.Lost e ∧ e.data.OfCall)

/-- The model has been shown all of it. -/
def ShowsAll (tools : List (Tool ω)) (s : Frame ω) : Prop :=
  List.Forall₂ (Answers tools) (s.messages.flatMap Message.results)
    (toolEnds s.runtime.events.lines)

variable {s s' : Frame ω}

theorem ShowsAll.shows (h : ShowsAll tools s) : Shows tools s :=
  ⟨_, [], (List.append_nil _).symm, h, fun hne => absurd rfl hne⟩

/-- Messages and closed calls are added alike. -/
theorem ShowsAll.went {messages : List Message} {calls : List LLMCall}
    {news lost : List Event} (h : ShowsAll tools s)
    (hwent : Went s s' messages calls news lost)
    (hanswers : List.Forall₂ (Answers tools)
      (messages.flatMap Message.results) (toolEnds news)) :
    ShowsAll tools s' := by
  unfold ShowsAll
  rw [hwent.messages, hwent.leg.lines, List.flatMap_append, toolEnds_append]
  exact List.rel_append h hanswers

/-- A leg that closes no call, whatever was lost on it. -/
theorem Shows.went {calls : List LLMCall} {news lost : List Event}
    (h : Shows tools s) (hwent : Went s s' [] calls news lost)
    (hends : toolEnds news = []) : Shows tools s' := by
  obtain ⟨front, extra, hall, hanswers, hextra⟩ := h
  refine ⟨front, extra, ?_, ?_, ?_⟩
  · rw [hwent.leg.lines, toolEnds_append, hends, List.append_nil, hall]
  · rw [hwent.messages, List.append_nil]
    exact hanswers
  · intro hne
    refine (hextra hne).imp (mt hwent.leg.lasts) ?_
    rintro ⟨e, he, hcall⟩
    exact ⟨e, (hwent.leg.lost e).mpr (Or.inl he), hcall⟩

/-- A run that breaks inside a step keeps the blocks of the steps before it.
-/
theorem Shows.broke (h : Shows tools s) (hbroke : Broke s s') :
    Shows tools s' := by
  obtain ⟨calls, news, lost, hwent, hends, -⟩ := hbroke
  exact h.went hwent hends

/-- A step that ends shows what its calls came to. -/
theorem ShowsAll.ended {outcome : Option String} (h : ShowsAll tools s)
    (hstep : Stepped tools (s.did (.setStep s.step)) s' (.ok outcome)) :
    ShowsAll tools s' := by
  cases hstep with
  | ended went next hashed kept answers =>
      have hset : ShowsAll tools (s.did (.setStep s.step)) := h
      have hended := hset.went went answers
      rw [next]
      exact hended

/-- A step that breaks off shows none of its calls, or all of them. -/
theorem ShowsAll.broke {exc : Exc} (h : ShowsAll tools s)
    (hstep : Stepped tools (s.did (.setStep s.step)) s' (.error exc)) :
    Shows tools s' := by
  cases hstep with
  | @broke _ messages calls news lost front extra went cause ends answers
      dropped =>
      have hset : ShowsAll tools (s.did (.setStep s.step)) := h
      refine ⟨toolEnds (s.did (.setStep s.step)).runtime.events.lines ++ front,
        extra, ?_, ?_, ?_⟩
      · rw [went.leg.lines, toolEnds_append, ends, List.append_assoc]
      · rw [went.messages, List.flatMap_append]
        exact List.rel_append hset answers
      · intro hne
        refine (dropped hne).imp_right ?_
        rintro ⟨e, he, hcall⟩
        exact ⟨e, (went.leg.lost e).mpr (Or.inr he), hcall⟩

-- ================================================================== the run

variable {inv : Invocation ω}

/-- The loop and its handler. -/
theorem ShowsAll.tried {r : Except Exc String} (h : ShowsAll inv.tools s)
    (htry : Py.tryExcept (whileLoop inv inv.maxSteps.toNat) agentError s
      = (r, s')) : Shows inv.tools s' := by
  rcases Py.tryExcept_cases htry with ⟨outcome, hloop, -⟩
    | ⟨exc, s₁, hloop, herror⟩
  · cases whileLoop_looped (I := ShowsAll inv.tools)
      (fun hI hstep => hI.ended hstep) h hloop with
    | none zero same =>
        rw [same]
        exact h.shows
    | ended before stepped => exact (before.ended stepped).shows
  · cases whileLoop_looped (I := ShowsAll inv.tools)
      (fun hI hstep => hI.ended hstep) h hloop with
    | broke before stepped =>
        have hbroken := before.broke stepped
        rcases agentError_cases herror with ⟨-, -, hbroke⟩
          | ⟨-, news, hwent, hends⟩
        · exact hbroken.broke hbroke
        · exact hbroken.went hwent hends

/-- `agent_done` closes no call, whatever becomes of it. -/
theorem Shows.done {data : EventData} {r : Except Exc Unit}
    (h : Shows tools s) (hdone : data.type = .agentDone)
    (hemit : Frame.emit data s = (r, s')) : Shows tools s' := by
  obtain ⟨front, extra, hall, hanswers, hextra⟩ := h
  obtain ⟨e, w', hemitted, rfl, -⟩ := Frame.emit_cases hemit
  have hends : toolEnds [s.runtime.events.next data] = [] := by
    refine toolEnds_nil ?_
    intro e he
    rw [List.mem_singleton.mp he]
    show data.type ≠ _
    rw [hdone]
    exact EventType.noConfusion
  have hlines : toolEnds w'.lines = toolEnds s.runtime.events.lines := by
    cases hemitted with
    | written lasts =>
        show toolEnds (_ ++ [s.runtime.events.next data]) = _
        rw [toolEnds_append, hends, List.append_nil]
    | spent spent => rfl
    | refused lasts => rfl
    | interrupted lasts =>
        show toolEnds (_ ++ [s.runtime.events.next data]) = _
        rw [toolEnds_append, hends, List.append_nil]
  refine ⟨front, extra, hlines.trans hall, hanswers, ?_⟩
  intro hne
  refine (hextra hne).imp (mt hemitted.lasts_one) ?_
  rintro ⟨e, he, hcall⟩
  exact ⟨e, hemitted.lost_mono he, hcall⟩

/-- The run, from the first event to the last, whichever way it ends. -/
theorem run_shows {r : Except Exc EventData} (h : ShowsAll inv.tools s)
    (hrun : run inv s = (r, s')) : Shows inv.tools s' := by
  have hset : ShowsAll inv.tools (s.did (.setStep 0)) := h
  rcases run_cases hrun with ⟨exc, -, hbroke⟩ | ⟨s₁, news, hwent, hends, hrest⟩
  · exact hset.shows.broke hbroke
  have hstarted : ShowsAll inv.tools s₁ :=
    hset.went hwent (by rw [hends]; exact .nil)
  rcases hrest with ⟨exc, -, htry⟩ | ⟨outcome, s₂, htry, r', hdone, -⟩
  · exact hstarted.tried htry
  · exact (hstarted.tried htry).done rfl hdone

end

/-- The `tool_result` blocks of a run's conversation are, in order, the
images of its `tool_call_end` events; and of all of them, unless the writer
raised on the opening or the closing event of a call. -/
theorem toolResults_are_events {κ : Type} (host : Host) (workspace : Path)
    (task : Invocation (Disk × κ)) (world : Disk × κ) (clock : Clock)
    (sink : List Event → Event → Receipt)
    (unhashable : LLMResponse → Option Exc) :
    let ran := (executeInto (task.withBuiltins host workspace) world clock
      sink unhashable).2
    ∃ extra,
      ran.runtime.events.lines.filterMap (fun e => e.data.shown)
        = ran.messages.flatMap Message.shownResults ++ extra ∧
      (extra ≠ [] → ¬ ran.runtime.events.clock.Lasts 1 ∨
        ∃ e, ran.runtime.events.Lost e ∧ e.data.OfCall) := by
  intro ran
  obtain ⟨r, hrun⟩ : ∃ r, executeInto (task.withBuiltins host workspace) world
      clock sink unhashable = (r, ran) := ⟨_, rfl⟩
  clear_value ran
  have htools : ∀ tool ∈ (task.withBuiltins host workspace).tools,
      tool.cls.Agrees := fun tool htool =>
    builtins_agree host workspace κ tool.cls (buildTools_mem htool).1
  have hstart : ShowsAll (task.withBuiltins host workspace).tools
      (Frame.into (task.withBuiltins host workspace) world clock sink
        unhashable) := .nil
  obtain ⟨front, extra, hall, hanswers, hextra⟩ := run_shows hstart hrun
  refine ⟨extra.filterMap EventData.shown, ?_, ?_⟩
  · have hmessages : ran.messages.flatMap Message.shownResults
        = (ran.messages.flatMap Message.results).filterMap Block.shown := by
      rw [List.filterMap_flatMap]
      congr 1
      funext m
      exact (results_shown m).symm
    rw [hmessages, answers_shown htools hanswers, ← List.filterMap_append,
      ← hall, toolEnds_shown]
  · intro hne
    refine hextra ?_
    rintro rfl
    exact hne rfl

-- ================================================================ examples

/-- A model that asks for two tools that are not there. -/
def asksTwice : Invocation (Disk × Nat) where
  spec := (scriptedTask "scripted" []).spec
  taskId := "task-1"
  registry := []
  client :=
    { complete := fun request => Py.zoom Prod.snd
        (fun own world => (world.1, own))
        ((scriptedClient [
          { textBlocks := []
            toolUses := [⟨"tu-1", "ls", []⟩, ⟨"tu-2", "ls", []⟩]
            stopReason := "tool_use"
            inputTokens := 3
            outputTokens := 1 }]).complete request) }
  wallStart := 0
  wallEnd := 0

/-- A file that refuses to open the second of the calls. -/
def refusesSecond (_ : List Event) (e : Event) : Receipt :=
  match e.data with
  | .toolCallStart _ _ toolCallId =>
      if toolCallId = "tu-2" then
        .refused ⟨"UnicodeEncodeError", "surrogates not allowed"⟩
      else .written
  | _ => .written

def asksTwiceHost : Host where
  toPlatform := .walking 8
  shell := fun _ _ _ d => (.timeoutExpired, d)
  repr := fun _ => ""

/-- The first call is closed, and the model is not shown its result: the
second was never opened. -/
theorem toolResults_dropped :
    let ran := (executeInto (asksTwice.withBuiltins asksTwiceHost
      (Path.parse "/ws")) (.ofTree Tree.empty, 0) everyMs refusesSecond
      fun _ => none).2
    ran.messages.flatMap Message.shownResults = [] ∧
      ran.runtime.events.lines.filterMap (fun e => e.data.shown)
        = [⟨"tu-1", "Tool not available: ls", true⟩] := by
  decide +kernel

end AgentAnvil.Sdk
