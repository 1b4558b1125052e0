/-
Tools: the base class and the registry (`tools/base.py`,
`tools/registry.py`).

What a tool does is what can be seen of it: the `file_mutation` events it
emits, the result it returns or the exception it raises, and the world it
leaves. It writes before it emits, so an emit that raises leaves the same
world, and the exception is the tool's. No built-in tool reads the clock
of its context.
-/
import AgentAnvil.Sdk.Client
import AgentAnvil.Sdk.Config
import AgentAnvil.Sdk.Events

namespace AgentAnvil.Sdk

/-- What the client, the tools and the loop act on. The event writer and
the loop share one clock, the writer's. -/
structure Runtime (ω : Type) where
  events : EventWriter EventData
  world : ω

namespace Runtime

variable {ω α : Type}

def onEvents (m : Py (EventWriter EventData) α) : Py (Runtime ω) α :=
  Py.zoom Runtime.events (fun events rt => { rt with events }) m

def emit (data : EventData) : Py (Runtime ω) Unit := do
  let _ ← onEvents (EventWriter.emit data.type data)

def monotonicNs : Py (Runtime ω) Int :=
  onEvents (EventWriter.onClock Clock.monotonicNs)

end Runtime

-- ================================================================= tools

structure ToolResult where
  content : String
  exitCode : Int
  isError : Bool
  truncated : Bool
  deriving DecidableEq, Repr

/-- The `data` of a `file_mutation` event. -/
structure FileMutation where
  path : String
  operation : String
  sizeBefore : Nat
  sizeAfter : Nat
  hashAfter : String
  deriving DecidableEq, Repr

def FileMutation.data (m : FileMutation) : EventData :=
  .fileMutation m.path m.operation m.sizeBefore m.sizeAfter m.hashAfter

/-- What one call of `_run` does. -/
structure ToolRun (ω : Type) where
  mutations : List FileMutation
  outcome : Except Exc ToolResult
  world : ω

/-- A tool class: its class attributes, and `_run` under a timeout. -/
structure ToolClass (ω : Type) where
  name : String
  description : String
  inputSchema : Json
  _run : Int → List (String × Json) → ω → ToolRun ω

structure Tool (ω : Type) where
  cls : ToolClass ω
  timeoutSeconds : Int

variable {ω : Type}

def Tool.schema (tool : Tool ω) : ToolSchema where
  name := tool.cls.name
  description := tool.cls.description
  inputSchema := tool.cls.inputSchema

def MAX_INLINE_RESULT_BYTES : Nat := 64 * 1024

/-- The first bytes of a text, decoded with `errors="replace"`: the
characters that fit, and a replacement character for one that is cut. -/
def decodeHead : Nat → List Char → List Char
  | _, [] => []
  | room, c :: cs =>
      if c.utf8Size ≤ room then c :: decodeHead (room - c.utf8Size) cs
      else if room = 0 then []
      else [Char.ofNat 0xfffd]

/-- What `Tool.run` does to the result of `_run`. -/
def ToolResult.clamp (result : ToolResult) : ToolResult :=
  if MAX_INLINE_RESULT_BYTES < result.content.utf8ByteSize then
    { result with
      content :=
        String.ofList
            (decodeHead MAX_INLINE_RESULT_BYTES result.content.toList)
          ++ "\n[truncated]"
      truncated := true }
  else result

@[simp] theorem ToolResult.clamp_isError (result : ToolResult) :
    result.clamp.isError = result.isError := by
  unfold ToolResult.clamp
  split <;> rfl

@[simp] theorem ToolResult.clamp_exitCode (result : ToolResult) :
    result.clamp.exitCode = result.exitCode := by
  unfold ToolResult.clamp
  split <;> rfl

def emitMutations : List FileMutation → Py (Runtime ω) Unit
  | [] => return ()
  | m :: ms => do
      Runtime.emit m.data
      emitMutations ms

def Tool.run (tool : Tool ω) (args : List (String × Json)) :
    Py (Runtime ω) ToolResult := do
  let ran := tool.cls._run tool.timeoutSeconds args (← Py.get).world
  Py.modify fun rt => { rt with world := ran.world }
  emitMutations ran.mutations
  match ran.outcome with
  | .error exc => Py.raise exc
  | .ok result => return result.clamp

-- ============================================================== registry

/-- The tools of a task; one the registry does not know is skipped. -/
def buildTools (registry : List (ToolClass ω)) (specs : List ToolSpec) :
    List (Tool ω) :=
  specs.filterMap fun spec =>
    (registry.find? fun cls => cls.name = spec.name).map fun cls =>
      { cls, timeoutSeconds := spec.timeoutSeconds.getD 60 }

/-- `{t.name: t for t in tools}.get(name)`: a later tool of the same name
replaces an earlier one. -/
def toolMap (tools : List (Tool ω)) (name : String) : Option (Tool ω) :=
  tools.reverse.find? fun t => t.cls.name = name

section

variable {registry : List (ToolClass ω)} {specs : List ToolSpec}
  {tools : List (Tool ω)} {tool : Tool ω}

/-- Every tool of a task is one of the registry's classes, under the name
and the timeout the task lists it with. -/
theorem buildTools_mem (h : tool ∈ buildTools registry specs) :
    tool.cls ∈ registry ∧ ∃ spec ∈ specs, spec.name = tool.cls.name
      ∧ tool.timeoutSeconds = spec.timeoutSeconds.getD 60 := by
  obtain ⟨spec, hspec, hbuilt⟩ := List.mem_filterMap.mp h
  obtain ⟨cls, hcls, rfl⟩ := Option.map_eq_some_iff.mp hbuilt
  have hname : cls.name = spec.name := by
    simpa using List.find?_some hcls
  exact ⟨List.mem_of_find?_eq_some hcls, spec, hspec, hname.symm, rfl⟩

/-- The tool of a name is one of the tools, and has that name. -/
theorem toolMap_mem {name : String} (h : toolMap tools name = some tool) :
    tool ∈ tools ∧ tool.cls.name = name := by
  refine ⟨List.mem_reverse.mp (List.mem_of_find?_eq_some h), ?_⟩
  simpa using List.find?_some h

end

end AgentAnvil.Sdk
