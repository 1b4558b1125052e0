/-
The entry point (`__main__.py`): how a run is set up from the environment,
the command line and what is on the disk, in the container of a pod or
outside one.

`argparse` is left out: the options that were given are what `main` starts
from. So is logging. `Installation` is what it runs on: the host, the
parsers and the provider's SDK, and the clocks.

`Process` is what it acts on. The lines of the trace go through the handle
of its file and are kept with it, not on the disk; that a tool reads the
file, or writes to it, while it is open is left out, and so is that the
file refuses a line. Directories are made where their paths are resolved
to, so that a link to nothing is in the place of one is left out, and so are
directories that are missing before a `..`.
-/
import AgentAnvil.Sdk.Anthropic
import AgentAnvil.Sdk.Builtins
import AgentAnvil.Sdk.Loop
import AgentAnvil.Sdk.TaskFile

namespace AgentAnvil.Sdk

open Fs

-- ============================================================ what is given

def DEFAULT_TASK_PATH : String := "/etc/agent-anvil/task.yaml"

def DEFAULT_TRACE_DIR : String := "/var/log/agent-anvil"

def DEFAULT_WORKSPACE : String := "/workspace"

/-- `os.environ`. -/
abbrev Environ := List (String × String)

/-- The options of the command line, as far as they were given. -/
structure Options where
  task : Option String
  traceDir : Option String
  workspace : Option String
  taskId : Option String
  provider : Option String
  echoEvents : Bool

def Options.none : Options where
  task := .none
  traceDir := .none
  workspace := .none
  taskId := .none
  provider := .none
  echoEvents := false

/-- What `parse_args` returns. -/
structure Args where
  task : String
  traceDir : String
  workspace : String
  taskId : String
  provider : Option String
  echoEvents : Bool

/-- `text.lower() in ("1", "true", "yes")`. -/
def isSwitchedOn (text : String) : Bool :=
  (["1", "true", "yes"].map String.toList).contains
    (text.toList.map Char.toLower)

/-- Each option, or its default, which may be set in the environment. -/
def parseArgs (environ : Environ) (options : Options) : Args where
  task := options.task.getD
    ((environ.lookup "AGENT_ANVIL_TASK_FILE").getD DEFAULT_TASK_PATH)
  traceDir := options.traceDir.getD
    ((environ.lookup "AGENT_ANVIL_TRACE_DIR").getD DEFAULT_TRACE_DIR)
  workspace := options.workspace.getD
    ((environ.lookup "AGENT_ANVIL_WORKSPACE").getD DEFAULT_WORKSPACE)
  taskId := options.taskId.getD
    ((environ.lookup "AGENT_ANVIL_TASK_ID").getD "local-task")
  provider := options.provider.or (environ.lookup "AGENT_ANVIL_PROVIDER")
  echoEvents := options.echoEvents || isSwitchedOn
    ((environ.lookup "AGENT_ANVIL_ECHO_EVENTS").getD "")

structure Installation (κ φ : Type) where
  host : Host
  yaml : YamlText
  /-- `Anthropic(api_key=key)` -/
  anthropic : String → Except Exc (AnthropicApi (Disk × κ) φ)
  /-- what the system clock reads -/
  wall : Nat → String
  mono : Nat → Int
  /-- the two readings of `time.time()` -/
  wallStart : Rat
  wallEnd : Rat

def Installation.clock {κ φ : Type} (inst : Installation κ φ) : Clock :=
  .system inst.wall inst.mono 0

-- ============================================================= the process

/-- An events file that was opened, and what was written to it. -/
structure TraceFile where
  /-- where it was opened -/
  path : Location
  /-- what was in it when it was opened -/
  before : List UInt8
  lines : List Event

/-- The world the tools and the client share, the trace once it is open,
and the output. -/
structure Process (κ : Type) where
  disk : Disk
  /-- the client's own state -/
  client : κ
  trace : Option TraceFile
  stdout : List Event
  stderr : List String

def onDisk {κ α : Type} (m : Py Disk α) : Py (Process κ) α :=
  Py.zoom Process.disk (fun disk p => { p with disk }) m

-- =================================================================== paths

/-- The file a path leads to, if `path.is_file()`. -/
def fileAt (p : Platform) (path : Path) : Py Disk (Option Location) := do
  sysCall
  let d ← Py.get
  match p.resolve d.tree path with
  | .ok q => return if isRegular (d.tree.node q) then some q else none
  | .error _ => return none

/-- `path.mkdir(parents=True, exist_ok=True)`: the directory it is at. -/
def mkdirAt (p : Platform) (path : Path) : Py Disk Location := do
  let q ← p.resolved path
  mkdirs q
  return q

/-- `str(path)`. -/
def pathText (path : Path) : String :=
  match path.root with
  | .relative => relativeText path.parts
  | .slash => absoluteText path.parts
  | .slashes => "/" ++ absoluteText path.parts

-- ============================================================== the client

section

variable {κ φ : Type} (inst : Installation κ φ) (environ : Environ)

def makeClient (provider model : String) (apiKey : Option String) :
    Except Exc (LLMClient (Disk × κ)) :=
  if provider = "mock" then .ok (echoClient inst.host.repr)
  else if provider = "anthropic" then
    AnthropicClient.new inst.anthropic (environ.lookup "ANTHROPIC_API_KEY")
      model apiKey
  else .error ⟨"ValueError", "Unknown provider: " ++ provider⟩

def readApiKey (apiKeyFile : Option String) : Py Disk (Option String) := do
  match apiKeyFile.filter (· ≠ "") with
  | none => return environ.lookup "ANTHROPIC_API_KEY"
  | some file =>
      match ← fileAt inst.host.toPlatform (Path.parse file) with
      | none => return environ.lookup "ANTHROPIC_API_KEY"
      | some q => do
          let bytes ← readBytes q
          match Utf8.decode bytes with
          | some text => return some (String.ofList
              (Lines.strip (Lines.universalNewlines text)))
          | none => do
              let text := inst.host.decodeError bytes
              Py.raise ⟨"UnicodeDecodeError", text⟩

end

-- ================================================================ the main

/-- `args.provider or (spec.model.provider if spec.model else "mock")`. -/
def providerOf (args : Args) (spec : AgentTaskSpec) : String :=
  (args.provider.filter (· ≠ "")).getD
    ((spec.model.map ModelSpec.provider).getD "mock")

def modelOf (spec : AgentTaskSpec) : String :=
  (spec.model.map ModelSpec.name).getD "scripted"

/-- `trace_dir / "events.jsonl"`. -/
def Args.eventsPath (args : Args) : Path :=
  (Path.parse args.traceDir).join (Path.parse "events.jsonl")

/-- The location of the events file, if a link in its place leads to one. -/
def followEvents (p : Platform) (args : Args) (traceDir : Location)
    (t : Tree) : Option Location :=
  match t.node (traceDir ++ ["events.jsonl"]) with
  | some (.link _) => (p.resolve t args.eventsPath).toOption
  | _ => some (traceDir ++ ["events.jsonl"])

/-- `events_path.exists()`: a link that leads to nothing does not. -/
def eventsExist (p : Platform) (args : Args) (traceDir : Location) :
    Py Disk Bool := do
  sysCall
  let d ← Py.get
  return ((followEvents p args traceDir d.tree).bind d.tree.node).isSome

/-- A fresh events file: none is left of an earlier run. A link is unlinked
itself. -/
def clearEvents (p : Platform) (args : Args) (traceDir : Location) :
    Py Disk Unit := do
  if ← eventsExist p args traceDir then unlink (traceDir ++ ["events.jsonl"])
  else return ()

/-- `EventWriter(events_path, ...)`: where the file is that it opens, and
what is in it. A link is followed, and its target made if need be. -/
def openEvents (p : Platform) (args : Args) :
    Py Disk (Location × List UInt8) := do
  let traceDir ← mkdirAt p (Path.parse args.traceDir)
  let d ← Py.get
  match followEvents p args traceDir d.tree with
  | some target => do
      let before ← openAppend target
      return (target, before)
  | none => orFail (traceDir ++ ["events.jsonl"]) (.error .tooManyLinks)

section

variable {κ φ : Type} (inst : Installation κ φ) (environ : Environ)

/-- What `run` is given. -/
def invocationOf (args : Args) (spec : AgentTaskSpec)
    (client : LLMClient (Disk × κ)) : Invocation (Disk × κ) where
  spec := spec
  taskId := args.taskId
  registry := (builtins inst.host (Path.parse args.workspace)).map
    (ToolClass.beside κ)
  client := client
  wallStart := inst.wallStart
  wallEnd := inst.wallEnd

/-- The with block: the run, and its events in the file and on `stdout`. -/
def traced (inv : Invocation (Disk × κ)) (path : Location)
    (before : List UInt8) (echo : Bool) : Py (Process κ) EventData :=
  fun p =>
    let ran := execute inv (p.disk, p.client) inst.clock
    let lines := ran.2.runtime.events.lines
    (ran.1, { p with
      disk := ran.2.runtime.world.1
      client := ran.2.runtime.world.2
      trace := some ⟨path, before, lines⟩
      stdout := p.stdout ++ if echo then lines else [] })

/-- Everything before the with block: what `run` is given, and where the
events go. -/
def prepare (args : Args) (taskPath : Location) :
    Py Disk (Invocation (Disk × κ) × Location × List UInt8) := do
  let spec ← loadTask inst.yaml taskPath
  let apiKey ← readApiKey inst environ
    (environ.lookup "AGENT_ANVIL_API_KEY_FILE")
  let _ ← mkdirAt inst.host.toPlatform (Path.parse args.workspace)
  let traceDir ← mkdirAt inst.host.toPlatform (Path.parse args.traceDir)
  clearEvents inst.host.toPlatform args traceDir
  let client ← Py.ofExcept (makeClient inst environ (providerOf args spec)
    (modelOf spec) apiKey)
  let (path, before) ← openEvents inst.host.toPlatform args
  return (invocationOf inst args spec client, path, before)

/-- What `main` does with a task that is there. -/
def runTask (args : Args) (taskPath : Location) : Py (Process κ) Int := do
  let (inv, path, before) ← onDisk (prepare inst environ args taskPath)
  let _ ← traced inst inv path before args.echoEvents
  return 0

/-- `main(argv)`: the exit code. -/
def main (options : Options) : Py (Process κ) Int := do
  let args := parseArgs environ options
  match ← onDisk (fileAt inst.host.toPlatform (Path.parse args.task)) with
  | none => do
      Py.modify fun p => { p with stderr := p.stderr
        ++ ["task.yaml not found: " ++ pathText (Path.parse args.task)] }
      return 1
  | some taskPath => runTask inst environ args taskPath

end

end AgentAnvil.Sdk
