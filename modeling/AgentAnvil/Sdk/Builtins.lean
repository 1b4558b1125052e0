/-
The built-in tools: `bash` (`tools/bash.py`), `web_search`
(`tools/web_search.py`), the class attributes of the file tools, and the
registry (`tools/registry.py`).

What `subprocess.run` does with a command is the host's to say, as is how
Python writes a value (`repr`). The world of the tools is a disk; a client
may keep a state of its own beside it.
-/
import AgentAnvil.Sdk.FileTools

namespace AgentAnvil.Sdk

open Fs

-- ==================================================== the class attributes

/-- A property of an input schema. -/
def property (type description : String) : Json :=
  .obj [("type", .str type), ("description", .str description)]

def lineNumber (description : String) : Json :=
  .obj [("type", .str "integer"), ("minimum", .int 1),
    ("description", .str description)]

def inputSchema (properties : List (String × Json)) (required : List String) :
    Json :=
  .obj [("type", .str "object"), ("properties", .obj properties),
    ("required", .arr (required.map .str))]

def pathProperty : Json := property "string" "Workspace-relative file path."

namespace FileReadTool

def description : String :=
  "Read a file from the workspace. Returns lines prefixed with their "
    ++ "1-indexed line numbers, suitable for referencing in file_edit. "
    ++ "Optionally read only a line range with start_line/end_line."

def inputSchema : Json :=
  Sdk.inputSchema
    [("path", pathProperty),
      ("start_line",
        lineNumber "1-indexed first line to read (inclusive). Default: 1."),
      ("end_line",
        lineNumber "1-indexed last line to read (inclusive). Default: EOF.")]
    ["path"]

end FileReadTool

namespace FileWriteTool

def description : String :=
  "Write a file in the workspace. Creates parent directories as needed. "
    ++ "Overwrites any existing content."

def inputSchema : Json :=
  Sdk.inputSchema
    [("path", pathProperty),
      ("content", property "string" "Full file content to write.")]
    ["path", "content"]

end FileWriteTool

namespace FileEditTool

def description : String :=
  "Replace lines in a file with new content. Line numbers are 1-indexed "
    ++ "and the range is inclusive on both ends. Pass new_content='' to "
    ++ "delete the range. Append to EOF by setting start_line to (current "
    ++ "line count + 1)."

def inputSchema : Json :=
  Sdk.inputSchema
    [("path", pathProperty),
      ("start_line",
        lineNumber "1-indexed first line to replace (inclusive)."),
      ("end_line", lineNumber "1-indexed last line to replace (inclusive)."),
      ("new_content",
        property "string"
          "Replacement text. May be empty to delete the range.")]
    ["path", "start_line", "end_line", "new_content"]

end FileEditTool

namespace FileTool

def name : FileTool → String
  | read => FileReadTool.name
  | write => FileWriteTool.name
  | edit => FileEditTool.name

def description : FileTool → String
  | read => FileReadTool.description
  | write => FileWriteTool.description
  | edit => FileEditTool.description

def inputSchema : FileTool → Json
  | read => FileReadTool.inputSchema
  | write => FileWriteTool.inputSchema
  | edit => FileEditTool.inputSchema

/-- The tool as a class, in a workspace. -/
def cls (p : Platform) (workspace : Path) (tool : FileTool) :
    ToolClass Disk where
  name := tool.name
  description := tool.description
  inputSchema := tool.inputSchema
  _run _ args d := asToolRun (tool._run p workspace args) d

end FileTool

-- ==================================================================== host

/-- What comes of `subprocess.run`. -/
inductive ShellOutcome where
  | completed (returncode : Int) (stdout stderr : String)
  | timeoutExpired
  | raised (exc : Exc)

structure Host extends Platform where
  /-- `subprocess.run` of a command in a directory under a timeout -/
  shell : Path → Int → String → Disk → ShellOutcome × Disk
  /-- `repr` -/
  repr : Json → String

-- ==================================================================== bash

namespace BashTool

def name : String := "bash"

def description : String :=
  "Run a shell command in the agent workspace. Returns combined stdout and "
    ++ "stderr along with the exit code. Long-running commands are killed at "
    ++ "the configured timeout."

def inputSchema : Json :=
  Sdk.inputSchema
    [("command",
      property "string" "Shell command to execute. Runs under /bin/sh.")]
    ["command"]

/-- Both streams in one text. -/
def combined (out err : String) : String :=
  if err = "" then out
  else if out = "" then err
  else out ++ "\n[stderr]\n" ++ err

/-- The result of a command. -/
def result (timeoutSeconds : Int) : ShellOutcome → Except Exc ToolResult
  | .completed returncode stdout stderr => .ok
      { content := combined stdout stderr
        exitCode := returncode
        isError := returncode ≠ 0
        truncated := false }
  | .timeoutExpired => .ok
      { content := "bash: command timed out after " ++ toString timeoutSeconds
          ++ "s"
        exitCode := 124
        isError := true
        truncated := false }
  | .raised exc =>
      if exc.type = "FileNotFoundError" then .ok
        { content := "bash: " ++ exc.message
          exitCode := 127
          isError := true
          truncated := false }
      else .error exc

def _run (host : Host) (workspace : Path) (timeoutSeconds : Int)
    (args : List (String × Json)) (d : Disk) : ToolRun Disk :=
  match (stringArgument args "command").filter
      (fun command => Lines.strip command.toList ≠ []) with
  | none =>
      { mutations := []
        outcome :=
          .ok (refused "bash: missing or empty 'command' argument").2
        world := d }
  | some command =>
      let ran := host.shell workspace timeoutSeconds command d
      { mutations := []
        outcome := result timeoutSeconds ran.1
        world := ran.2 }

def cls (host : Host) (workspace : Path) : ToolClass Disk where
  name := name
  description := description
  inputSchema := inputSchema
  _run := _run host workspace

end BashTool

-- ============================================================== web_search

namespace WebSearchTool

def name : String := "web_search"

def description : String :=
  "Search the web. NOTE: this is a stub in v1 of Agent-Anvil; real "
    ++ "results require the recording proxy (planned for Phase 2A). Avoid "
    ++ "depending on this tool's output."

def inputSchema : Json :=
  Sdk.inputSchema [("query", property "string" "Search query.")] ["query"]

def _run (host : Host) (args : List (String × Json)) (d : Disk) :
    ToolRun Disk :=
  let query := (args.lookup "query").getD (.str "")
  { mutations := []
    outcome := .ok (succeeded []
      ("web_search is not implemented in v1; query was: "
        ++ host.repr query)).2
    world := d }

def cls (host : Host) : ToolClass Disk where
  name := name
  description := description
  inputSchema := inputSchema
  _run _ := _run host

end WebSearchTool

-- ================================================================ registry

/-- The classes of `_registry()`. -/
def builtins (host : Host) (workspace : Path) : List (ToolClass Disk) :=
  [BashTool.cls host workspace,
    FileTool.read.cls host.toPlatform workspace,
    FileTool.write.cls host.toPlatform workspace,
    FileTool.edit.cls host.toPlatform workspace,
    WebSearchTool.cls host]

/-- A class in a world that has more in it than the disk. -/
def ToolClass.beside (κ : Type) (cls : ToolClass Disk) :
    ToolClass (Disk × κ) where
  name := cls.name
  description := cls.description
  inputSchema := cls.inputSchema
  _run timeoutSeconds args world :=
    let ran := cls._run timeoutSeconds args world.1
    { mutations := ran.mutations
      outcome := ran.outcome
      world := (ran.world, world.2) }

end AgentAnvil.Sdk
