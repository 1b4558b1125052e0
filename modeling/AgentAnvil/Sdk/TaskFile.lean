/-
`task.yaml` on disk: how `load_task` (`config.py`) reads a task, and what a
loaded task is dumped to by alias.

PyYAML is a parameter, with what pydantic accepts for an `int`. The values
it loads are those JSON has.
-/
import AgentAnvil.Lib.Disk
import AgentAnvil.Lib.Lines
import AgentAnvil.Lib.Utf8
import AgentAnvil.Sdk.Config
import AgentAnvil.Sdk.Pydantic

namespace AgentAnvil.Sdk

open Fs

structure YamlText where
  /-- `yaml.safe_load` -/
  safeLoad : List Char → Except Exc Json
  /-- what pydantic accepts for an `int` -/
  int : Json → Except Exc Int
  /-- `str` of the error decoding raises -/
  decodeError : List UInt8 → String

-- ===================================================== the checkpoint mode

def CheckpointMode.text : CheckpointMode → String
  | .manual => "Manual"
  | .everyStep => "EveryStep"
  | .interval => "Interval"

def CheckpointMode.all : List CheckpointMode := [.manual, .everyStep, .interval]

/-- The mode a text names, if it names one. -/
def CheckpointMode.ofText (s : String) : Option CheckpointMode :=
  CheckpointMode.all.find? fun mode => mode.text = s

/-- `CheckpointMode = Literal["Manual", "EveryStep", "Interval"]`. -/
def modeField : Json → Except Exc CheckpointMode
  | .str s =>
      match CheckpointMode.ofText s with
      | some mode => .ok mode
      | none => .error (validationError "mode")
  | _ => .error (validationError "mode")

-- ============================================================== validating

def APIKeySecretRef.modelValidate : Json → Except Exc APIKeySecretRef
  | .obj entries => do
      let name ← defaulted entries ["name"] "" (stringField "name")
      let key ← defaulted entries ["key"] "" (stringField "key")
      return { name, key }
  | _ => .error (validationError "APIKeySecretRef")

def ModelSpec.modelValidate : Json → Except Exc ModelSpec
  | .obj entries => do
      let provider ← defaulted entries ["provider"] "" (stringField "provider")
      let name ← defaulted entries ["name"] "" (stringField "name")
      let apiKeySecretRef ← defaulted entries
        ["apiKeySecretRef", "api_key_secret_ref"] none
        (optionField APIKeySecretRef.modelValidate)
      let params ← defaulted entries ["params"] [] (textsField "params")
      return { provider, name, apiKeySecretRef, params }
  | _ => .error (validationError "ModelSpec")

def WorkspaceSpec.modelValidate : Json → Except Exc WorkspaceSpec
  | .obj entries => do
      let baseImage ← defaulted entries ["baseImage", "base_image"] ""
        (stringField "baseImage")
      let initCommand ← defaulted entries ["initCommand", "init_command"] []
        (listField "initCommand" (stringField "initCommand"))
      return { baseImage, initCommand }
  | _ => .error (validationError "WorkspaceSpec")

def ResourceSpec.modelValidate : Json → Except Exc ResourceSpec
  | .obj entries => do
      let cpu ← defaulted entries ["cpu"] "" (stringField "cpu")
      let memory ← defaulted entries ["memory"] "" (stringField "memory")
      let ephemeralStorage ← defaulted entries
        ["ephemeralStorage", "ephemeral_storage"] ""
        (stringField "ephemeralStorage")
      return { cpu, memory, ephemeralStorage }
  | _ => .error (validationError "ResourceSpec")

section

variable (t : YamlText)

def ToolSpec.modelValidate : Json → Except Exc ToolSpec
  | .obj entries => do
      let name ← defaulted entries ["name"] "" (stringField "name")
      let timeoutSeconds ← defaulted entries
        ["timeoutSeconds", "timeout_seconds"] none (optionField t.int)
      return { name, timeoutSeconds }
  | _ => .error (validationError "ToolSpec")

def CheckpointPolicySpec.modelValidate :
    Json → Except Exc CheckpointPolicySpec
  | .obj entries => do
      let mode ← defaulted entries ["mode"] .manual modeField
      let intervalSeconds ← defaulted entries
        ["intervalSeconds", "interval_seconds"] none (optionField t.int)
      return { mode, intervalSeconds }
  | _ => .error (validationError "CheckpointPolicySpec")

def ReplaySpec.modelValidate : Json → Except Exc ReplaySpec
  | .obj entries => do
      let checkpointId ← defaulted entries ["checkpointId", "checkpoint_id"] ""
        (stringField "checkpointId")
      let fromStep ← defaulted entries ["fromStep", "from_step"] 0 t.int
      return { checkpointId, fromStep }
  | _ => .error (validationError "ReplaySpec")

def AgentTaskSpec.modelValidate : Json → Except Exc AgentTaskSpec
  | .obj entries => do
      let prompt ← defaulted entries ["prompt"] "" (stringField "prompt")
      let systemPrompt ← defaulted entries ["systemPrompt", "system_prompt"] ""
        (stringField "systemPrompt")
      let model ← defaulted entries ["model"] none
        (optionField ModelSpec.modelValidate)
      let tools ← defaulted entries ["tools"] []
        (listField "tools" (ToolSpec.modelValidate t))
      let workspace ← defaulted entries ["workspace"] none
        (optionField WorkspaceSpec.modelValidate)
      let timeoutSeconds ← defaulted entries
        ["timeoutSeconds", "timeout_seconds"] none (optionField t.int)
      let maxSteps ← defaulted entries ["maxSteps", "max_steps"] none
        (optionField t.int)
      let resources ← defaulted entries ["resources"] none
        (optionField ResourceSpec.modelValidate)
      let checkpointPolicy ← defaulted entries
        ["checkpointPolicy", "checkpoint_policy"] none
        (optionField (CheckpointPolicySpec.modelValidate t))
      let replay ← defaulted entries ["replay"] none
        (optionField (ReplaySpec.modelValidate t))
      return {
        prompt, systemPrompt, model, tools, workspace, timeoutSeconds,
        maxSteps, resources, checkpointPolicy, replay }
  | _ => .error (validationError "AgentTaskSpec")

end

-- ================================================================= dumping

/-- `T | None` -/
def dumpOption {α : Type} (dump : α → Json) : Option α → Json
  | some a => dump a
  | none => .null

def APIKeySecretRef.dump (ref : APIKeySecretRef) : Json :=
  .obj [("name", .str ref.name), ("key", .str ref.key)]

def ModelSpec.dump (model : ModelSpec) : Json := .obj [
  ("provider", .str model.provider),
  ("name", .str model.name),
  ("apiKeySecretRef", dumpOption APIKeySecretRef.dump model.apiKeySecretRef),
  ("params", .obj (model.params.map fun kv => (kv.1, .str kv.2)))]

def ToolSpec.dump (tool : ToolSpec) : Json :=
  .obj [("name", .str tool.name),
    ("timeoutSeconds", dumpOption Json.int tool.timeoutSeconds)]

def WorkspaceSpec.dump (workspace : WorkspaceSpec) : Json :=
  .obj [("baseImage", .str workspace.baseImage),
    ("initCommand", .arr (workspace.initCommand.map Json.str))]

def ResourceSpec.dump (resources : ResourceSpec) : Json := .obj [
  ("cpu", .str resources.cpu),
  ("memory", .str resources.memory),
  ("ephemeralStorage", .str resources.ephemeralStorage)]

def CheckpointPolicySpec.dump (policy : CheckpointPolicySpec) : Json :=
  .obj [("mode", .str policy.mode.text),
    ("intervalSeconds", dumpOption Json.int policy.intervalSeconds)]

def ReplaySpec.dump (replay : ReplaySpec) : Json :=
  .obj [("checkpointId", .str replay.checkpointId),
    ("fromStep", .int replay.fromStep)]

/-- `model_dump(by_alias=True)`. -/
def AgentTaskSpec.dump (spec : AgentTaskSpec) : Json := .obj [
  ("prompt", .str spec.prompt),
  ("systemPrompt", .str spec.systemPrompt),
  ("model", dumpOption ModelSpec.dump spec.model),
  ("tools", .arr (spec.tools.map ToolSpec.dump)),
  ("workspace", dumpOption WorkspaceSpec.dump spec.workspace),
  ("timeoutSeconds", dumpOption Json.int spec.timeoutSeconds),
  ("maxSteps", dumpOption Json.int spec.maxSteps),
  ("resources", dumpOption ResourceSpec.dump spec.resources),
  ("checkpointPolicy", dumpOption CheckpointPolicySpec.dump
    spec.checkpointPolicy),
  ("replay", dumpOption ReplaySpec.dump spec.replay)]

-- ================================================================= loading

/-- `type(raw).__name__`. -/
def typeName : Json → String
  | .null => "NoneType"
  | .bool _ => "bool"
  | .int _ => "int"
  | .float _ => "float"
  | .str _ => "str"
  | .arr _ => "list"
  | .obj _ => "dict"

/-- The spec of a task that is given in the full CRD form. -/
def specOf (raw : List (String × Json)) : Json :=
  match raw.lookup "apiVersion", raw.lookup "spec" with
  | some _, some spec => spec
  | _, _ => .obj raw

/-- The task in a file of these bytes. -/
def parseTask (t : YamlText) (bytes : List UInt8) :
    Except Exc AgentTaskSpec :=
  match Utf8.decode bytes with
  | none => .error ⟨"UnicodeDecodeError", t.decodeError bytes⟩
  | some text => do
      match ← t.safeLoad (Lines.universalNewlines text) with
      | .obj raw => AgentTaskSpec.modelValidate t (specOf raw)
      | raw => .error ⟨"ValueError",
          "task.yaml root must be a mapping, got " ++ typeName raw⟩

def loadTask (t : YamlText) (path : Location) : Py Disk AgentTaskSpec := do
  let bytes ← readBytes path
  Py.ofExcept (parseTask t bytes)

end AgentAnvil.Sdk
