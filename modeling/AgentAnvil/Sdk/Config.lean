/-
The task as the SDK loads it (`config.py`).

The field names are those of the Python models; `TaskFile` has the aliases
under which they are in `task.yaml`.
-/
namespace AgentAnvil.Sdk

structure APIKeySecretRef where
  name : String
  key : String
  deriving DecidableEq, Repr

structure ModelSpec where
  provider : String
  name : String
  apiKeySecretRef : Option APIKeySecretRef
  params : List (String × String)
  deriving DecidableEq, Repr

structure ToolSpec where
  name : String
  timeoutSeconds : Option Int
  deriving DecidableEq, Repr

structure WorkspaceSpec where
  baseImage : String
  initCommand : List String
  deriving DecidableEq, Repr

structure ResourceSpec where
  cpu : String
  memory : String
  ephemeralStorage : String
  deriving DecidableEq, Repr

/-- The three values the `Literal` admits. -/
inductive CheckpointMode where
  | manual
  | everyStep
  | interval
  deriving DecidableEq, Repr

structure CheckpointPolicySpec where
  mode : CheckpointMode
  intervalSeconds : Option Int
  deriving DecidableEq, Repr

structure ReplaySpec where
  checkpointId : String
  fromStep : Int
  deriving DecidableEq, Repr

structure AgentTaskSpec where
  prompt : String
  systemPrompt : String
  model : Option ModelSpec
  tools : List ToolSpec
  workspace : Option WorkspaceSpec
  timeoutSeconds : Option Int
  maxSteps : Option Int
  resources : Option ResourceSpec
  checkpointPolicy : Option CheckpointPolicySpec
  replay : Option ReplaySpec
  deriving DecidableEq, Repr

end AgentAnvil.Sdk
