/-
An AgentTaskSpec as JSON: what `yaml.Marshal` writes of it, by its JSON
tags, and the CRD schema that admits it
(`config/crd/bases/agenttasks.agentanvil.com_agenttasks.yaml`).

The keys of an object are in the order in which they are written, which is
sorted; a map is the list of its entries in that order. A nil slice of tools
is marshalled as null, which the schema does not admit; a spec here has a
list of them.
-/
import AgentAnvil.Lib.JsonFields
import AgentAnvil.Operator.Types

namespace AgentAnvil.Operator

-- ============================================================= marshalling

/-- A string tagged `omitempty`. -/
def omitEmpty (s : String) : Option Json :=
  if s = "" then none else some (.str s)

/-- A pointer that is not tagged `omitempty`. -/
def orNull {α : Type} (json : α → Json) : Option α → Json
  | some a => json a
  | none => .null

def APIKeySecretRef.json (ref : APIKeySecretRef) : Json :=
  .obj (Json.present [("key", omitEmpty ref.key), ("name", omitEmpty ref.name)])

def ModelSpec.paramsJson (params : List (String × String)) : Json :=
  .obj (params.map fun kv => (kv.1, .str kv.2))

def ModelSpec.json (model : ModelSpec) : Json :=
  .obj (Json.present [
    ("apiKeySecretRef", model.apiKeySecretRef.map APIKeySecretRef.json),
    ("name", omitEmpty model.name),
    ("params",
      if model.params = [] then none else some (paramsJson model.params)),
    ("provider", omitEmpty model.provider)])

def ToolSpec.json (tool : ToolSpec) : Json :=
  .obj (Json.present [("name", omitEmpty tool.name),
    ("timeoutSeconds", tool.timeoutSeconds.map Json.int)])

def WorkspaceSpec.json (workspace : WorkspaceSpec) : Json :=
  .obj (Json.present [("baseImage", omitEmpty workspace.baseImage),
    ("initCommand",
      if workspace.initCommand = [] then none
      else some (.arr (workspace.initCommand.map Json.str)))])

/-- `omitempty` leaves no struct out, so a quantity is always written. -/
def ResourceSpec.json (resources : ResourceSpec) : Json :=
  .obj (Json.present [("cpu", some (.str resources.cpu)),
    ("ephemeralStorage", some (.str resources.ephemeralStorage)),
    ("memory", some (.str resources.memory))])

def CheckpointMode.text : CheckpointMode → String
  | .manual => "Manual"
  | .everyStep => "EveryStep"
  | .interval => "Interval"
  | .other text => text

def CheckpointPolicySpec.json (policy : CheckpointPolicySpec) : Json :=
  .obj (Json.present [
    ("intervalSeconds", some (orNull Json.int policy.intervalSeconds)),
    ("mode", some (.str policy.mode.text))])

def ReplaySpec.json (replay : ReplaySpec) : Json :=
  .obj (Json.present [("checkpointId", omitEmpty replay.checkpointID),
    ("fromStep",
      if replay.fromStep = 0 then none else some (.int replay.fromStep))])

def AgentTaskSpec.json (spec : AgentTaskSpec) : Json :=
  .obj (Json.present [
    ("checkpointPolicy", spec.checkpointPolicy.map CheckpointPolicySpec.json),
    ("maxSteps", spec.maxSteps.map Json.int),
    ("model", some (orNull ModelSpec.json spec.model)),
    ("prompt", some (.str spec.prompt)),
    ("replay", spec.replay.map ReplaySpec.json),
    ("resources", spec.resources.map ResourceSpec.json),
    ("systemPrompt", some (.str spec.systemPrompt)),
    ("timeoutSeconds", spec.timeoutSeconds.map Json.int),
    ("tools", some (.arr (spec.tools.map ToolSpec.json))),
    ("workspace", spec.workspace.map WorkspaceSpec.json)])

-- =============================================================== the schema

/-- The kinds of schema the CRD uses. -/
inductive Schema where
  | string
  /-- `format: int64` -/
  | integer
  /-- an integer, or a string of the pattern of quantities -/
  | quantity
  | array (items : Schema)
  /-- `additionalProperties` -/
  | map (values : Schema)
  | object (required : List String) (properties : List (String × Schema))

/-- What is left after `([0-9]+(\.[0-9]*)?)|(\.[0-9]+)`. -/
def afterNumber (cs : List Char) : Option (List Char) :=
  match cs.takeWhile Char.isDigit, cs.dropWhile Char.isDigit with
  | [], '.' :: rest =>
      if (rest.takeWhile Char.isDigit).isEmpty then none
      else some (rest.dropWhile Char.isDigit)
  | [], _ => none
  | _, '.' :: rest => some (rest.dropWhile Char.isDigit)
  | _, rest => some rest

def afterSign : List Char → List Char
  | '+' :: cs => cs
  | '-' :: cs => cs
  | cs => cs

/-- `(([KMGTPE]i)|[numkMGTPE]|([eE](\+|-)?…))?` -/
def isQuantitySuffix : List Char → Bool
  | [] => true
  | [c] => ['n', 'u', 'm', 'k', 'M', 'G', 'T', 'P', 'E'].contains c
  | c :: cs =>
      (['K', 'M', 'G', 'T', 'P', 'E'].contains c && decide (cs = ['i']))
        || (['e', 'E'].contains c
          && decide (afterNumber (afterSign cs) = some []))

/-- The pattern of quantities. -/
def isQuantity (cs : List Char) : Bool :=
  (afterNumber (afterSign cs)).any isQuantitySuffix

mutual

/-- Whether a value is valid under a schema. An unknown field is pruned. -/
def Schema.admits : Schema → Json → Bool
  | .string, .str _ => true
  | .integer, .int n => decide (-2 ^ 63 ≤ n ∧ n < 2 ^ 63)
  | .quantity, .int _ => true
  | .quantity, .str s => isQuantity s.toList
  | .array items, .arr xs => xs.all items.admits
  | .map values, .obj kvs => kvs.all fun kv => values.admits kv.2
  | .object required properties, .obj kvs =>
      required.all (fun key => (kvs.lookup key).isSome)
        && Schema.admitsAll properties kvs
  | _, _ => false

def Schema.admitsAll :
    List (String × Schema) → List (String × Json) → Bool
  | [], _ => true
  | (key, schema) :: properties, kvs =>
      (kvs.lookup key).all schema.admits && Schema.admitsAll properties kvs

end

/-- `spec` in the schema of the CRD. -/
def specSchema : Schema :=
  .object ["model", "prompt", "systemPrompt", "tools"] [
    ("checkpointPolicy", .object ["intervalSeconds", "mode"] [
      ("intervalSeconds", .integer), ("mode", .string)]),
    ("maxSteps", .integer),
    ("model", .object [] [
      ("apiKeySecretRef", .object [] [("key", .string), ("name", .string)]),
      ("name", .string),
      ("params", .map .string),
      ("provider", .string)]),
    ("prompt", .string),
    ("replay", .object [] [
      ("checkpointId", .string), ("fromStep", .integer)]),
    ("resources", .object [] [
      ("cpu", .quantity), ("ephemeralStorage", .quantity),
      ("memory", .quantity)]),
    ("systemPrompt", .string),
    ("timeoutSeconds", .integer),
    ("tools", .array (.object [] [
      ("name", .string), ("timeoutSeconds", .integer)])),
    ("workspace", .object [] [
      ("baseImage", .string), ("initCommand", .array .string)])]

/-- The API server takes a spec as valid. -/
def AgentTaskSpec.Admitted (spec : AgentTaskSpec) : Prop :=
  specSchema.admits spec.json = true

instance (spec : AgentTaskSpec) : Decidable spec.Admitted :=
  inferInstanceAs (Decidable (_ = _))

/-- The schema restricts no mode. -/
theorem admitted_withMode (spec : AgentTaskSpec)
    (policy : CheckpointPolicySpec) (mode : CheckpointMode) :
    { spec with checkpointPolicy := some { policy with mode } }.Admitted
      ↔ { spec with checkpointPolicy := some policy }.Admitted :=
  Iff.rfl

end AgentAnvil.Operator
