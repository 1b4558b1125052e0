/-
The spec an operator writes, loaded by the SDK.

Record by record, what `load_task` makes of the JSON of a Go value is the
value itself (`ofGo`, the lemmas `modelValidate_json`), and dumping it
contains what was written (`within_dump`). The one field whose accepted
values differ is the mode of the checkpoint policy: the schema admits any
string (`admitted_withMode`), the `Literal` three.
-/
import AgentAnvil.Operator.SpecJson
import AgentAnvil.Operator.System
import AgentAnvil.Sdk.TaskFile

namespace AgentAnvil.Sdk

open Fs

-- ==================================================== statement vocabulary

/-- What `yaml.Marshal` writes of a spec is read by PyYAML as the spec's
JSON value. -/
def YamlAgrees (env : Operator.Env) (t : YamlText)
    (spec : Operator.AgentTaskSpec) : Prop :=
  ∃ bytes text, env.yamlMarshal spec = some bytes ∧
    Utf8.decode bytes = some text ∧
    t.safeLoad (Lines.universalNewlines text) = .ok spec.json

def APIKeySecretRef.ofGo (ref : Operator.APIKeySecretRef) :
    APIKeySecretRef where
  name := ref.name
  key := ref.key

def ModelSpec.ofGo (model : Operator.ModelSpec) : ModelSpec where
  provider := model.provider
  name := model.name
  apiKeySecretRef := model.apiKeySecretRef.map APIKeySecretRef.ofGo
  params := model.params

def ToolSpec.ofGo (tool : Operator.ToolSpec) : ToolSpec where
  name := tool.name
  timeoutSeconds := tool.timeoutSeconds

def WorkspaceSpec.ofGo (workspace : Operator.WorkspaceSpec) :
    WorkspaceSpec where
  baseImage := workspace.baseImage
  initCommand := workspace.initCommand

def ResourceSpec.ofGo (resources : Operator.ResourceSpec) :
    ResourceSpec where
  cpu := resources.cpu
  memory := resources.memory
  ephemeralStorage := resources.ephemeralStorage

def ReplaySpec.ofGo (replay : Operator.ReplaySpec) : ReplaySpec where
  checkpointId := replay.checkpointID
  fromStep := replay.fromStep

/-- Every field of a loaded task has the value of the Go field. -/
structure SameValues (spec : Operator.AgentTaskSpec) (p : AgentTaskSpec) :
    Prop where
  prompt : p.prompt = spec.prompt
  systemPrompt : p.systemPrompt = spec.systemPrompt
  model : p.model = spec.model.map ModelSpec.ofGo
  tools : p.tools = spec.tools.map ToolSpec.ofGo
  workspace : p.workspace = spec.workspace.map WorkspaceSpec.ofGo
  timeoutSeconds : p.timeoutSeconds = spec.timeoutSeconds
  maxSteps : p.maxSteps = spec.maxSteps
  resources : p.resources = spec.resources.map ResourceSpec.ofGo
  checkpointPolicy :
    p.checkpointPolicy.map (fun policy =>
        (policy.mode.text, policy.intervalSeconds))
      = spec.checkpointPolicy.map (fun policy =>
        (policy.mode.text, policy.intervalSeconds))
  replay : p.replay = spec.replay.map ReplaySpec.ofGo

/-- The policy is absent, or its mode is one of the three constants. -/
def KnownMode (spec : Operator.AgentTaskSpec) : Prop :=
  ∀ policy, spec.checkpointPolicy = some policy →
    policy.mode.text ∈ ["Manual", "EveryStep", "Interval"]

-- ================================================================== fields

section

variable {α β : Type}

/-- What a field with a default is read as. -/
def readOr (default : α) (read : Json → Except Exc α) :
    Option Json → Except Exc α
  | some value => read value
  | none => .ok default

section

variable {fields : List (String × Option Json)} {name : String}
  {names : List String} {value : Option Json} {default a : α}
  {read : Json → Except Exc α} {rest : α → Except Exc β} {exc : Exc}
  {r : Except Exc β}

/-- A field of an object that was written with it under its alias. -/
theorem defaulted_present (hkeys : (fields.map Prod.fst).Nodup)
    (hname : fields.lookup name = some value)
    (hnames : names.findSome? (fun key => (fields.lookup key).join) = none) :
    defaulted (Json.present fields) (name :: names) default read
      = readOr default read value := by
  have hlook : (fun key => (Json.present fields).lookup key)
      = fun key => (fields.lookup key).join :=
    funext (Json.lookup_present hkeys)
  rw [defaulted, hlook, List.findSome?_cons, hname]
  cases value with
  | some v => rfl
  | none =>
      rw [Option.join_some, hnames]
      rfl

/-- A statement that reads a field goes on with its value. -/
theorem read_field (hkeys : (fields.map Prod.fst).Nodup)
    (hname : fields.lookup name = some value)
    (hnames : names.findSome? (fun key => (fields.lookup key).join) = none)
    (hread : readOr default read value = .ok a) (hrest : rest a = r) :
    (defaulted (Json.present fields) (name :: names) default read >>= rest)
      = r := by
  rw [defaulted_present hkeys hname hnames, hread, ← hrest]
  rfl

/-- A field that cannot be read ends the reading of the record. -/
theorem read_field_error (hkeys : (fields.map Prod.fst).Nodup)
    (hname : fields.lookup name = some value)
    (hnames : names.findSome? (fun key => (fields.lookup key).join) = none)
    (hread : readOr default read value = .error exc) :
    (defaulted (Json.present fields) (name :: names) default read >>= rest)
      = .error exc := by
  rw [defaulted_present hkeys hname hnames, hread]
  rfl

end

/-- A value that is left out when it is the default. -/
theorem readOr_omitted {default a : α} [Decidable (a = default)]
    {read : Json → Except Exc α} {value : Json} (hread : read value = .ok a) :
    readOr default read (if a = default then none else some value)
      = .ok a := by
  split
  next h =>
    rw [h]
    rfl
  next => exact hread

/-- An omitted text is read as the empty one it stands for. -/
theorem readOr_text (field s : String) :
    readOr "" (stringField field) (Operator.omitEmpty s) = .ok s :=
  readOr_omitted rfl

theorem optionField_of_ne_null {read : Json → Except Exc α} {value : Json}
    (h : value ≠ .null) :
    optionField read value = (read value).map some := by
  cases value with
  | null => exact absurd rfl h
  | _ => rfl

variable {read : Json → Except Exc β} {json : α → Json} {g : α → β}

/-- A pointer that is left out when it is nil. -/
theorem readOr_pointer (hread : ∀ a, read (json a) = .ok (g a))
    (hjson : ∀ a, json a ≠ .null) (o : Option α) :
    readOr none (optionField read) (o.map json) = .ok (o.map g) := by
  cases o with
  | none => rfl
  | some a =>
      show optionField read (json a) = _
      rw [optionField_of_ne_null (hjson a), hread]
      rfl

/-- A pointer to a number. -/
theorem readOr_int {int : Json → Except Exc Int} (hints : KeepsInts int)
    (o : Option Int) :
    readOr none (optionField int) (o.map Json.int) = .ok o := by
  rw [readOr_pointer (g := id) hints (fun _ h => by cases h), Option.map_id]
  rfl

/-- A pointer that is null when it is nil. -/
theorem readOr_orNull (hread : ∀ a, read (json a) = .ok (g a))
    (hjson : ∀ a, json a ≠ .null) (o : Option α) :
    readOr none (optionField read) (some (Operator.orNull json o))
      = .ok (o.map g) := by
  cases o with
  | none => rfl
  | some a => exact readOr_pointer hread hjson (some a)

theorem mapM_json (hread : ∀ a, read (json a) = .ok (g a))
    (items : List α) : (items.map json).mapM read = .ok (items.map g) := by
  induction items with
  | nil => rfl
  | cons a items ih =>
      rw [List.map_cons, List.mapM_cons, hread, ih]
      rfl

end

-- ================================================================= records

/-- What the SDK makes of the policy of a spec. -/
def loadedPolicy : Option Operator.CheckpointPolicySpec →
    Except Exc (Option CheckpointPolicySpec)
  | none => .ok none
  | some policy => (modeField (.str policy.mode.text)).map fun mode =>
      some { mode, intervalSeconds := policy.intervalSeconds }

/-- The values of a spec, with the policy the SDK makes of its own. -/
def AgentTaskSpec.ofGo (spec : Operator.AgentTaskSpec)
    (checkpointPolicy : Option CheckpointPolicySpec) : AgentTaskSpec where
  prompt := spec.prompt
  systemPrompt := spec.systemPrompt
  model := spec.model.map ModelSpec.ofGo
  tools := spec.tools.map ToolSpec.ofGo
  workspace := spec.workspace.map WorkspaceSpec.ofGo
  timeoutSeconds := spec.timeoutSeconds
  maxSteps := spec.maxSteps
  resources := spec.resources.map ResourceSpec.ofGo
  checkpointPolicy := checkpointPolicy
  replay := spec.replay.map ReplaySpec.ofGo

/-- Each record of the CRD is read back by the SDK's model of it. The
smallest: a reference to a secret. -/
theorem APIKeySecretRef.modelValidate_json (ref : Operator.APIKeySecretRef) :
    APIKeySecretRef.modelValidate ref.json = .ok (.ofGo ref) := by
  have hkeys : List.Nodup ["key", "name"] := by decide
  unfold Operator.APIKeySecretRef.json
  rw [modelValidate]
  refine read_field hkeys rfl rfl (readOr_text ..) ?_
  refine read_field hkeys rfl rfl (readOr_text ..) ?_
  rfl

/-- Parameters are texts on both sides. -/
theorem textsField_paramsJson (field : String)
    (params : List (String × String)) :
    textsField field (Operator.ModelSpec.paramsJson params) = .ok params := by
  show (params.map fun kv => (kv.1, Json.str kv.2)).mapM _ = _
  induction params with
  | nil => rfl
  | cons kv params ih =>
      rw [List.map_cons, List.mapM_cons, ih]
      rfl

theorem ModelSpec.modelValidate_json (model : Operator.ModelSpec) :
    ModelSpec.modelValidate model.json = .ok (.ofGo model) := by
  have hkeys : List.Nodup ["apiKeySecretRef", "name", "params", "provider"] :=
    by decide
  have hparams := textsField_paramsJson "params" model.params
  rw [Operator.ModelSpec.json, modelValidate]
  refine read_field hkeys rfl rfl (readOr_text ..) ?_
  refine read_field hkeys rfl rfl (readOr_text ..) ?_
  refine read_field hkeys rfl rfl (readOr_pointer
    APIKeySecretRef.modelValidate_json (fun _ h => by cases h) _) ?_
  refine read_field hkeys rfl rfl (readOr_omitted hparams) ?_
  rfl

theorem WorkspaceSpec.modelValidate_json
    (workspace : Operator.WorkspaceSpec) :
    WorkspaceSpec.modelValidate workspace.json = .ok (.ofGo workspace) := by
  have hkeys : List.Nodup ["baseImage", "initCommand"] := by decide
  have htext : ∀ s, stringField "initCommand" (.str s) = .ok (id s) :=
    fun _ => rfl
  have hcommand : listField "initCommand" (stringField "initCommand")
      (.arr (workspace.initCommand.map Json.str))
      = .ok workspace.initCommand := by
    rw [listField, mapM_json htext, List.map_id]
  unfold Operator.WorkspaceSpec.json
  rw [modelValidate]
  refine read_field hkeys rfl rfl (readOr_text ..) ?_
  refine read_field hkeys rfl rfl (readOr_omitted hcommand) ?_
  rfl

theorem ResourceSpec.modelValidate_json (resources : Operator.ResourceSpec) :
    ResourceSpec.modelValidate resources.json = .ok (.ofGo resources) := by
  have hkeys : List.Nodup ["cpu", "ephemeralStorage", "memory"] := by decide
  unfold Operator.ResourceSpec.json
  rw [modelValidate]
  refine read_field hkeys rfl rfl rfl ?_
  refine read_field hkeys rfl rfl rfl ?_
  refine read_field hkeys rfl rfl rfl ?_
  rfl

section

variable {t : YamlText} (hints : KeepsInts t.int)
include hints

theorem ToolSpec.modelValidate_json (tool : Operator.ToolSpec) :
    ToolSpec.modelValidate t tool.json = .ok (.ofGo tool) := by
  have hkeys : List.Nodup ["name", "timeoutSeconds"] := by decide
  unfold Operator.ToolSpec.json
  rw [modelValidate]
  refine read_field hkeys rfl rfl (readOr_text ..) ?_
  refine read_field hkeys rfl rfl (readOr_int hints _) ?_
  rfl

theorem ReplaySpec.modelValidate_json (replay : Operator.ReplaySpec) :
    ReplaySpec.modelValidate t replay.json = .ok (.ofGo replay) := by
  have hkeys : List.Nodup ["checkpointId", "fromStep"] := by decide
  unfold Operator.ReplaySpec.json
  rw [modelValidate]
  refine read_field hkeys rfl rfl (readOr_text ..) ?_
  refine read_field hkeys rfl rfl (readOr_omitted (hints _)) ?_
  rfl

/-- A policy is loaded if its mode is. -/
theorem CheckpointPolicySpec.modelValidate_json
    (policy : Operator.CheckpointPolicySpec) :
    CheckpointPolicySpec.modelValidate t policy.json
      = (modeField (.str policy.mode.text)).map fun mode =>
        { mode, intervalSeconds := policy.intervalSeconds } := by
  have hkeys : List.Nodup ["intervalSeconds", "mode"] := by decide
  have hinterval : readOr none (optionField t.int)
      (some (Operator.orNull Json.int policy.intervalSeconds))
      = .ok policy.intervalSeconds := by
    rw [readOr_orNull (g := id) hints (fun _ h => by cases h), Option.map_id]
    rfl
  unfold Operator.CheckpointPolicySpec.json
  rw [modelValidate]
  cases hmode : modeField (.str policy.mode.text) with
  | ok mode =>
      refine read_field hkeys rfl rfl hmode ?_
      refine read_field hkeys rfl rfl hinterval ?_
      rfl
  | error exc => exact read_field_error hkeys rfl rfl hmode

/-- The checkpoint policy is the one record that may be refused: its mode is
checked. -/
theorem readOr_policy (o : Option Operator.CheckpointPolicySpec) :
    readOr none (optionField (CheckpointPolicySpec.modelValidate t))
      (o.map Operator.CheckpointPolicySpec.json) = loadedPolicy o := by
  cases o with
  | none => rfl
  | some policy =>
      show optionField (CheckpointPolicySpec.modelValidate t) policy.json = _
      rw [optionField_of_ne_null (fun h => by cases h),
        CheckpointPolicySpec.modelValidate_json hints, loadedPolicy]
      cases modeField (.str policy.mode.text) <;> rfl

/-- A spec is loaded if its policy is, with the values it has. -/
theorem AgentTaskSpec.modelValidate_json (spec : Operator.AgentTaskSpec) :
    AgentTaskSpec.modelValidate t spec.json
      = (loadedPolicy spec.checkpointPolicy).map (ofGo spec) := by
  have hkeys : List.Nodup ["checkpointPolicy", "maxSteps", "model", "prompt",
    "replay", "resources", "systemPrompt", "timeoutSeconds", "tools",
    "workspace"] := by decide
  have hmodel := readOr_orNull ModelSpec.modelValidate_json
    (fun _ h => by cases h) spec.model
  have htools : readOr [] (listField "tools" (ToolSpec.modelValidate t))
      (some (.arr (spec.tools.map Operator.ToolSpec.json)))
      = .ok (spec.tools.map ToolSpec.ofGo) :=
    mapM_json (ToolSpec.modelValidate_json hints) spec.tools
  have hworkspace := readOr_pointer WorkspaceSpec.modelValidate_json
    (fun _ h => by cases h) spec.workspace
  have hresources := readOr_pointer ResourceSpec.modelValidate_json
    (fun _ h => by cases h) spec.resources
  have hreplay := readOr_pointer (ReplaySpec.modelValidate_json hints)
    (fun _ h => by cases h) spec.replay
  have hpolicy := readOr_policy hints spec.checkpointPolicy
  rw [Operator.AgentTaskSpec.json, modelValidate]
  refine read_field hkeys rfl rfl rfl ?_
  refine read_field hkeys rfl rfl rfl ?_
  refine read_field hkeys rfl rfl hmodel ?_
  refine read_field hkeys rfl rfl htools ?_
  refine read_field hkeys rfl rfl hworkspace ?_
  refine read_field hkeys rfl rfl (readOr_int hints _) ?_
  refine read_field hkeys rfl rfl (readOr_int hints _) ?_
  refine read_field hkeys rfl rfl hresources ?_
  cases hloaded : loadedPolicy spec.checkpointPolicy with
  | ok policy =>
      refine read_field hkeys rfl rfl (hpolicy.trans hloaded) ?_
      refine read_field hkeys rfl rfl hreplay ?_
      rfl
  | error exc => exact read_field_error hkeys rfl rfl (hpolicy.trans hloaded)

end

-- ================================================================= dumping

/-- A value that is left out under a condition. -/
theorem omitted_within {c : Prop} [Decidable c] {x y : Json}
    (h : Json.Within x y) :
    ∀ x' ∈ (if c then none else some x), Json.Within x' y := by
  intro x' hx
  split at hx
  next => cases hx
  next =>
    cases hx
    exact h

/-- A text that is written is there in what the SDK holds. -/
theorem omitEmpty_within (s : String) :
    ∀ x ∈ Operator.omitEmpty s, Json.Within x (.str s) :=
  omitted_within rfl

theorem some_within {x y : Json} (h : Json.Within x y) :
    ∀ x' ∈ some x, Json.Within x' y := by
  rintro x' ⟨⟩
  exact h

section

variable {α β : Type} {json : α → Json} {dump : β → Json} {g : α → β}

/-- A pointer that is written holds what the SDK's option holds. -/
theorem pointer_within (h : ∀ a, Json.Within (json a) (dump (g a)))
    (o : Option α) :
    ∀ x ∈ o.map json, Json.Within x (dumpOption dump (o.map g)) := by
  intro x hx
  obtain ⟨a, rfl, rfl⟩ := Option.map_eq_some_iff.mp hx
  exact h a

/-- One that is written as null if it is nil is held as none. -/
theorem orNull_within (h : ∀ a, Json.Within (json a) (dump (g a)))
    (o : Option α) :
    Json.Within (Operator.orNull json o) (dumpOption dump (o.map g)) := by
  cases o with
  | none => rfl
  | some a => exact h a

end

theorem int_within (o : Option Int) :
    ∀ x ∈ o.map Json.int, Json.Within x (dumpOption Json.int o) := by
  intro x hx
  obtain ⟨n, rfl, rfl⟩ := Option.map_eq_some_iff.mp hx
  rfl

/-- Nothing of what the operator wrote is lost when the SDK dumps what it
read, record by record. -/
theorem APIKeySecretRef.within_dump (ref : Operator.APIKeySecretRef) :
    Json.Within ref.json (APIKeySecretRef.ofGo ref).dump :=
  Json.within_present
    ⟨⟨_, rfl, omitEmpty_within ref.key⟩, ⟨_, rfl, omitEmpty_within ref.name⟩⟩

theorem ModelSpec.within_dump (model : Operator.ModelSpec) :
    Json.Within model.json (ModelSpec.ofGo model).dump := by
  refine Json.within_present ⟨?_, ?_, ?_, ?_⟩
  · exact ⟨_, rfl, pointer_within APIKeySecretRef.within_dump _⟩
  · exact ⟨_, rfl, omitEmpty_within model.name⟩
  · exact ⟨_, rfl, omitted_within (Json.within_texts model.params)⟩
  · exact ⟨_, rfl, omitEmpty_within model.provider⟩

theorem ToolSpec.within_dump (tool : Operator.ToolSpec) :
    Json.Within tool.json (ToolSpec.ofGo tool).dump :=
  Json.within_present
    ⟨⟨_, rfl, omitEmpty_within tool.name⟩, ⟨_, rfl, int_within _⟩⟩

theorem WorkspaceSpec.within_dump (workspace : Operator.WorkspaceSpec) :
    Json.Within workspace.json (WorkspaceSpec.ofGo workspace).dump := by
  refine Json.within_present ⟨?_, ?_⟩
  · exact ⟨_, rfl, omitEmpty_within workspace.baseImage⟩
  · refine ⟨_, rfl, omitted_within ?_⟩
    exact Json.itemsWithin_map fun s _ => rfl

theorem ResourceSpec.within_dump (resources : Operator.ResourceSpec) :
    Json.Within resources.json (ResourceSpec.ofGo resources).dump :=
  Json.within_present ⟨⟨_, rfl, some_within rfl⟩, ⟨_, rfl, some_within rfl⟩,
    ⟨_, rfl, some_within rfl⟩⟩

theorem ReplaySpec.within_dump (replay : Operator.ReplaySpec) :
    Json.Within replay.json (ReplaySpec.ofGo replay).dump := by
  refine Json.within_present ⟨?_, ?_⟩
  · exact ⟨_, rfl, omitEmpty_within replay.checkpointID⟩
  · exact ⟨_, rfl, omitted_within rfl⟩

/-- The policy a spec is loaded with is dumped as it was written. -/
theorem CheckpointPolicySpec.within_dump
    {policy : Operator.CheckpointPolicySpec} {mode : CheckpointMode}
    (hmode : mode.text = policy.mode.text) :
    Json.Within policy.json
      (CheckpointPolicySpec.mk mode policy.intervalSeconds).dump := by
  refine Json.within_present ⟨?_, ?_⟩
  · refine ⟨_, rfl, some_within ?_⟩
    cases policy.intervalSeconds <;> rfl
  · exact ⟨_, rfl, some_within (congrArg Json.str hmode.symm)⟩

-- ================================================================ the mode

/-- The SDK's modes have the texts the enum lists. -/
theorem CheckpointMode.text_mem (mode : CheckpointMode) :
    mode.text ∈ ["Manual", "EveryStep", "Interval"] := by
  cases mode <;> decide

theorem CheckpointMode.exists_text {s : String}
    (h : s ∈ ["Manual", "EveryStep", "Interval"]) :
    ∃ mode : CheckpointMode, mode.text = s := by
  simp only [List.mem_cons, List.not_mem_nil, or_false] at h
  rcases h with rfl | rfl | rfl
  · exact ⟨.manual, rfl⟩
  · exact ⟨.everyStep, rfl⟩
  · exact ⟨.interval, rfl⟩

/-- A mode's own text is read as the mode. -/
theorem modeField_text (mode : CheckpointMode) :
    modeField (.str mode.text) = .ok mode := by
  cases mode <;> rfl

theorem modeField_ok {s : String} {mode : CheckpointMode}
    (h : modeField (.str s) = .ok mode) : mode.text = s := by
  rw [modeField] at h
  split at h
  next found hof =>
    cases h
    unfold CheckpointMode.ofText at hof
    have hfound := List.find?_some hof
    exact of_decide_eq_true hfound
  next => cases h

/-- A policy that is loaded has the values it was written with. -/
theorem loadedPolicy_ok {o : Option Operator.CheckpointPolicySpec}
    {checkpointPolicy : Option CheckpointPolicySpec}
    (h : loadedPolicy o = .ok checkpointPolicy) :
    (o = none ∧ checkpointPolicy = none) ∨
      ∃ policy mode, o = some policy ∧ mode.text = policy.mode.text ∧
        checkpointPolicy = some ⟨mode, policy.intervalSeconds⟩ := by
  cases o with
  | none =>
      cases h
      exact Or.inl ⟨rfl, rfl⟩
  | some policy =>
      rw [loadedPolicy] at h
      cases hmode : modeField (.str policy.mode.text) with
      | ok mode =>
          rw [hmode] at h
          cases h
          exact Or.inr ⟨policy, mode, rfl, modeField_ok hmode, rfl⟩
      | error exc =>
          rw [hmode] at h
          cases h

/-- A policy of a known mode is read. -/
theorem loadedPolicy_of_knownMode {spec : Operator.AgentTaskSpec}
    (h : KnownMode spec) :
    ∃ checkpointPolicy,
      loadedPolicy spec.checkpointPolicy = .ok checkpointPolicy := by
  cases hpolicy : spec.checkpointPolicy with
  | none => exact ⟨none, rfl⟩
  | some policy =>
      obtain ⟨mode, hmode⟩ := CheckpointMode.exists_text (h policy hpolicy)
      refine ⟨some ⟨mode, policy.intervalSeconds⟩, ?_⟩
      rw [loadedPolicy, ← hmode, modeField_text]
      rfl

section

variable {spec : Operator.AgentTaskSpec}
  {checkpointPolicy : Option CheckpointPolicySpec}

/-- What was read has the values that were written. -/
theorem sameValues_ofGo
    (h : loadedPolicy spec.checkpointPolicy = .ok checkpointPolicy) :
    SameValues spec (.ofGo spec checkpointPolicy) := by
  refine ⟨rfl, rfl, rfl, rfl, rfl, rfl, rfl, rfl, ?_, rfl⟩
  show checkpointPolicy.map _ = spec.checkpointPolicy.map _
  rcases loadedPolicy_ok h with ⟨hnone, rfl⟩ | ⟨policy, mode, hsome, hmode, rfl⟩
  · rw [hnone]
    rfl
  · rw [hsome, Option.map_some, Option.map_some, hmode]

theorem AgentTaskSpec.within_dump
    (h : loadedPolicy spec.checkpointPolicy = .ok checkpointPolicy) :
    Json.Within spec.json (AgentTaskSpec.ofGo spec checkpointPolicy).dump := by
  refine Json.within_present ⟨?_, ?_, ?_, ?_, ?_, ?_, ?_, ?_, ?_, ?_⟩
  · refine ⟨_, rfl, ?_⟩
    intro x hx
    obtain ⟨policy, hsome, rfl⟩ := Option.map_eq_some_iff.mp hx
    rcases loadedPolicy_ok h with
      ⟨hnone, -⟩ | ⟨policy', mode, hsome', hmode, hp⟩
    · rw [hnone] at hsome
      cases hsome
    · rw [hsome'] at hsome
      cases hsome
      show Json.Within _ (dumpOption CheckpointPolicySpec.dump checkpointPolicy)
      rw [hp]
      exact CheckpointPolicySpec.within_dump hmode
  · exact ⟨_, rfl, int_within _⟩
  · exact ⟨_, rfl, some_within (orNull_within ModelSpec.within_dump _)⟩
  · exact ⟨_, rfl, some_within rfl⟩
  · exact ⟨_, rfl, pointer_within ReplaySpec.within_dump _⟩
  · exact ⟨_, rfl, pointer_within ResourceSpec.within_dump _⟩
  · exact ⟨_, rfl, some_within rfl⟩
  · exact ⟨_, rfl, int_within _⟩
  · refine ⟨_, rfl, some_within ?_⟩
    show Json.ItemsWithin _ ((spec.tools.map ToolSpec.ofGo).map ToolSpec.dump)
    rw [List.map_map]
    exact Json.itemsWithin_map fun tool _ => ToolSpec.within_dump tool
  · exact ⟨_, rfl, pointer_within WorkspaceSpec.within_dump _⟩

/-- A policy of a loaded task has one of the three modes. -/
theorem knownMode_of_sameValues {p : AgentTaskSpec}
    (h : SameValues spec p) : KnownMode spec := by
  intro policy hpolicy
  have hsame := h.checkpointPolicy
  rw [hpolicy, Option.map_some] at hsame
  obtain ⟨policy', -, heq⟩ := Option.map_eq_some_iff.mp hsame
  rw [← (Prod.mk.inj heq).1]
  exact policy'.mode.text_mem

end

-- ================================================================= loading

/-- The object of a spec has no field of the full CRD form. -/
theorem specOf_json (spec : Operator.AgentTaskSpec) :
    ∃ raw, spec.json = .obj raw ∧ specOf raw = spec.json := by
  refine ⟨_, rfl, ?_⟩
  rw [specOf, Json.lookup_present_none (show "apiVersion" ∉
    ["checkpointPolicy", "maxSteps", "model", "prompt", "replay", "resources",
      "systemPrompt", "timeoutSeconds", "tools", "workspace"] by decide)]
  rfl

/-- The ConfigMap holds the marshalled task under the name the pod mounts. -/
theorem configMap_data {env : Operator.Env} {t : Operator.AgentTask}
    {bytes : List UInt8} (hbytes : env.yamlMarshal t.spec = some bytes) :
    (Operator.buildConfigMapForAgentTask env t).map Operator.ConfigMap.data
      = some [("task.yaml", bytes)] := by
  rw [Operator.buildConfigMapForAgentTask, hbytes]
  rfl

/-- What is loaded of the file that was written for a spec. -/
theorem loadTask_eq {env : Operator.Env} {t : YamlText}
    (hints : KeepsInts t.int) {spec : Operator.AgentTaskSpec}
    (hagree : YamlAgrees env t spec) {bytes : List UInt8}
    (hbytes : env.yamlMarshal spec = some bytes) {d : Disk} {path : Location}
    (hsound : d.Sound) (hfile : d.tree.node path = some (.file bytes)) :
    (loadTask t path d).1
      = (loadedPolicy spec.checkpointPolicy).map (AgentTaskSpec.ofGo spec) := by
  obtain ⟨bytes', text, hmarshal, hdecode, hload⟩ := hagree
  rw [hbytes] at hmarshal
  cases hmarshal
  unfold loadTask
  rw [Py.bind_ok (readBytes_ok hsound hfile), Py.ofExcept_apply, parseTask,
    hdecode]
  show (t.safeLoad (Lines.universalNewlines text) >>= _) = _
  obtain ⟨raw, hraw, hspec⟩ := specOf_json spec
  rw [hload, hraw]
  show AgentTaskSpec.modelValidate t (specOf raw) = _
  rw [hspec, AgentTaskSpec.modelValidate_json hints]

/-- Every spec is loaded from the file the operator writes for it, with the
values it has and nothing lost when it is dumped, exactly if its policy is
absent or has one of the three modes. -/
theorem task_loads_iff {env : Operator.Env} {yaml : YamlText}
    (hints : KeepsInts yaml.int) (t : Operator.AgentTask)
    (hagree : YamlAgrees env yaml t.spec) :
    ∃ cm bytes, Operator.buildConfigMapForAgentTask env t = some cm ∧
      cm.data = [("task.yaml", bytes)] ∧
      ∀ (d : Disk) (path : Location), d.Sound →
        d.tree.node path = some (.file bytes) →
        ((∃ p, (loadTask yaml path d).1 = .ok p ∧ SameValues t.spec p ∧
            Json.Within t.spec.json p.dump) ↔ KnownMode t.spec) := by
  obtain ⟨bytes, text, hbytes, -⟩ := id hagree
  obtain ⟨cm, hcm, hdata⟩ := Option.map_eq_some_iff.mp (configMap_data hbytes)
  refine ⟨cm, bytes, hcm, hdata, ?_⟩
  intro d path hsound hfile
  have hload := loadTask_eq hints hagree hbytes hsound hfile
  constructor
  · rintro ⟨p, -, hsame, -⟩
    exact knownMode_of_sameValues hsame
  · intro hknown
    obtain ⟨checkpointPolicy, hpolicy⟩ := loadedPolicy_of_knownMode hknown
    refine ⟨.ofGo t.spec checkpointPolicy, ?_, sameValues_ofGo hpolicy,
      AgentTaskSpec.within_dump hpolicy⟩
    rw [hload, hpolicy]
    rfl

namespace Sample

/-- A task with a checkpoint every minute, in this mode. -/
def checkpointed (mode : Operator.CheckpointMode) : Operator.AgentTask where
  name := "demo"
  nameSpace := "default"
  uid := 1
  resourceVersion := 1
  deletionTimestamp := none
  spec :=
    { Operator.Sample.spec "hi" with
      tools := [{ name := "read_file", timeoutSeconds := some 5 }]
      resources := some
        { cpu := "2", memory := "4Gi", ephemeralStorage := "0" }
      checkpointPolicy := some { mode, intervalSeconds := some 60 } }
  status := .zero

/-- The text the operator writes for its spec. -/
def checkpointedYaml (mode : Operator.CheckpointMode) : List Char :=
  ["checkpointPolicy:", "  intervalSeconds: 60", "  mode: " ++ mode.text,
    "model:", "  name: echo", "  provider: mock", "prompt: hi", "resources:",
    "  cpu: \"2\"", "  ephemeralStorage: \"0\"", "  memory: 4Gi",
    "systemPrompt: \"\"", "tools:", "- name: read_file",
    "  timeoutSeconds: 5"].flatMap fun line => line.toList ++ ['\n']

def operatorEnv : Operator.Env where
  yamlMarshal spec := spec.checkpointPolicy.map fun policy =>
    Utf8.encode (checkpointedYaml policy.mode)
  sdkImage := ""

def onDemand : Operator.AgentTask := checkpointed (.other "OnDemand")

def nightly : Operator.AgentTask := checkpointed .interval

/-- It knows two texts, and takes no other. -/
def safeLoad (cs : List Char) : Except Exc Json :=
  if cs = checkpointedYaml .interval then .ok nightly.spec.json
  else if cs = checkpointedYaml (.other "OnDemand") then
    .ok onDemand.spec.json
  else .error ⟨"ScannerError", ""⟩

def pyYaml : YamlText where
  safeLoad := safeLoad
  int
    | .int n => .ok n
    | _ => .error (validationError "int")
  decodeError _ := ""

theorem pyYaml_keepsInts : KeepsInts pyYaml.int := fun _ => rfl

/-- The sample's YAML of a checkpointed task is parsed as its JSON. -/
theorem safeLoad_nightly :
    safeLoad (checkpointedYaml .interval) = .ok nightly.spec.json := by
  unfold safeLoad
  rw [if_pos rfl]

/-- So is that of a task whose mode the CRD lets through and the SDK does not
know. -/
theorem safeLoad_onDemand :
    safeLoad (checkpointedYaml (.other "OnDemand"))
      = .ok onDemand.spec.json := by
  unfold safeLoad
  rw [if_neg (by decide +kernel), if_pos rfl]

/-- A marshaller and a parser agree on a task if the parser gives its JSON
back. -/
theorem agrees_of_safeLoad {mode : Operator.CheckpointMode}
    (hcr : '\r' ∉ checkpointedYaml mode)
    (h : safeLoad (checkpointedYaml mode)
      = .ok (checkpointed mode).spec.json) :
    YamlAgrees operatorEnv pyYaml (checkpointed mode).spec :=
  ⟨Utf8.encode (checkpointedYaml mode), checkpointedYaml mode, rfl,
    Utf8.decode_encode _, by
      rw [Lines.universalNewlines_of_no_cr hcr]
      exact h⟩

theorem nightly_agrees : YamlAgrees operatorEnv pyYaml nightly.spec :=
  agrees_of_safeLoad (by decide +kernel) safeLoad_nightly

/-- Marshaller and parser agree on the other task, too: it is the SDK that
refuses it. -/
theorem onDemand_agrees : YamlAgrees operatorEnv pyYaml onDemand.spec :=
  agrees_of_safeLoad (by decide +kernel) safeLoad_onDemand

/-- A disk with nothing but `/task.yaml`. -/
def taskDisk (bytes : List UInt8) : Disk :=
  .ofTree (Tree.empty.put ["task.yaml"] (.file bytes) rfl (by decide))

end Sample

/-- The nightly task is loaded as it was written. -/
theorem task_loads_nightly :
    ∃ p, (loadTask Sample.pyYaml ["task.yaml"] (Sample.taskDisk
        (Utf8.encode (Sample.checkpointedYaml .interval)))).1 = .ok p ∧
      SameValues Sample.nightly.spec p ∧
      Json.Within Sample.nightly.spec.json p.dump := by
  obtain ⟨cm, bytes, hcm, hdata, hloads⟩ := task_loads_iff
    Sample.pyYaml_keepsInts Sample.nightly Sample.nightly_agrees
  have hmade : (Operator.buildConfigMapForAgentTask Sample.operatorEnv
      Sample.nightly).map Operator.ConfigMap.data = _ := configMap_data rfl
  rw [hcm, Option.map_some, hdata] at hmade
  have hbytes : bytes = Utf8.encode (Sample.checkpointedYaml .interval) :=
    (Prod.mk.inj (List.cons.inj (Option.some.inj hmade)).1).2
  rw [hbytes] at hloads
  refine (hloads (Sample.taskDisk _) _ (fun _ => rfl) rfl).mpr ?_
  rintro policy ⟨⟩
  decide

/-- The cluster takes the task, and its pod cannot load it. -/
theorem onDemand_not_loaded :
    Sample.onDemand.spec.Admitted ∧
      YamlAgrees Sample.operatorEnv Sample.pyYaml Sample.onDemand.spec ∧
      (Operator.buildConfigMapForAgentTask Sample.operatorEnv
          Sample.onDemand).map Operator.ConfigMap.data
        = some [("task.yaml",
          Utf8.encode (Sample.checkpointedYaml (.other "OnDemand")))] ∧
      (loadTask Sample.pyYaml ["task.yaml"] (Sample.taskDisk
          (Utf8.encode (Sample.checkpointedYaml (.other "OnDemand"))))).1
        = .error ⟨"ValidationError", "mode"⟩ := by
  refine ⟨by decide, Sample.onDemand_agrees, configMap_data rfl, ?_⟩
  rw [loadTask_eq Sample.pyYaml_keepsInts Sample.onDemand_agrees rfl
    (fun _ => rfl) rfl]
  rfl

end AgentAnvil.Sdk
