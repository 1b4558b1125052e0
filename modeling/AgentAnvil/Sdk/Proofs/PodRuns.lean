/-
From the operator to the agent: what comes of the pods it creates.

The kubelet mounts the volumes of a pod and starts the image's entry point
in the agent container, under the container's environment (`Mounted`,
`containerEnviron`). Whenever that happens to a pod that Reconcile created,
as long as the pod's task is there, the entry point finds the spec that
Reconcile had read, and it runs it, and exits 0, just when the SDK knows the
checkpoint mode and the model is the mock provider's: the operator hands no
API key on (`pod_runs_task`). The trace then tells the task, its prompt and
its model.

`mounted_task` is the operator's half, over the invariants of its runs;
`main_ready` and `main_outcomes` are the SDK's.
-/
import AgentAnvil.Operator.Proofs.Collection
import AgentAnvil.Sdk.Proofs.EntryPoint
import AgentAnvil.Sdk.Proofs.StepBound
import AgentAnvil.Sdk.Proofs.TaskLoading
import AgentAnvil.Sdk.Proofs.Totals

namespace AgentAnvil.Sdk

open Fs

-- ============================================================ the container

/-- The environment of the image (`Dockerfile`). -/
def imageEnviron : Environ := [
  ("PYTHONUNBUFFERED", "1"),
  ("AGENT_ANVIL_TRACE_DIR", "/var/log/agent-anvil"),
  ("AGENT_ANVIL_WORKSPACE", "/workspace")]

/-- The environment a container is started with: its own, over that of the
image, over whatever else is set. -/
def containerEnviron (ct : Operator.Container) (others : Environ) :
    Environ :=
  ct.env ++ imageEnviron ++ others

/-- What the entry point reads that neither the container nor its image
sets. -/
def leftUnset : List String := [
  "AGENT_ANVIL_TASK_FILE", "AGENT_ANVIL_PROVIDER",
  "AGENT_ANVIL_API_KEY_FILE", "ANTHROPIC_API_KEY", "AGENT_ANVIL_LOG_LEVEL"]

/-- Nothing else is set that the entry point reads. -/
def Unset (others : Environ) : Prop :=
  ∀ name ∈ leftUnset, others.lookup name = none

/-- The kubelet has mounted the volumes of a pod in a container: each
projected key of a ConfigMap is a file, each `emptyDir` an empty
directory. -/
structure Mounted (p : Platform) (pod : Operator.Pod)
    (configMap : String → Option Operator.ConfigMap)
    (ct : Operator.Container) (d : Disk) : Prop where
  sound : d.Sound
  projected : ∀ m ∈ ct.volumeMounts, ∀ v ∈ pod.spec.volumes,
    v.name = m.name → ∀ sources, v.volumeSource = .projected sources →
    ∀ source ∈ sources, ∀ proj, source.configMap = some proj →
    ∀ cm, configMap proj.name = some cm → ∀ item ∈ proj.items,
    ∀ bytes, cm.data.lookup item.key = some bytes →
      ∃ q, p.resolve d.tree
          ((Path.parse m.mountPath).join (Path.parse item.path)) = .ok q
        ∧ d.tree.node q = some (.file bytes)
  emptyDir : ∀ m ∈ ct.volumeMounts, ∀ v ∈ pod.spec.volumes,
    v.name = m.name → v.volumeSource = .emptyDir →
      ∃ q, p.resolve d.tree (Path.parse m.mountPath) = .ok q
        ∧ d.tree.node q = some .directory
        ∧ ∀ name, d.tree.node (q ++ [name]) = none

/-- What an `agent_start` tells: the task, its prompt, its provider and
model, and its step bound. -/
def EventData.opening :
    EventData → Option (String × String × String × String × Int)
  | .agentStart taskId prompt provider model _ maxSteps =>
      some (taskId, prompt, provider, model, maxSteps)
  | _ => none

/-- The model is absent or the mock provider's. -/
def OnMock (spec : Operator.AgentTaskSpec) : Prop :=
  ∀ model, spec.model = some model → model.provider = "mock"

-- ========================================================== the operator's half

section

open Operator

variable {env : Env} {c : Cluster}

/-- A pod is made of the task Reconcile had read, and as long as its owner
is live that task's spec is stored under the name the pod mounts. -/
theorem mounted_task (h : Reachable env (FindsOwnConfigMap env) c)
    (hsha : Sha256.CollisionFree (specTexts env c)) {r : PodCreation}
    (hr : r ∈ c.created)
    (hlive : Live c r.agentTask.nameSpace r.agentTask.ownerReference)
    {bytes : Bytes} (hbytes : env.yamlMarshal r.agentTask.spec = some bytes) :
    Made env r.agentTask r.pod
      ∧ ∃ cm, c.configMaps (mountKey env r.agentTask) = some cm
      ∧ cm.data = [("task.yaml", bytes)] := by
  have hprovided := provided_of_reachable h
  obtain ⟨-, hread, hmade⟩ := hprovided.wellMade.created hr
  obtain ⟨cm, text, -, hcm, -, htext, hdata, hdigest⟩ :=
    hprovided.text hr hlive
  have hsame : text = bytes :=
    hsha.eq htext ⟨r.agentTask, hread, hbytes⟩ (hdigest bytes hbytes)
  exact ⟨hmade, cm, hcm, by rw [hdata, hsame]⟩

end

-- ============================================================ what is started

section

variable {env : Operator.Env} {t : Operator.AgentTask}
  {ct : Operator.Container} {others : Environ}

/-- What the entry point makes of the environment of an agent container. -/
def podArgs (taskId : String) : Args where
  task := "/etc/agent-anvil/task.yaml"
  traceDir := "/var/log/agent-anvil"
  workspace := "/workspace"
  taskId := taskId
  provider := none
  echoEvents := true

/-- A variable the container and the image leave alone is unset. -/
theorem lookup_unset {taskId name : String} (hunset : Unset others)
    (hname : name ∈ leftUnset) :
    (containerEnviron (Operator.agentContainer env taskId) others).lookup name
      = none := by
  have hown : ((Operator.agentContainer env taskId).env
      ++ imageEnviron).lookup name = none := by
    simp only [leftUnset, List.mem_cons, List.not_mem_nil, or_false] at hname
    rcases hname with rfl | rfl | rfl | rfl | rfl <;>
      simp [Operator.agentContainer, imageEnviron, List.lookup]
  unfold containerEnviron
  rw [List.lookup_append, hown, Option.none_or]
  exact hunset name hname

/-- A variable the container sets has the value it sets it to. -/
theorem lookup_own {taskId name value : String}
    (h : (Operator.agentContainer env taskId).env.lookup name = some value) :
    (containerEnviron (Operator.agentContainer env taskId) others).lookup name
      = some value := by
  unfold containerEnviron
  rw [List.append_assoc, List.lookup_append, h, Option.some_or]

/-- In a pod the arguments are the operator's. -/
theorem parseArgs_pod (taskId : String) (hunset : Unset others) :
    parseArgs (containerEnviron (Operator.agentContainer env taskId) others)
      .none = podArgs taskId := by
  have hown : ∀ name value,
      (Operator.agentContainer env taskId).env.lookup name = some value →
      (containerEnviron (Operator.agentContainer env taskId) others).lookup
        name = some value := fun name value => lookup_own
  have htrace := hown "AGENT_ANVIL_TRACE_DIR" "/var/log/agent-anvil" rfl
  have hwork := hown "AGENT_ANVIL_WORKSPACE" "/workspace" rfl
  have hid := hown "AGENT_ANVIL_TASK_ID" taskId rfl
  have hecho := hown "AGENT_ANVIL_ECHO_EVENTS" "1" rfl
  unfold parseArgs
  rw [htrace, hwork, hid, hecho, lookup_unset hunset (by decide),
    lookup_unset hunset (by decide)]
  rfl

/-- There is no key in its environment. -/
theorem keyless_pod (taskId : String) (hunset : Unset others) :
    Keyless (containerEnviron (Operator.agentContainer env taskId)
      others) where
  file := lookup_unset hunset (by decide)
  key := lookup_unset hunset (by decide)

end

-- ============================================================ what is traced

section

variable {ω : Type} (inv : Invocation ω) {world : ω} {clock : Clock}

/-- What is read off a run, if nothing is read off its steps. -/
theorem readOff_edges {β : Type} {f : EventData → Option β}
    (hlasts : clock.Lasts (lineCount ((transcriptOf inv world).script inv)))
    (hlatency : ∀ data, f data.withoutLatency = f data)
    (hf : ∀ data, data.ofTool = true → f data = none)
    (hturn : ∀ (k : Nat) t, [EventData.agentStepStart k,
      llmCallStart inv t.messages, (llmCallEnd inv t).data 0,
      EventData.agentStepEnd k].filterMap f = [])
    (hending : ∀ (ending : Ending) (k : Nat),
      ((ending.script inv k).flatMap Act.datas).filterMap f = []) :
    readOff f (eventsOf inv world clock)
      = [Transcript.startData inv,
          (transcriptOf inv world).doneData inv].filterMap f := by
  have hturns := turns_datas inv hf (g := fun _ _ => none) hturn
  unfold readOff
  rw [filterMap_eventsOf inv hlatency hlasts, Transcript.script,
    Transcript.body]
  simp only [List.flatMap_append, List.filterMap_append, hturns, hending,
    List.append_nil, List.filterMap_none]
  show [(Transcript.startData inv).withoutLatency].filterMap f
    ++ [((transcriptOf inv world).doneData inv).withoutLatency].filterMap f = _
  rw [← List.filterMap_append]
  simp only [List.singleton_append, List.filterMap_cons, hlatency]

/-- A task without a model has no provider. -/
theorem modelProvider_eq :
    inv.modelProvider = (inv.spec.model.map ModelSpec.provider).getD "" := by
  unfold Invocation.modelProvider
  cases inv.spec.model <;> rfl

theorem modelName_eq :
    inv.modelName = (inv.spec.model.map ModelSpec.name).getD "" := by
  unfold Invocation.modelName
  cases inv.spec.model <;> rfl

/-- `agent_start` reports the task as it was given to the loop. -/
theorem readOff_opening
    (hlasts : clock.Lasts (lineCount ((transcriptOf inv world).script inv))) :
    readOff EventData.opening (eventsOf inv world clock)
      = [(inv.taskId, inv.spec.prompt, inv.modelProvider, inv.modelName,
          inv.maxSteps)] := by
  refine readOff_edges inv hlasts (fun data => by cases data <;> rfl) ?_
    (fun k t => rfl) (fun ending k => by cases ending <;> rfl)
  intro data hdata
  cases data <;> first | rfl | cases hdata

theorem readOff_outcome
    (hlasts : clock.Lasts (lineCount ((transcriptOf inv world).script inv))) :
    readOff EventData.outcome (eventsOf inv world clock)
      = [(transcriptOf inv world).ending.outcome] := by
  refine readOff_edges inv hlasts (fun data => by cases data <;> rfl) ?_
    (fun k t => rfl) (fun ending k => by cases ending <;> rfl)
  intro data hdata
  cases data <;> first | rfl | cases hdata

/-- A run of the echo client ends after its first response, if it has a
step for one. -/
theorem echo_outcome {repr : Json → String}
    (hclient : inv.client = echoClient repr) :
    (transcriptOf inv world).ending.outcome
      = if inv.maxSteps ≤ 0 then "max_steps" else "completed" := by
  unfold transcriptOf
  by_cases hsteps : inv.maxSteps ≤ 0
  · rw [if_pos hsteps, show inv.maxSteps.toNat = 0 by omega]
    rfl
  · obtain ⟨remaining, hremaining⟩ : ∃ n, inv.maxSteps.toNat = n + 1 :=
      ⟨inv.maxSteps.toNat - 1, by omega⟩
    rw [if_neg hsteps, hremaining, transcript, hclient]
    rfl

end

-- ================================================================== the law

section

variable {env : Operator.Env} {κ φ : Type} {inst : Installation κ φ}
  {environ : Environ}

variable (inst) in
/-- Without a key only the mock client can be made. -/
theorem makeClient_keyless (hkeyless : Keyless environ)
    (provider model : String) :
    (∃ client, makeClient inst environ provider model none = .ok client)
      ↔ provider = "mock" := by
  unfold makeClient
  by_cases hmock : provider = "mock"
  · simp [hmock]
  · rw [if_neg hmock]
    by_cases hanthropic : provider = "anthropic"
    · rw [if_pos hanthropic, hkeyless.key]
      simp [AnthropicClient.new, hmock]
    · rw [if_neg hanthropic]
      simp [hmock]

/-- What the file the operator wrote for a spec parses to. -/
theorem parseTask_eq {t : YamlText} (hints : KeepsInts t.int)
    {spec : Operator.AgentTaskSpec} (hagree : YamlAgrees env t spec)
    {bytes : List UInt8} (hbytes : env.yamlMarshal spec = some bytes)
    {d : Disk} {q : Location} (hsound : d.Sound)
    (hfile : d.tree.node q = some (.file bytes)) :
    parseTask t bytes
      = (loadedPolicy spec.checkpointPolicy).map (AgentTaskSpec.ofGo spec) := by
  rw [← loadTask_eq hints hagree hbytes hsound hfile,
    loadTask_ok hsound hfile]

/-- The mounts of a pod are what the entry point looks for. -/
theorem ready_of_mounted {p : Platform} {t : Operator.AgentTask}
    {pod : Operator.Pod} {taskId : String}
    {configMap : String → Option Operator.ConfigMap} {d : Disk}
    {cm : Operator.ConfigMap} {bytes : List UInt8}
    (hspec : pod.spec = (Operator.buildPodForAgentTask env t).spec)
    (hcm : configMap (Operator.buildConfigMapName env t) = some cm)
    (hdata : cm.data = [("task.yaml", bytes)])
    (h : Mounted p pod configMap (Operator.agentContainer env taskId) d) :
    ∃ q, Ready p (podArgs taskId) d q bytes := by
  have htaskPath : (Path.parse "/etc/agent-anvil/").join
      (Path.parse "task.yaml") = Path.parse "/etc/agent-anvil/task.yaml" := by
    decide +kernel
  obtain ⟨q, hresolve, hfile⟩ := h.projected Operator.taskMount
    (by simp [Operator.agentContainer]) (Operator.taskVolume env t)
    (by simp [hspec, Operator.buildPodForAgentTask]) rfl _ rfl _
    (List.mem_singleton.mpr rfl) _ rfl cm hcm _ (List.mem_singleton.mpr rfl)
    bytes (by rw [hdata]; rfl)
  obtain ⟨work, hwork, hworkDir, -⟩ := h.emptyDir Operator.workspaceMount
    (by simp [Operator.agentContainer])
    { name := "workspace", volumeSource := .emptyDir }
    (by simp [hspec, Operator.buildPodForAgentTask]) rfl rfl
  obtain ⟨dir, htrace, hdir, hempty⟩ := h.emptyDir Operator.traceMount
    (by simp [Operator.agentContainer])
    { name := "trace", volumeSource := .emptyDir }
    (by simp [hspec, Operator.buildPodForAgentTask]) rfl rfl
  have htask : p.resolve d.tree ((Path.parse "/etc/agent-anvil/").join
      (Path.parse "task.yaml")) = .ok q := hresolve
  rw [htaskPath] at htask
  exact ⟨q, {
    sound := h.sound
    task := ⟨htask, hfile⟩
    workspace := ⟨work, hwork, hworkDir⟩
    traceDir := ⟨dir, htrace, hdir, hempty "events.jsonl"⟩ }⟩

/-- A pod runs the mock client just if the task asks for it, or for no model.
-/
theorem providerOf_pod {taskId : String} {spec : Operator.AgentTaskSpec}
    {policy : Option CheckpointPolicySpec} :
    providerOf (podArgs taskId) (.ofGo spec policy) = "mock"
      ↔ OnMock spec := by
  show ((spec.model.map ModelSpec.ofGo).map ModelSpec.provider).getD "mock"
    = "mock" ↔ _
  unfold OnMock
  cases spec.model with
  | none => simp
  | some model => simp [ModelSpec.ofGo]

/-- A mode is known just if its policy is read. -/
theorem knownMode_iff {spec : Operator.AgentTaskSpec} :
    KnownMode spec
      ↔ ∃ policy, loadedPolicy spec.checkpointPolicy = .ok policy := by
  constructor
  · exact loadedPolicy_of_knownMode
  · rintro ⟨policy, hpolicy⟩
    exact knownMode_of_sameValues (sameValues_ofGo hpolicy)

/-- A process whose mounts hold a spec, started by nothing but the
environment. -/
structure Started (inst : Installation κ φ) (environ : Environ)
    (spec : Operator.AgentTaskSpec) (taskId : String) (p : Process κ)
    (taskPath : Location) (bytes : List UInt8) : Prop where
  args : parseArgs environ .none = podArgs taskId
  keyless : Keyless environ
  ready : Ready inst.host.toPlatform (podArgs taskId) p.disk taskPath bytes
  parses : parseTask inst.yaml bytes
    = (loadedPolicy spec.checkpointPolicy).map (AgentTaskSpec.ofGo spec)

namespace Started

variable {spec : Operator.AgentTaskSpec} {taskId : String} {p p' : Process κ}
  {taskPath : Location} {bytes : List UInt8}

/-- What is loaded has the values of the spec. -/
theorem loaded (h : Started inst environ spec taskId p taskPath bytes)
    {task : AgentTaskSpec} (hparse : parseTask inst.yaml bytes = .ok task) :
    ∃ policy, loadedPolicy spec.checkpointPolicy = .ok policy
      ∧ AgentTaskSpec.ofGo spec policy = task := by
  rw [h.parses] at hparse
  cases hpolicy : loadedPolicy spec.checkpointPolicy with
  | error exc =>
      rw [hpolicy] at hparse
      cases hparse
  | ok policy =>
      rw [hpolicy] at hparse
      exact ⟨policy, rfl, Except.ok.inj hparse⟩

/-- The spec is run if the SDK knows its mode and needs no key. -/
theorem exit_iff (h : Started inst environ spec taskId p taskPath bytes) :
    (main inst environ .none p).1 = .ok 0
    ↔ KnownMode spec ∧ OnMock spec := by
  have hready := h.ready
  rw [← h.args] at hready
  rw [main_ready hready h.keyless, h.args, knownMode_iff]
  constructor
  · rintro ⟨task, client, hload, hclient⟩
    obtain ⟨policy, hpolicy, rfl⟩ := h.loaded hload
    exact ⟨⟨policy, hpolicy⟩, providerOf_pod.mp
      ((makeClient_keyless inst h.keyless _ _).mp ⟨client, hclient⟩)⟩
  · rintro ⟨⟨policy, hpolicy⟩, hmock⟩
    have hprovider : providerOf (podArgs taskId) (.ofGo spec policy)
        = "mock" := providerOf_pod.mpr hmock
    obtain ⟨client, hclient⟩ := (makeClient_keyless inst h.keyless _
      (modelOf (.ofGo spec policy))).mpr hprovider
    refine ⟨_, client, ?_, hclient⟩
    rw [h.parses, hpolicy]
    rfl

/-- The run of a spec, as its trace tells it. -/
theorem traced (h : Started inst environ spec taskId p taskPath bytes)
    (hmain : main inst environ .none p = (.ok 0, p')) :
    ∃ dir lines, inst.host.resolve p.disk.tree
        (Path.parse "/var/log/agent-anvil") = .ok dir
      ∧ p'.trace = some ⟨dir ++ ["events.jsonl"], [], lines⟩
      ∧ p'.stdout = p.stdout ++ lines
      ∧ readOff EventData.opening lines = [(taskId, spec.prompt,
          (spec.model.map Operator.ModelSpec.provider).getD "",
          (spec.model.map Operator.ModelSpec.name).getD "",
          spec.maxSteps.getD DEFAULT_MAX_STEPS)]
      ∧ readOff EventData.outcome lines
          = [if spec.maxSteps.getD DEFAULT_MAX_STEPS ≤ 0 then "max_steps"
              else "completed"] := by
  have hexit : (main inst environ .none p).1 = .ok 0 := by rw [hmain]
  obtain ⟨-, hmock⟩ := h.exit_iff.mp hexit
  have hplain := h.ready.plain
  rw [← h.args] at hplain
  rcases main_outcomes hplain hmain with ⟨hone, -⟩ | ⟨⟨exc, hexc⟩, -⟩
    | ⟨-, q, inv, d, path, hran⟩
  · cases hone
  · cases hexc
  · have hsetup := hran.prepared
    have hnamed := hran.named
    have hstdout := hran.stdout
    rw [h.args] at hsetup hnamed hstdout
    obtain ⟨dir, hresolve, -, -⟩ := h.ready.traceDir
    obtain ⟨dir', hdir', hpath⟩ := hsetup.events
    obtain ⟨bytes', task, apiKey, client, hfile, hload, hclient, hinv⟩ :=
      hsetup.task
    -- the paths lead to one place each
    have hq : q = taskPath :=
      hnamed.unique (inst.host.resolve_canonical _ _ _ h.ready.task.1)
    have hdir : dir' = dir :=
      hdir'.unique (inst.host.resolve_canonical _ _ _ hresolve)
    subst hq hdir
    have hsame := h.ready.task.2.symm.trans hfile
    injection hsame with hnode
    injection hnode with hbytes
    subst hbytes
    obtain ⟨policy, -, rfl⟩ := h.loaded hload
    rw [providerOf_pod.mpr hmock] at hclient
    injection hclient with hecho
    have hprovider : inv.modelProvider
        = (spec.model.map Operator.ModelSpec.provider).getD "" := by
      rw [modelProvider_eq, hinv]
      show ((spec.model.map ModelSpec.ofGo).map ModelSpec.provider).getD "" = _
      cases spec.model <;> rfl
    have hname : inv.modelName
        = (spec.model.map Operator.ModelSpec.name).getD "" := by
      rw [modelName_eq, hinv]
      show ((spec.model.map ModelSpec.ofGo).map ModelSpec.name).getD "" = _
      cases spec.model <;> rfl
    have hechoed : inv.client = echoClient inst.host.repr := by
      rw [hinv, hecho]
      rfl
    refine ⟨dir', _, hresolve, hpath ▸ hran.trace, hstdout, ?_, ?_⟩
    · refine (readOff_opening inv (inst.clock_lasts _)).trans ?_
      rw [hprovider, hname, hinv]
      rfl
    · refine (readOff_outcome inv (inst.clock_lasts _)).trans ?_
      rw [echo_outcome inv hechoed, hinv]
      rfl

end Started

/-- Every pod that Reconcile created, whenever it is started while its task
is there, with tasks edited, deleted and created again: the SDK loads the
spec that Reconcile had read. The entry point exits 0 just when the SDK
knows its checkpoint mode and its model is the mock provider's, as no key
is handed on; and then the trace, new and also on `stdout`, tells the task,
its prompt and its model, and the run is completed or had no step. -/
theorem pod_runs_task {c : Operator.Cluster}
    (h : Operator.Reachable env (Operator.FindsOwnConfigMap env) c)
    (hsha : Sha256.CollisionFree (Operator.specTexts env c))
    {r : Operator.PodCreation} (hr : r ∈ c.created)
    {t : Operator.AgentTask} (ht : c.agentTasks r.agentTask.key = some t)
    (huid : t.uid = r.agentTask.uid) (hlive : t.deletionTimestamp = none)
    (hints : KeepsInts inst.yaml.int)
    (hagree : YamlAgrees env inst.yaml r.agentTask.spec)
    {ct : Operator.Container} (hct : ct ∈ r.pod.spec.containers)
    (hname : ct.name = "agent") {others : Environ} (hunset : Unset others)
    {p : Process κ} (hmounted : Mounted inst.host.toPlatform r.pod
      (fun name => c.configMaps ⟨r.pod.nameSpace, name⟩) ct p.disk) :
    ((main inst (containerEnviron ct others) .none p).1 = .ok 0
        ↔ KnownMode r.agentTask.spec ∧ OnMock r.agentTask.spec)
      ∧ ∀ p', main inst (containerEnviron ct others) .none p = (.ok 0, p') →
          ∃ dir lines, inst.host.resolve p.disk.tree
              (Path.parse "/var/log/agent-anvil") = .ok dir
            ∧ p'.trace = some ⟨dir ++ ["events.jsonl"], [], lines⟩
            ∧ p'.stdout = p.stdout ++ lines
            ∧ readOff EventData.opening lines
                = [(r.agentTask.name ++ "/" ++ r.agentTask.nameSpace,
                    r.agentTask.spec.prompt,
                    (r.agentTask.spec.model.map
                      Operator.ModelSpec.provider).getD "",
                    (r.agentTask.spec.model.map
                      Operator.ModelSpec.name).getD "",
                    r.agentTask.spec.maxSteps.getD DEFAULT_MAX_STEPS)]
            ∧ readOff EventData.outcome lines
                = [if r.agentTask.spec.maxSteps.getD DEFAULT_MAX_STEPS ≤ 0
                    then "max_steps" else "completed"] := by
  have hmarshals : ∃ bytes, env.yamlMarshal r.agentTask.spec = some bytes := by
    obtain ⟨bytes, -, hbytes, -⟩ := hagree
    exact ⟨bytes, hbytes⟩
  obtain ⟨bytes, hbytes⟩ := hmarshals
  obtain ⟨hmade, cm, hcm, hdata⟩ :=
    mounted_task h hsha hr ⟨t, ht, huid, hlive⟩ hbytes
  have hagent : ct = Operator.agentContainer env
      (r.agentTask.name ++ "/" ++ r.agentTask.nameSpace) := by
    rw [hmade.spec] at hct
    simp only [Operator.buildPodForAgentTask, List.mem_cons,
      List.not_mem_nil, or_false] at hct
    have hproxy : "proxy" ≠ "agent" := by decide
    rcases hct with rfl | rfl
    · rfl
    · exact absurd hname hproxy
  subst hagent
  rw [Operator.mountKey, ← hmade.nameSpace] at hcm
  obtain ⟨taskPath, hready⟩ := ready_of_mounted hmade.spec hcm hdata hmounted
  have hstarted : Started inst (containerEnviron (Operator.agentContainer env
      (r.agentTask.name ++ "/" ++ r.agentTask.nameSpace)) others)
      r.agentTask.spec (r.agentTask.name ++ "/" ++ r.agentTask.nameSpace) p
      taskPath bytes := {
    args := parseArgs_pod _ hunset
    keyless := keyless_pod _ hunset
    ready := hready
    parses := parseTask_eq hints hagree hbytes hready.sound hready.task.2 }
  exact ⟨hstarted.exit_iff, fun p' => hstarted.traced⟩

end

namespace Sample

open Operator.Sample (demo taskYaml yamlBytes)

/-- An installation whose parser knows the text of the demo task. -/
def installation : Installation Unit Unit :=
  { bare with
    yaml :=
      { pyYaml with
        safeLoad := fun cs =>
          if cs = (taskYaml "hi").toList then
            .ok (Operator.Sample.spec "hi").json
          else .error ⟨"ScannerError", ""⟩ } }

/-- The tree of the agent container of the demo task. -/
def podTree : Tree :=
  ((((((Tree.empty.put ["var"] .directory rfl (by decide)).put
    ["var", "log"] .directory rfl (by decide)).put
    ["var", "log", "agent-anvil"] .directory rfl (by decide)).put
    ["workspace"] .directory rfl (by decide)).put
    ["etc"] .directory rfl (by decide)).put
    ["etc", "agent-anvil"] .directory rfl (by decide)).put
    ["etc", "agent-anvil", "task.yaml"] (.file (yamlBytes "hi")) rfl
    (by decide)

theorem yaml_agrees : YamlAgrees demo installation.yaml
    (Operator.Sample.spec "hi") := by
  refine ⟨yamlBytes "hi", (taskYaml "hi").toList, rfl, ?_, ?_⟩
  · decide +kernel
  · have htext : Lines.universalNewlines (taskYaml "hi").toList
        = (taskYaml "hi").toList := by decide +kernel
    rw [htext]
    simp [installation]

/-- The sample's pod mounts its task. -/
theorem process_mounted {t : Operator.AgentTask} {pod : Operator.Pod}
    {configMap : String → Option Operator.ConfigMap} {taskId : String}
    {cm : Operator.ConfigMap}
    (hspec : pod.spec = (Operator.buildPodForAgentTask demo t).spec)
    (hcm : configMap (Operator.buildConfigMapName demo t) = some cm)
    (hdata : cm.data = [("task.yaml", yamlBytes "hi")]) :
    Mounted installation.host.toPlatform pod configMap
      (Operator.agentContainer demo taskId) (processOn podTree).disk where
  sound := fun _ => rfl
  projected := by
    intro m hm v hv hname sources hsources source hsource proj hproj cm' hcm'
      item hitem bytes hbytes
    rw [hspec] at hv
    simp only [Operator.buildPodForAgentTask, Operator.agentContainer,
      List.mem_cons, List.not_mem_nil, or_false] at hv hm
    rcases hv with rfl | rfl | rfl
    · have htask : m = Operator.taskMount := by
        rcases hm with rfl | rfl | rfl
        · rfl
        · exact absurd hname (by simp [Operator.taskVolume,
            Operator.traceMount])
        · exact absurd hname (by simp [Operator.taskVolume,
            Operator.workspaceMount])
      cases hsources
      rw [List.mem_singleton.mp hsource] at hproj
      cases hproj
      rw [hcm] at hcm'
      cases hcm'
      rw [List.mem_singleton.mp hitem, hdata] at hbytes
      cases hbytes
      rw [htask, List.mem_singleton.mp hitem]
      exact ⟨["etc", "agent-anvil", "task.yaml"], rfl, rfl⟩
    · cases hsources
    · cases hsources
  emptyDir := by
    intro m hm v hv hname hempty
    rw [hspec] at hv
    simp only [Operator.buildPodForAgentTask, Operator.agentContainer,
      List.mem_cons, List.not_mem_nil, or_false] at hv hm
    rcases hv with rfl | rfl | rfl
    · cases hempty
    · have htrace : m = Operator.traceMount := by
        rcases hm with rfl | rfl | rfl
        · exact absurd hname (by simp [Operator.taskMount])
        · rfl
        · exact absurd hname (by simp [Operator.workspaceMount])
      rw [htrace]
      refine ⟨["var", "log", "agent-anvil"], rfl, rfl, ?_⟩
      intro name
      simp [processOn, Disk.ofTree, podTree, Tree.put, Tree.empty]
    · have hwork : m = Operator.workspaceMount := by
        rcases hm with rfl | rfl | rfl
        · exact absurd hname (by simp [Operator.taskMount])
        · exact absurd hname (by simp [Operator.traceMount])
        · rfl
      rw [hwork]
      refine ⟨["workspace"], rfl, rfl, ?_⟩
      intro name
      simp [processOn, Disk.ofTree, podTree, Tree.put, Tree.empty]

end Sample

open Operator.Sample in
/-- The pod of the demo task, which was deleted and created again, runs
it. -/
theorem pod_runs_task_demo : ∃ c r ct,
    Operator.Reachable demo (Operator.FindsOwnConfigMap demo) c
      ∧ r ∈ c.created ∧ ct ∈ r.pod.spec.containers
      ∧ (main Sample.installation (containerEnviron ct []) .none
          (Sample.processOn Sample.podTree)).1 = .ok 0 := by
  obtain ⟨c, hc, hf⟩ := Operator.reachable_of_run demo
    (Operator.FindsOwnConfigMap demo) recreated
    (fun c => (lastPod c, decide (
      (∀ t ∈ c.versions, t.spec = spec "hi")
        ∧ ∀ r ∈ c.created, r.agentTask.spec = spec "hi")))
    (some (2, none, 2), true) (by decide +kernel) (by decide +kernel)
  obtain ⟨hlast, hspecs⟩ := Prod.mk.inj hf
  obtain ⟨hversions, hcreated⟩ := of_decide_eq_true hspecs
  obtain ⟨r, t, hhead, ht, huid, hlive⟩ := lastPod_eq hlast
  have hr := List.mem_of_mem_head? hhead
  have hspec := hcreated r hr
  have hsha : Sha256.CollisionFree (Operator.specTexts demo c) :=
    collisionFree_revisions fun t ht => Or.inl (hversions t ht)
  have hbytes : demo.yamlMarshal r.agentTask.spec = some (yamlBytes "hi") := by
    rw [hspec]
    rfl
  obtain ⟨hmade, cm, hcm, hdata⟩ :=
    mounted_task hc hsha hr ⟨t, ht, huid, hlive⟩ hbytes
  rw [Operator.mountKey, ← hmade.nameSpace] at hcm
  have hct : Operator.agentContainer demo
      (r.agentTask.name ++ "/" ++ r.agentTask.nameSpace)
        ∈ r.pod.spec.containers := by
    rw [hmade.spec]
    exact List.mem_cons_self ..
  have hunset : Unset [] := fun _ _ => rfl
  have hagree : YamlAgrees demo Sample.installation.yaml
      r.agentTask.spec := by
    rw [hspec]
    exact Sample.yaml_agrees
  have hrun := (pod_runs_task hc hsha hr ht huid hlive
    Sample.pyYaml_keepsInts hagree hct rfl hunset
    (Sample.process_mounted hmade.spec hcm hdata)).1
  refine ⟨c, r, _, hc, hr, hct, hrun.mpr ?_⟩
  rw [hspec]
  constructor
  · intro policy hpolicy
    cases hpolicy
  · intro model hmodel
    cases hmodel
    rfl

end AgentAnvil.Sdk
