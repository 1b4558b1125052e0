/-
What the controller derives from an AgentTask: the ConfigMap and its
content-addressed name, the NetworkPolicy, and the pod
(`internal/controller/agenttask_controller.go`, `pod_builder.go`,
`network_policy.go`).

The Go functions take pointers and answer nil on a nil task; Reconcile
never passes one, so the embedding takes the task itself. What is left
outside is in `Env`: `yaml.Marshal` of a spec, which may fail, and the
one environment variable the pod builder reads.

The ConfigMap name is `name ++ hex(sha256(yaml)) ++ "-config"`. The digest
has a fixed width, so the concatenation is unambiguous
(`configMapName_injective`): two equal names come from the same task name
and the same digest.
-/
import AgentAnvil.Lib.Sha256
import AgentAnvil.Operator.Types

namespace AgentAnvil.Operator

open Sha256

/-- What the controller process calls or reads outside its own code. -/
structure Env where
  /-- `yaml.Marshal` of a spec; `none` is an error. -/
  yamlMarshal : AgentTaskSpec → Option Bytes
  /-- `AGENT_ANVIL_SDK_IMAGE`, empty when it is not set. -/
  sdkImage : String

variable (env : Env)

-- ========================================================= the ConfigMap

def calculateSpecHash (specBytes : Bytes) : String :=
  hexdigest (sum256 specBytes)

/-- Empty when the spec cannot be marshalled. -/
def buildConfigMapName (agenttask : AgentTask) : String :=
  match env.yamlMarshal agenttask.spec with
  | none => ""
  | some specBytes =>
      agenttask.name ++ calculateSpecHash specBytes ++ "-config"

def buildConfigMapForAgentTask (agenttask : AgentTask) : Option ConfigMap :=
  match env.yamlMarshal agenttask.spec with
  | none => none
  | some yamlBytes =>
      some
        { name := buildConfigMapName env agenttask
          nameSpace := agenttask.nameSpace
          owner := none
          data := [("task.yaml", yamlBytes)] }

/-- The first ConfigMap source with an item of this key and path, in a
projected volume of this name. -/
def getConfigMapFromPod (pod : Pod) (volumeName key path : String) :
    Option ConfigMapProjection :=
  pod.spec.volumes.findSome? fun volume =>
    if volume.name = volumeName then
      match volume.volumeSource with
      | .projected sources =>
          sources.findSome? fun source =>
            match source.configMap with
            | some configMap =>
                if configMap.items.any fun item =>
                    decide (item.key = key) && decide (item.path = path)
                then some configMap else none
            | none => none
      | .emptyDir => none
    else none

-- ===================================================== the NetworkPolicy

def buildNetworkPolicy (ns agenttaskName : String) : NetworkPolicy where
  name := agenttaskName ++ "-network-policy"
  nameSpace := ns
  owner := none
  podSelector := [("agenttask", agenttaskName)]
  policyTypes := [.egress]
  egress := []

-- =============================================================== the pod

def agentImage : String :=
  if env.sdkImage ≠ "" then env.sdkImage else "agent-anvil-sdk:dev"

def taskMount : VolumeMount :=
  { name := "task", mountPath := "/etc/agent-anvil/", readOnly := true }

def traceMount : VolumeMount :=
  { name := "trace", mountPath := "/var/log/agent-anvil", readOnly := false }

def workspaceMount : VolumeMount :=
  { name := "workspace", mountPath := "/workspace", readOnly := false }

def agentContainer (taskID : String) : Container where
  name := "agent"
  image := agentImage env
  imagePullPolicy := .ifNotPresent
  command := []
  args := []
  volumeMounts := [taskMount, traceMount, workspaceMount]
  env := [
    ("AGENT_ANVIL_TASK_ID", taskID),
    ("AGENT_ANVIL_PROXY_URL", "http://localhost:8080"),
    ("AGENT_ANVIL_TRACE_DIR", "/var/log/agent-anvil"),
    ("AGENT_ANVIL_WORKSPACE", "/workspace"),
    ("AGENT_ANVIL_MODE", "record"),
    ("AGENT_ANVIL_REPLAY_FROM_STEP", "0"),
    ("AGENT_ANVIL_ECHO_EVENTS", "1")]

def proxyContainer (taskID : String) : Container where
  name := "proxy"
  image := "busybox"
  imagePullPolicy := .unset
  command := ["/bin/sh", "-c"]
  args := ["echo \"proxy sidecar (Phase 2A stub) for " ++ taskID
    ++ "\" && sleep 30"]
  volumeMounts := [taskMount, traceMount]
  env := []

def taskVolume (agenttask : AgentTask) : Volume where
  name := "task"
  volumeSource := .projected [
    { configMap := some
        { name := buildConfigMapName env agenttask
          items := [{ key := "task.yaml", path := "task.yaml" }] } }]

/-- The pod object as it is sent to the API server: it has a
`GenerateName` and no name yet, and its status is the server's to fill. -/
def buildPodForAgentTask (agenttask : AgentTask) : Pod :=
  let taskID := agenttask.name ++ "/" ++ agenttask.nameSpace
  { name := ""
    generateName := agenttask.name ++ "-pod-"
    nameSpace := agenttask.nameSpace
    labels := [("agenttask", agenttask.name)]
    owner := none
    spec :=
      { runtimeClassName := some "gvisor"
        containers := [agentContainer env taskID, proxyContainer taskID]
        volumes := [
          taskVolume env agenttask,
          { name := "trace", volumeSource := .emptyDir },
          { name := "workspace", volumeSource := .emptyDir }]
        restartPolicy := .never }
    status := { phase := .other "", reason := "" } }

-- ====================================================== derived names

variable {env}

/-- A hash of 64 hex digits. -/
theorem calculateSpecHash_length (b : Bytes) :
    (calculateSpecHash b).toList.length = 64 := by
  unfold calculateSpecHash
  rw [hexdigest_length, sum256_length]

/-- Task name, digest and suffix can be read back off a ConfigMap name. -/
theorem configMapName_injective {n₁ n₂ : String} {b₁ b₂ : Bytes}
    (h : n₁ ++ calculateSpecHash b₁ ++ "-config"
      = n₂ ++ calculateSpecHash b₂ ++ "-config") :
    n₁ = n₂ ∧ sum256 b₁ = sum256 b₂ := by
  have hl := congrArg String.toList h
  simp only [String.toList_append] at hl
  have hcut := List.append_cancel_right hl
  obtain ⟨hname, hhash⟩ := List.append_inj' hcut (by
    rw [calculateSpecHash_length, calculateSpecHash_length])
  exact ⟨String.toList_inj.mp hname,
    hexdigest_injective (String.toList_inj.mp hhash)⟩

/-- A spec that can be marshalled gives its ConfigMap the digest name. -/
theorem buildConfigMapName_eq {t : AgentTask} {b : Bytes}
    (h : env.yamlMarshal t.spec = some b) :
    buildConfigMapName env t
      = t.name ++ calculateSpecHash b ++ "-config" := by
  rw [buildConfigMapName, h]

/-- The task volume of a built pod answers the controller's own lookup
with the ConfigMap name of the task. -/
theorem getConfigMapFromPod_build (t : AgentTask) (p : Pod)
    (hp : p.spec = (buildPodForAgentTask env t).spec) :
    getConfigMapFromPod p "task" "task.yaml" "task.yaml"
      = some { name := buildConfigMapName env t
               items := [{ key := "task.yaml", path := "task.yaml" }] } := by
  unfold getConfigMapFromPod
  rw [hp]
  simp [buildPodForAgentTask, taskVolume]

/-- The labels of a built pod are what the policy of the same task
selects. -/
theorem buildNetworkPolicy_selects (env : Env) (t : AgentTask) (p : Pod)
    (hns : p.nameSpace = t.nameSpace)
    (hl : p.labels = (buildPodForAgentTask env t).labels) :
    (buildNetworkPolicy t.nameSpace t.name).selects p = true := by
  simp [NetworkPolicy.selects, buildNetworkPolicy, hns, hl,
    buildPodForAgentTask]

/-- The policy the controller builds admits no egress. -/
theorem buildNetworkPolicy_deniesEgress (ns n : String) :
    (buildNetworkPolicy ns n).deniesEgress = true := by
  simp [NetworkPolicy.deniesEgress, buildNetworkPolicy]

end AgentAnvil.Operator
