/-
The API objects the operator reads and writes (`api/v1/agenttask_types.go`
and the parts of the core and networking objects it fills in).

Only the fields the controller or the garbage collector looks at are kept:
`CurrentStep`, `TraceURL` and `Conditions` of the status are never touched
by the controller and are left out, and an object's owner references are
reduced to the name and UID of its controller, which is what the collector
follows.
A `resource.Quantity` is its canonical text, which is how it is marshalled.
-/
import Mathlib.Logic.Function.Basic

namespace AgentAnvil.Operator

/-- A file's or an object's bytes. -/
abbrev Bytes := List UInt8

/-- A time is in nanoseconds since the epoch. `metav1.Time` is stored as
RFC 3339 text, which keeps whole seconds. -/
def storedTime (t : Nat) : Nat := t / 1000000000 * 1000000000

/-- Cutting to whole seconds keeps the order. -/
theorem storedTime_mono {t u : Nat} (h : t ≤ u) :
    storedTime t ≤ storedTime u :=
  Nat.mul_le_mul_right _ (Nat.div_le_div_right h)

theorem storedTime_storedTime (t : Nat) :
    storedTime (storedTime t) = storedTime t := by
  unfold storedTime
  rw [Nat.mul_div_cancel _ (by decide)]

structure NamespacedName where
  nameSpace : String
  name : String
  deriving DecidableEq, Repr

-- ====================================================== AgentTaskSpec

structure APIKeySecretRef where
  name : String
  key : String
  deriving DecidableEq, Repr

structure ModelSpec where
  provider : String
  name : String
  apiKeySecretRef : Option APIKeySecretRef
  params : List (String × String)
  deriving DecidableEq, Repr

structure ToolSpec where
  name : String
  timeoutSeconds : Option Int
  deriving DecidableEq, Repr

structure WorkspaceSpec where
  baseImage : String
  initCommand : List String
  deriving DecidableEq, Repr

structure ResourceSpec where
  cpu : String
  memory : String
  ephemeralStorage : String
  deriving DecidableEq, Repr

/-- The Go type is a string; the CRD schema does not restrict it to the
three named modes. -/
inductive CheckpointMode where
  | manual
  | everyStep
  | interval
  | other (text : String)
  deriving DecidableEq, Repr

structure CheckpointPolicySpec where
  mode : CheckpointMode
  intervalSeconds : Option Int
  deriving DecidableEq, Repr

structure ReplaySpec where
  checkpointID : String
  fromStep : Int
  deriving DecidableEq, Repr

/-- The desired state of an AgentTask. Go pointers are `Option`. -/
structure AgentTaskSpec where
  prompt : String
  systemPrompt : String
  model : Option ModelSpec
  tools : List ToolSpec
  workspace : Option WorkspaceSpec
  timeoutSeconds : Option Int
  maxSteps : Option Int
  resources : Option ResourceSpec
  checkpointPolicy : Option CheckpointPolicySpec
  replay : Option ReplaySpec
  deriving DecidableEq, Repr

-- ==================================================== AgentTaskStatus

/-- `PhaseType`. The Go type is a string and the schema admits any text:
`empty` is the zero value and `other` stands for every text that is none
of the declared constants. -/
inductive PhaseType where
  | empty
  | pending
  | provisioning
  | running
  | checkpointing
  | completed
  | failed
  | evicted
  | other (text : String)
  deriving DecidableEq, Repr

/-- The test the controller writes out as
`Phase == Completed || Phase == Failed || Phase == Evicted`. -/
def PhaseType.terminal : PhaseType → Bool
  | .completed | .failed | .evicted => true
  | _ => false

structure AgentTaskStatus where
  phase : PhaseType
  startedAt : Option Nat
  finishedAt : Option Nat
  podName : String
  reason : String
  deriving DecidableEq, Repr

/-- The status a freshly created AgentTask has: the status subresource
drops what the user sent. -/
def AgentTaskStatus.zero : AgentTaskStatus where
  phase := .empty
  startedAt := none
  finishedAt := none
  podName := ""
  reason := ""

/-- What the API server keeps of a status: times lose their fraction of a
second when they are marshalled. -/
def AgentTaskStatus.stored (s : AgentTaskStatus) : AgentTaskStatus :=
  { s with
    startedAt := s.startedAt.map storedTime
    finishedAt := s.finishedAt.map storedTime }

@[simp] theorem AgentTaskStatus.stored_phase (s : AgentTaskStatus) :
    s.stored.phase = s.phase := rfl

@[simp] theorem AgentTaskStatus.stored_podName (s : AgentTaskStatus) :
    s.stored.podName = s.podName := rfl

@[simp] theorem AgentTaskStatus.stored_startedAt (s : AgentTaskStatus) :
    s.stored.startedAt = s.startedAt.map storedTime := rfl

@[simp] theorem AgentTaskStatus.stored_finishedAt (s : AgentTaskStatus) :
    s.stored.finishedAt = s.finishedAt.map storedTime := rfl

structure AgentTask where
  name : String
  nameSpace : String
  uid : Nat
  resourceVersion : Nat
  deletionTimestamp : Option Nat
  spec : AgentTaskSpec
  status : AgentTaskStatus
  deriving DecidableEq, Repr

def AgentTask.key (t : AgentTask) : NamespacedName := ⟨t.nameSpace, t.name⟩

-- ==================================================== owned objects

/-- The controller reference `SetControllerReference` puts on an object. -/
structure OwnerReference where
  name : String
  uid : Nat
  deriving DecidableEq, Repr

def AgentTask.ownerReference (t : AgentTask) : OwnerReference :=
  { name := t.name, uid := t.uid }

structure ConfigMap where
  name : String
  nameSpace : String
  owner : Option OwnerReference
  data : List (String × Bytes)
  deriving DecidableEq, Repr

inductive PolicyType where
  | ingress
  | egress
  deriving DecidableEq, Repr

structure NetworkPolicyEgressRule where
  ports : List Nat
  to' : List (List (String × String))
  deriving DecidableEq, Repr

structure NetworkPolicy where
  name : String
  nameSpace : String
  owner : Option OwnerReference
  /-- `spec.podSelector.matchLabels` -/
  podSelector : List (String × String)
  policyTypes : List PolicyType
  egress : List NetworkPolicyEgressRule
  deriving DecidableEq, Repr

structure KeyToPath where
  key : String
  path : String
  deriving DecidableEq, Repr

structure ConfigMapProjection where
  name : String
  items : List KeyToPath
  deriving DecidableEq, Repr

/-- One source of a projected volume; the other kinds of source are not
told apart. -/
structure VolumeProjection where
  configMap : Option ConfigMapProjection
  deriving DecidableEq, Repr

inductive VolumeSource where
  | projected (sources : List VolumeProjection)
  | emptyDir
  deriving DecidableEq, Repr

structure Volume where
  name : String
  volumeSource : VolumeSource
  deriving DecidableEq, Repr

structure VolumeMount where
  name : String
  mountPath : String
  readOnly : Bool
  deriving DecidableEq, Repr

inductive PullPolicy where
  | unset
  | ifNotPresent
  deriving DecidableEq, Repr

structure Container where
  name : String
  image : String
  imagePullPolicy : PullPolicy
  command : List String
  args : List String
  volumeMounts : List VolumeMount
  env : List (String × String)
  deriving DecidableEq, Repr

inductive RestartPolicy where
  | always
  | onFailure
  | never
  deriving DecidableEq, Repr

structure PodSpec where
  runtimeClassName : Option String
  containers : List Container
  volumes : List Volume
  restartPolicy : RestartPolicy
  deriving DecidableEq, Repr

/-- `corev1.PodPhase`. `other` covers `Unknown`, the zero value and any
further text. -/
inductive PodPhase where
  | pending
  | running
  | succeeded
  | failed
  | other (text : String)
  deriving DecidableEq, Repr

structure PodStatus where
  phase : PodPhase
  reason : String
  deriving DecidableEq, Repr

structure Pod where
  name : String
  generateName : String
  nameSpace : String
  labels : List (String × String)
  owner : Option OwnerReference
  spec : PodSpec
  status : PodStatus
  deriving DecidableEq, Repr

def Pod.key (p : Pod) : NamespacedName := ⟨p.nameSpace, p.name⟩

/-- Every label of the selector is on the pod: `matchLabels`, in the
policy's own namespace. -/
def NetworkPolicy.selects (np : NetworkPolicy) (p : Pod) : Bool :=
  decide (np.nameSpace = p.nameSpace) &&
    np.podSelector.all fun kv => p.labels.contains kv

/-- Policy types contain Egress and the egress rule list is empty: no
egress traffic of a selected pod is admitted by this policy. -/
def NetworkPolicy.deniesEgress (np : NetworkPolicy) : Bool :=
  np.policyTypes.contains .egress && np.egress.isEmpty

end AgentAnvil.Operator
