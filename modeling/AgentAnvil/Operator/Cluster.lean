/-
The API server as the controller sees it: the stored objects, and the
calls of one Reconcile with every way they can end.

# Calls and their fates

A read is served fresh, fails, or is answered by a lagging cache with
something else (`ReadFate`). A write is served, fails without effect, or
takes effect while the caller sees an error (`CallFate`). Next to the fate
the server decides for itself: a create of a taken name is refused, and a
status update with an outdated resourceVersion, or for an object of
another UID, is a conflict and stores nothing.

`CallFates` holds one fate for each call site of Reconcile; each is
reached at most once in one Reconcile.

# History variables

`versions`, `podNames`, `created` and `observed` record what has happened
and are read by no operation of the controller: every version of an
AgentTask ever stored (what a lagging cache may serve), every pod name
given out, the pods Reconcile created together with the task as it had
read it, and the pod reads it acted on. `podNames` stands for the server's
generated suffixes: a name that has been given out is not given out again.
-/
import AgentAnvil.Operator.Build

namespace AgentAnvil.Operator

-- ===================================================== calls and fates

inductive ApiError where
  | notFound
  | alreadyExists
  | conflict
  | other
  deriving DecidableEq, Repr

inductive ReconcileError where
  | api (err : ApiError)
  | msg (text : String)
  deriving DecidableEq, Repr

/-- How a read ends. -/
inductive ReadFate (α : Type) where
  /-- served from what is stored now -/
  | fresh
  /-- an error other than NotFound -/
  | failed
  /-- served by a cache that holds this instead -/
  | cached (entry : Option α)
  deriving DecidableEq

def ReadFate.read {α : Type} (fate : ReadFate α) (stored : Option α) :
    Except ApiError α :=
  match fate with
  | .failed => .error .other
  | .fresh =>
      match stored with
      | some a => .ok a
      | none => .error .notFound
  | .cached entry =>
      match entry with
      | some a => .ok a
      | none => .error .notFound

/-- A read that is not answered by a lagging cache. -/
def ReadFate.uncached {α : Type} : ReadFate α → Bool
  | .cached _ => false
  | _ => true

/-- What a read past the cache returns is what is stored. -/
theorem ReadFate.read_ok {α : Type} {fate : ReadFate α} {stored : Option α}
    {a : α} (hfate : fate.uncached = true) (h : fate.read stored = .ok a) :
    stored = some a := by
  cases fate with
  | fresh =>
      cases stored with
      | none => cases h
      | some b =>
          cases h
          rfl
  | failed => cases h
  | cached entry => cases hfate

theorem ReadFate.read_notFound {α : Type} {fate : ReadFate α}
    {stored : Option α} (hfate : fate.uncached = true)
    (h : fate.read stored = .error .notFound) : stored = none := by
  cases fate with
  | fresh =>
      cases stored with
      | none => rfl
      | some b => cases h
  | failed => cases h
  | cached entry => cases hfate

/-- How a write ends, next to what the server decides. -/
inductive CallFate where
  | served
  /-- no effect, the caller sees an error -/
  | failed
  /-- the server's answer is lost: the call took effect, the caller sees
  an error -/
  | lost
  deriving DecidableEq, Repr

/-- The fates of the calls one Reconcile may make. -/
structure CallFates where
  getAgentTask : ReadFate AgentTask
  getConfigMap : ReadFate ConfigMap
  createConfigMap : CallFate
  getNetworkPolicy : ReadFate NetworkPolicy
  createNetworkPolicy : CallFate
  createPod : CallFate
  /-- what the server appends to `GenerateName` -/
  podSuffix : String
  getPod : ReadFate Pod
  updateStatus : CallFate
  deriving DecidableEq

-- ========================================================= stored objects

section

variable {κ α : Type} [DecidableEq κ] {f : κ → Option α} {k k' : κ} {a b : α}

/-- What is stored after an object was removed was stored before. -/
theorem stored_of_removed (h : Function.update f k none k' = some a) :
    f k' = some a := by
  rw [Function.update_apply] at h
  split at h
  next => cases h
  next => exact h

/-- What is stored after an object was stored is that object, or was stored
before. -/
theorem stored_cases (h : Function.update f k (some b) k' = some a) :
    (k' = k ∧ b = a) ∨ f k' = some a := by
  rw [Function.update_apply] at h
  split at h
  next hkey => exact Or.inl ⟨hkey, Option.some.inj h⟩
  next => exact Or.inr h

/-- An object stored under a free name leaves the others stored. -/
theorem stored_of_free (hfree : f k = none) (h : f k' = some a) :
    Function.update f k (some b) k' = some a := by
  rw [Function.update_of_ne, h]
  rintro rfl
  rw [hfree] at h
  cases h

end

-- ========================================================= the cluster

/-- A pod that was created, the task as the Reconcile that created it had
read it, and the ConfigMap its task volume named, as it was stored then. -/
structure PodCreation where
  agentTask : AgentTask
  pod : Pod
  mounted : Option ConfigMap
  deriving DecidableEq, Repr

/-- A pod read a Reconcile acted on. -/
structure Observation where
  pod : NamespacedName
  status : PodStatus
  deriving DecidableEq, Repr

structure Cluster where
  agentTasks : NamespacedName → Option AgentTask
  configMaps : NamespacedName → Option ConfigMap
  networkPolicies : NamespacedName → Option NetworkPolicy
  pods : NamespacedName → Option Pod
  clock : Nat
  /-- the last resourceVersion given out -/
  resourceVersion : Nat
  /-- the last UID given out -/
  uid : Nat
  versions : List AgentTask
  podNames : List NamespacedName
  created : List PodCreation
  observed : List Observation

def Cluster.init : Cluster where
  agentTasks _ := none
  configMaps _ := none
  networkPolicies _ := none
  pods _ := none
  clock := 0
  resourceVersion := 0
  uid := 0
  versions := []
  podNames := []
  created := []
  observed := []

namespace Cluster

variable (c : Cluster)

/-- Store a new version of an AgentTask, under the next resourceVersion. -/
def storeAgentTask (t : AgentTask) : Cluster :=
  let t := { t with resourceVersion := c.resourceVersion + 1 }
  { c with
    agentTasks := Function.update c.agentTasks t.key (some t)
    resourceVersion := c.resourceVersion + 1
    versions := t :: c.versions }

/-- `Status().Update`: the status subresource stores the status alone, and
only over the version the caller has read. An update that changes nothing
stores no new version. -/
def storeStatus (t : AgentTask) (status : AgentTaskStatus) :
    Except ApiError Unit × Cluster :=
  match c.agentTasks t.key with
  | none => (.error .notFound, c)
  | some cur =>
      if cur.uid ≠ t.uid ∨ cur.resourceVersion ≠ t.resourceVersion then
        (.error .conflict, c)
      else if cur.status = status.stored then
        (.ok (), c)
      else
        (.ok (), c.storeAgentTask { cur with status := status.stored })

def createConfigMap (cm : ConfigMap) : Except ApiError Unit × Cluster :=
  match c.configMaps ⟨cm.nameSpace, cm.name⟩ with
  | some _ => (.error .alreadyExists, c)
  | none =>
      (.ok (),
        { c with
          configMaps :=
            Function.update c.configMaps ⟨cm.nameSpace, cm.name⟩
              (some cm) })

def createNetworkPolicy (np : NetworkPolicy) :
    Except ApiError Unit × Cluster :=
  match c.networkPolicies ⟨np.nameSpace, np.name⟩ with
  | some _ => (.error .alreadyExists, c)
  | none =>
      (.ok (),
        { c with
          networkPolicies :=
            Function.update c.networkPolicies ⟨np.nameSpace, np.name⟩
              (some np) })

/-- The pod as the server stores it: named, and Pending. -/
def namePod (pod : Pod) (suffix : String) : Pod :=
  { pod with
    name := pod.generateName ++ suffix
    status := { phase := .pending, reason := "" } }

/-- The stored ConfigMap that the task volume of a pod names. -/
def mountedConfigMap (pod : Pod) : Option ConfigMap :=
  (getConfigMapFromPod pod "task" "task.yaml" "task.yaml").bind
    fun configMap => c.configMaps ⟨pod.nameSpace, configMap.name⟩

/-- The cluster with one more pod, created for `t`. -/
def addPod (t : AgentTask) (pod : Pod) : Cluster :=
  { c with
    pods := Function.update c.pods pod.key (some pod)
    podNames := pod.key :: c.podNames
    created :=
      { agentTask := t, pod := pod, mounted := c.mountedConfigMap pod }
        :: c.created }

/-- Create a pod with a generated name; answers the stored pod. -/
def createPod (t : AgentTask) (pod : Pod) (suffix : String) :
    Except ApiError Pod × Cluster :=
  let pod := namePod pod suffix
  if pod.key ∈ c.podNames then (.error .alreadyExists, c)
  else (.ok pod, c.addPod t pod)

/-- Record a pod read. -/
def observe (pod : Pod) : Cluster :=
  { c with observed :=
      { pod := pod.key, status := pod.status } :: c.observed }

end Cluster

/-- What the caller of a write sees and what becomes of the cluster, given
the server's own answer. -/
def CallFate.send {α : Type} (fate : CallFate) (c : Cluster)
    (answer : Except ApiError α × Cluster) : Except ApiError α × Cluster :=
  match fate with
  | .served => answer
  | .failed => (.error .other, c)
  | .lost => (.error .other, answer.2)

end AgentAnvil.Operator
