/-
The operator process around Reconcile: the informers' caches, the work
queue, and what wakes a key (`SetupWithManager`).

The manager watches AgentTasks and pods. What a watch delivers is put into
a cache, and the handler of that watch queues the keys it concerns: for an
AgentTask its own, for a pod those its owner references name, before and
after. A queued key is reconciled, and both Gets of Reconcile that matter
here are answered by the caches. A Reconcile that returns an error is tried
again, so its key stays queued. The process may be restarted: then the
queue is lost and the caches are filled anew.

Watches may lag as they like and deliver in any order; they deliver only
what was stored at some time.
-/
import AgentAnvil.Lib.WorkQueue
import AgentAnvil.Operator.System

namespace AgentAnvil.Operator

-- ============================================================ the caches

/-- What the informers hold. -/
structure Informers where
  agentTasks : NamespacedName → Option AgentTask
  pods : NamespacedName → Option Pod

/-- Nothing has been listed yet. -/
def Informers.empty : Informers where
  agentTasks _ := none
  pods _ := none

inductive WatchEvent where
  | agentTask (key : NamespacedName) (entry : Option AgentTask)
  | pod (key : NamespacedName) (entry : Option Pod)

/-- The pod that the status of this task names. -/
def AgentTask.podKey (t : AgentTask) : NamespacedName :=
  ⟨t.nameSpace, t.status.podName⟩

/-- A pod that a watch may deliver for `key`: none, or one that was created
under it, in whatever state the kubelet has reported of it. -/
def Cluster.mayShow (c : Cluster) (key : NamespacedName) : Option Pod → Bool
  | none => true
  | some p =>
      c.created.any fun r =>
        decide (r.pod.key = key)
          && decide (p = { r.pod with status := p.status })

/-- `handler.EnqueueRequestForOwner`: every owner the pod refers to, in the
pod's own namespace. -/
def enqueueRequestForOwner (pod : Option Pod) : List NamespacedName :=
  match pod with
  | none => []
  | some p =>
      match p.owner with
      | none => []
      | some owner => [⟨p.nameSpace, owner.name⟩]

/-- What a watch delivers goes into the cache, and wakes the keys that its
handler names. -/
def Informers.deliver (news : WatchEvent) (c : Cluster) (v : Informers) :
    Option (Informers × List NamespacedName) :=
  match news with
  | .agentTask key entry =>
      if c.mayServe key (.cached entry) then
        some
          ({ v with agentTasks := Function.update v.agentTasks key entry },
            [key])
      else none
  | .pod key entry =>
      if c.mayShow key entry then
        some
          ({ v with pods := Function.update v.pods key entry },
            enqueueRequestForOwner (v.pods key)
              ++ enqueueRequestForOwner entry)
      else none

-- ============================================================= the worker

/-- A read that is answered by a cache, unless it fails. -/
def ReadFate.through {α : Type} (fate : ReadFate α) (held : Option α) :
    ReadFate α :=
  match fate with
  | .failed => .failed
  | .fresh | .cached _ => .cached held

/-- The pod that Reconcile looks up once it has read what the caches hold
of the task. -/
def Informers.podOf (v : Informers) (key : NamespacedName) : Option Pod :=
  (v.agentTasks key).bind fun t => v.pods t.podKey

/-- The fates of a Reconcile whose AgentTask and pod are read from the
caches. -/
def Informers.serve (v : Informers) (key : NamespacedName)
    (fates : CallFates) : CallFates :=
  { fates with
    getAgentTask := fates.getAgentTask.through (v.agentTasks key)
    getPod := fates.getPod.through (v.podOf key) }

/-- Whoever acts on the cluster beside the operator's own Reconciles. -/
def applyOthers (env : Env) (a : Action) (c : Cluster) : Option Cluster :=
  match a with
  | .reconcile _ _ => none
  | a => c.apply env a

/-- The manager that `SetupWithManager` sets up. -/
def manager (env : Env) :
    WorkQueue.Worker Cluster Informers NamespacedName Action WatchEvent
      CallFates where
  blank := .empty
  move := applyOthers env
  learn := Informers.deliver
  work key fates c v :=
    let outcome := reconcile env (v.serve key fates) key c
    (outcome.1.isOk, outcome.2)

/-- The cluster, what the operator knows of it, and what it has queued. -/
abbrev Managed := WorkQueue.State Cluster Informers NamespacedName

abbrev ManagerLabel :=
  WorkQueue.Label NamespacedName Action WatchEvent CallFates

def Managed.init : Managed where
  world := .init
  view := .empty
  queue := []

/-- Nobody but the controller writes statuses. -/
def OwnStatus (_ : Managed) : ManagerLabel → Prop
  | .move (.editStatus _ _) => False
  | _ => True

instance (s : Managed) (a : ManagerLabel) : Decidable (OwnStatus s a) :=
  match a with
  | .move (.editStatus _ _) => isFalse id
  | .move (.createTask _ _) | .move (.editSpec _ _) | .move (.deleteTask _)
  | .move (.terminateTask _) | .move (.reconcile _ _)
  | .move (.collectConfigMap _) | .move (.collectNetworkPolicy _)
  | .move (.collectPod _) | .move (.setPodStatus _ _) | .move (.deletePod _)
  | .move (.setClock _) | .learn _ | .work _ _ | .restart => isTrue trivial

/-- Runs of the whole system whose every label meets the guard. -/
abbrev ManagedRun (env : Env) (guard : Managed → ManagerLabel → Prop) :
    Managed → Prop :=
  GuardedRun.Reaches (WorkQueue.step (manager env)) guard Managed.init

/-- An explicit run that meets the guard, and something computed from the
state it ends in. -/
theorem managed_of_run {α : Type} (env : Env)
    (guard : Managed → ManagerLabel → Prop) (labels : List ManagerLabel)
    (f : Managed → α) (x : α)
    (hm : GuardedRun.Meets (WorkQueue.step (manager env)) guard labels
      Managed.init)
    (h : (GuardedRun.exec (WorkQueue.step (manager env)) labels
      Managed.init).map f = some x) :
    ∃ s, ManagedRun env guard s ∧ f s = x :=
  GuardedRun.Reaches.of_exec_map hm h

end AgentAnvil.Operator
