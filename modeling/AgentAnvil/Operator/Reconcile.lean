/-
`AgentTaskReconciler.Reconcile` and the helpers it calls
(`internal/controller/agenttask_controller.go`).

Each function takes the cluster and returns the error Reconcile would
return together with the cluster it leaves behind; logging is left out. A
Go early return is a branch that ends. `metav1.Now()` reads the cluster's
clock, which stands still during one Reconcile.
-/
import AgentAnvil.Operator.Cluster

namespace AgentAnvil.Operator

/-- The error of a Reconcile, and the cluster it leaves behind. -/
abbrev Outcome := Except ReconcileError Unit × Cluster

/-- An API call's answer as Reconcile's own. -/
def answered (r : Except ApiError Unit × Cluster) : Outcome :=
  (r.1.mapError .api, r.2)

/-- `r.Status().Update(ctx, agenttask)` with the status computed so far. -/
def updateStatus (fates : CallFates) (c : Cluster) (agenttask : AgentTask)
    (status : AgentTaskStatus) : Outcome :=
  answered (fates.updateStatus.send c (c.storeStatus agenttask status))

variable (env : Env) (fates : CallFates)

-- ============================================ before the pod is created

def ensureConfigMapForPod (agenttask : AgentTask) (c : Cluster) :
    Except ApiError Unit × Cluster :=
  match fates.getConfigMap.read
      (c.configMaps ⟨agenttask.nameSpace, buildConfigMapName env agenttask⟩)
    with
  | .ok _ => (.ok (), c)
  | .error err =>
      if err = .notFound ∧ agenttask.status.podName = "" then
        match buildConfigMapForAgentTask env agenttask with
        -- a spec that cannot be marshalled is logged, not reported
        | none => (.ok (), c)
        | some newConfigMap =>
            fates.createConfigMap.send c
              (c.createConfigMap { newConfigMap with
                owner := some agenttask.ownerReference })
      -- both remaining branches of the source return the error
      else (.error err, c)

def ensureNetworkPolicyForPod (agenttask : AgentTask) (c : Cluster) :
    Except ApiError Unit × Cluster :=
  let networkPolicy := buildNetworkPolicy agenttask.nameSpace agenttask.name
  match fates.getNetworkPolicy.read
      (c.networkPolicies ⟨networkPolicy.nameSpace, networkPolicy.name⟩) with
  | .ok _ => (.ok (), c)
  | .error err =>
      if err = .notFound then
        fates.createNetworkPolicy.send c
          (c.createNetworkPolicy { networkPolicy with
            owner := some agenttask.ownerReference })
      else (.error err, c)

/-- The built pod with its controller reference set. -/
def newPod (agenttask : AgentTask) : Pod :=
  { buildPodForAgentTask env agenttask with
    owner := some agenttask.ownerReference }

/-- The Pending branch: ConfigMap, NetworkPolicy, pod, and then the status
that remembers the pod. -/
def createPodForTask (agenttask : AgentTask) (c : Cluster) : Outcome :=
  match ensureConfigMapForPod env fates agenttask c with
  | (.error err, c) => (.error (.api err), c)
  | (.ok _, c) =>
      match ensureNetworkPolicyForPod fates agenttask c with
      | (.error err, c) => (.error (.api err), c)
      | (.ok _, c) =>
          match fates.createPod.send c
              (c.createPod agenttask (newPod env agenttask)
                fates.podSuffix) with
          | (.error err, c) => (.error (.api err), c)
          | (.ok pod, c) =>
              updateStatus fates c agenttask { agenttask.status with
                podName := pod.name
                phase := .provisioning }

-- ============================================= once the status has a pod

/-- The switch on the pod's phase: the status it computes, and whether it
is written. The last branch writes whatever it has computed. -/
def syncStatus (status : AgentTaskStatus) (pod : PodStatus) (now : Nat) :
    AgentTaskStatus × Bool :=
  match pod.phase with
  | .pending =>
      ({ status with phase := .provisioning },
        status.phase ≠ .provisioning)
  | .running =>
      ({ status with
          phase := .running
          startedAt := some (status.startedAt.getD now) },
        status.phase ≠ .running || status.startedAt.isNone)
  | .succeeded =>
      ({ status with
          phase := .completed
          finishedAt := some (status.finishedAt.getD now)
          reason := "Pod completed successfully." },
        status.phase ≠ .completed || status.finishedAt.isNone
          || status.reason ≠ "Pod completed successfully.")
  | .failed =>
      if pod.reason = "Evicted" then
        ({ status with
            phase := .evicted
            finishedAt := some (status.finishedAt.getD now)
            reason := "Pod was evicted." },
          status.phase ≠ .evicted || status.reason ≠ "Pod was evicted."
            || status.finishedAt.isNone)
      else
        ({ status with
            phase := .failed
            finishedAt := some (status.finishedAt.getD now)
            reason := "Pod failed." },
          status.phase ≠ .failed || status.reason ≠ "Pod failed."
            || status.finishedAt.isNone)
  | .other _ =>
      ({ status with
          phase := .failed
          finishedAt := some (status.finishedAt.getD now)
          reason := "Pod in unexpected phase" },
        true)

/-- A live pod whose task volume names no ConfigMap. -/
def configMapUnreadable (pod : Pod) : Bool :=
  (decide (pod.status.phase = .running) || decide (pod.status.phase = .pending))
    && (getConfigMapFromPod pod "task" "task.yaml" "task.yaml").isNone

/-- The branch for a status that has a PodName. -/
def followPod (agenttask : AgentTask) (c : Cluster) : Outcome :=
  match fates.getPod.read
      (c.pods ⟨agenttask.nameSpace, agenttask.status.podName⟩) with
  | .error err =>
      if err = .notFound then
        if agenttask.status.phase.terminal then (.ok (), c)
        else
          updateStatus fates c agenttask { agenttask.status with
            phase := .failed
            reason := "Pod not found"
            finishedAt := some c.clock }
      else (.error (.api err), c)
  | .ok pod =>
      let c := c.observe pod
      if configMapUnreadable pod then
        (.error (.msg ("error reading configMap for Pod " ++ pod.name)), c)
      else
        let (status, changed) := syncStatus agenttask.status pod.status c.clock
        if changed then updateStatus fates c agenttask status
        else (.ok (), c)

-- ============================================================ Reconcile

def reconcile (req : NamespacedName) (c : Cluster) : Outcome :=
  match fates.getAgentTask.read (c.agentTasks req) with
  | .error err =>
      (if err = .notFound then .ok () else .error (.api err), c)
  | .ok agenttask =>
      if agenttask.deletionTimestamp.isSome then (.ok (), c)
      else if agenttask.status.phase = .empty then
        updateStatus fates c agenttask { agenttask.status with
          phase := .pending
          podName := "" }
      else if agenttask.status.podName = "" then
        if agenttask.status.phase = .pending then
          createPodForTask env fates agenttask c
        else
          updateStatus fates c agenttask { agenttask.status with
            phase := .failed
            reason := "Invalid state"
            finishedAt := some c.clock }
      else followPod fates agenttask c

-- ========================================= what the switch computes

/-- The phase a pod's status stands for. -/
def phaseOf (pod : PodStatus) : PhaseType :=
  match pod.phase with
  | .pending => .provisioning
  | .running => .running
  | .succeeded => .completed
  | .failed => if pod.reason = "Evicted" then .evicted else .failed
  | .other _ => .failed

section SyncStatus

variable (status : AgentTaskStatus) (pod : PodStatus) (now : Nat)

@[simp] theorem syncStatus_podName :
    (syncStatus status pod now).1.podName = status.podName := by
  obtain ⟨phase, reason⟩ := pod
  cases phase with
  | failed =>
      simp only [syncStatus]
      split <;> rfl
  | _ => rfl

@[simp] theorem syncStatus_phase :
    (syncStatus status pod now).1.phase = phaseOf pod := by
  obtain ⟨phase, reason⟩ := pod
  cases phase with
  | failed =>
      simp only [syncStatus, phaseOf]
      split <;> rfl
  | _ => rfl

/-- StartedAt is set by a running pod, once. -/
theorem syncStatus_startedAt :
    (syncStatus status pod now).1.startedAt
      = if pod.phase = .running then some (status.startedAt.getD now)
        else status.startedAt := by
  obtain ⟨phase, reason⟩ := pod
  cases phase with
  | failed =>
      simp only [syncStatus]
      split <;> rfl
  | _ => rfl

/-- FinishedAt is set by a pod in an end state, once. -/
theorem syncStatus_finishedAt :
    (syncStatus status pod now).1.finishedAt
      = if (phaseOf pod).terminal then some (status.finishedAt.getD now)
        else status.finishedAt := by
  obtain ⟨phase, reason⟩ := pod
  cases phase with
  | failed =>
      simp only [syncStatus, phaseOf]
      split <;> rfl
  | _ => rfl

variable {status pod now} in
/-- A start that is recorded was recorded before, or is now. -/
theorem syncStatus_startedAt_cases {a : Nat}
    (h : (syncStatus status pod now).1.startedAt = some a) :
    status.startedAt = some a ∨ (pod.phase = .running ∧ a = now) := by
  rw [syncStatus_startedAt] at h
  split at h
  next hr =>
    cases hs : status.startedAt with
    | none =>
        rw [hs] at h
        cases h
        exact .inr ⟨hr, rfl⟩
    | some b =>
        rw [hs] at h
        exact .inl h
  next => exact .inl h

variable {status pod now} in
/-- An end that is recorded was recorded before, or is now. -/
theorem syncStatus_finishedAt_cases {b : Nat}
    (h : (syncStatus status pod now).1.finishedAt = some b) :
    status.finishedAt = some b ∨ ((phaseOf pod).terminal = true ∧ b = now) := by
  rw [syncStatus_finishedAt] at h
  split at h
  next hterm =>
    cases hs : status.finishedAt with
    | none =>
        rw [hs] at h
        cases h
        exact .inr ⟨hterm, rfl⟩
    | some f =>
        rw [hs] at h
        exact .inl h
  next => exact .inl h

/-- What is not written back is what is stored already. -/
theorem syncStatus_unchanged (h : (syncStatus status pod now).2 = false) :
    (syncStatus status pod now).1 = status := by
  obtain ⟨pphase, preason⟩ := pod
  obtain ⟨phase, startedAt, finishedAt, podName, reason⟩ := status
  cases pphase with
  | pending => simp_all [syncStatus]
  | running => cases startedAt <;> simp_all [syncStatus]
  | succeeded => cases finishedAt <;> simp_all [syncStatus]
  | failed =>
      simp only [syncStatus] at h ⊢
      split at h <;> cases finishedAt <;> simp_all
  | other text => cases h

/-- Following a pod never gives the empty phase. -/
theorem phaseOf_ne_empty : phaseOf pod ≠ .empty := by
  obtain ⟨phase, reason⟩ := pod
  cases phase with
  | failed =>
      simp only [phaseOf]
      split <;> decide
  | _ => exact PhaseType.noConfusion

theorem phaseOf_ne_pending : phaseOf pod ≠ .pending := by
  obtain ⟨phase, reason⟩ := pod
  cases phase with
  | failed =>
      simp only [phaseOf]
      split <;> decide
  | _ => exact PhaseType.noConfusion

variable {pod} in
/-- A task completes only with its pod. -/
theorem succeeded_of_completed (h : phaseOf pod = .completed) :
    pod.phase = .succeeded := by
  obtain ⟨phase, reason⟩ := pod
  cases phase with
  | succeeded => rfl
  | failed =>
      simp only [phaseOf] at h
      split at h <;> cases h
  | pending | running | other => cases h

variable {pod} in
/-- It is evicted only with a pod that failed for that reason. -/
theorem failed_of_evicted (h : phaseOf pod = .evicted) :
    pod.phase = .failed ∧ pod.reason = "Evicted" := by
  obtain ⟨phase, reason⟩ := pod
  cases phase with
  | failed =>
      simp only [phaseOf] at h
      split at h
      next hreason => exact ⟨rfl, hreason⟩
      next => cases h
  | pending | running | succeeded | other => cases h

end SyncStatus

end AgentAnvil.Operator
