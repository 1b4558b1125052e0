/-
When Reconcile writes a status.

Next to every assignment of the pod switch stands a flag that says whether
something has changed. `syncStatus_changed_iff` says the flag is right: it
is set just when the status that was computed is another one. A task
without a phase does not come to the switch: it is started over, whatever
its PodName (`computedStatus`).
-/
import AgentAnvil.Operator.Proofs.Settling

namespace AgentAnvil.Operator

-- ==================================================== statement vocabulary

/-- The status that Reconcile comes to for a task, in memory. -/
def computedStatus (status : AgentTaskStatus) (pod : PodStatus) (now : Nat) :
    AgentTaskStatus :=
  if status.phase = .empty then
    { status with
      phase := .pending
      podName := "" }
  else (syncStatus status pod now).1

/-- A Reconcile issues a status write: were the write to fail, so would
it. -/
def IssuesStatusWrite (env : Env) (fates : CallFates) (key : NamespacedName)
    (c : Cluster) : Prop :=
  (reconcile env { fates with updateStatus := .failed } key c).1
    = .error (.api .other)

/-- A Reconcile reads this task, which is to stay and has a PodName, and
this pod, which was built for a task. -/
structure FollowsBuiltPod (env : Env) (fates : CallFates) (c : Cluster)
    (t : AgentTask) (pod : Pod) : Prop where
  fetched : fates.getAgentTask.read (c.agentTasks t.key) = .ok t
  kept : t.deletionTimestamp = none
  podName : t.status.podName ≠ ""
  found : fates.getPod.read (c.pods ⟨t.nameSpace, t.status.podName⟩) = .ok pod
  built : ∃ t₀, pod.spec = (buildPodForAgentTask env t₀).spec
  phase : ∀ text, pod.status.phase ≠ .other text
  /-- the server keeps every task under its own key -/
  keyed : ∀ {k t'}, c.agentTasks k = some t' → t'.key = k

-- ================================================================ the flag

/-- The flag of the pod switch is set just when it has computed another
status. -/
theorem syncStatus_changed_iff {status : AgentTaskStatus} {pod : PodStatus}
    {now : Nat} (hphase : ∀ text, pod.phase ≠ .other text) :
    (syncStatus status pod now).2 = true
      ↔ (syncStatus status pod now).1 ≠ status := by
  constructor
  · intro hchanged hsame
    obtain ⟨pphase, preason⟩ := pod
    obtain ⟨phase, startedAt, finishedAt, podName, reason⟩ := status
    cases pphase with
    | pending => simp_all [syncStatus]
    | running => cases startedAt <;> simp_all [syncStatus]
    | succeeded => cases finishedAt <;> simp_all [syncStatus]
    | failed =>
        simp only [syncStatus] at hchanged hsame
        split at hchanged <;> cases finishedAt <;> simp_all
    | other text => exact hphase text rfl
  · intro hdiffers
    rw [← Bool.not_eq_false]
    exact mt (syncStatus_unchanged status pod now) hdiffers

-- =========================================================== the Reconcile

section

variable {env : Env} {fates : CallFates} {c : Cluster} {t : AgentTask}
  {pod : Pod}

/-- The cluster when the status is written: the pod was read, if the task
came to that. -/
def Cluster.seen (c : Cluster) (t : AgentTask) (pod : Pod) : Cluster :=
  if t.status.phase = .empty then c else c.observe pod

theorem Cluster.seen_agentTasks (c : Cluster) (t : AgentTask) (pod : Pod) :
    (c.seen t pod).agentTasks = c.agentTasks := by
  unfold Cluster.seen
  split
  · rfl
  · rfl

/-- Reconcile writes the status it has computed if it is another one, and
else it does nothing. -/
theorem reconcile_writes (h : FollowsBuiltPod env fates c t pod) :
    reconcile env fates t.key c
      = if computedStatus t.status pod.status c.clock = t.status then
          (.ok (), c.seen t pod)
        else updateStatus fates (c.seen t pod) t
          (computedStatus t.status pod.status c.clock) := by
  have hread : reconcile env fates t.key c
      = if t.status.phase = .empty then
          updateStatus fates c t { t.status with
            phase := .pending
            podName := "" }
        else followPod fates t c := by
    simp [reconcile, h.fetched, h.kept, h.podName]
  rw [hread, computedStatus, Cluster.seen]
  by_cases hempty : t.status.phase = .empty
  · have hdiffers : { t.status with phase := .pending, podName := "" }
        ≠ t.status := by
      intro hsame
      rw [← hsame] at hempty
      cases hempty
    simp only [hempty, if_true]
    rw [if_neg hdiffers]
  · obtain ⟨t₀, hbuilt⟩ := h.built
    have hreadable : configMapUnreadable pod = false := by
      unfold configMapUnreadable
      rw [getConfigMapFromPod_build t₀ pod hbuilt]
      exact Bool.and_false _
    have hfollow : followPod fates t c
        = if (syncStatus t.status pod.status c.clock).2 = true then
            updateStatus fates (c.observe pod) t
              (syncStatus t.status pod.status c.clock).1
          else (.ok (), c.observe pod) := by
      simp only [followPod, h.found, hreadable, Bool.false_eq_true, if_false]
      rfl
    simp only [hempty, if_false]
    rw [hfollow]
    by_cases hsame : (syncStatus t.status pod.status c.clock).1 = t.status
    · rw [if_pos hsame, if_neg]
      rw [syncStatus_changed_iff h.phase]
      exact not_not_intro hsame
    · rw [if_neg hsame, if_pos]
      exact (syncStatus_changed_iff h.phase).mpr hsame

/-- Whether the write is refused does not matter to what is read. -/
theorem FollowsBuiltPod.failing (h : FollowsBuiltPod env fates c t pod) :
    FollowsBuiltPod env { fates with updateStatus := .failed } c t pod :=
  ⟨h.fetched, h.kept, h.podName, h.found, h.built, h.phase, h.keyed⟩

/-- A status that was written without error is what is stored. -/
theorem updateStatus_stored {status : AgentTaskStatus}
    (hkeyed : ∀ {k t'}, c.agentTasks k = some t' → t'.key = k)
    (hok : (updateStatus fates c t status).1 = .ok ()) :
    ∃ t', (updateStatus fates c t status).2.agentTasks t.key = some t' ∧
      t'.status = status.stored := by
  unfold updateStatus answered at hok ⊢
  rcases hsend : fates.updateStatus.send c (c.storeStatus t status) with
    ⟨r, c'⟩
  rw [hsend] at hok
  cases r with
  | error err => cases hok
  | ok _ =>
      obtain ⟨-, hstore⟩ := CallFate.send_ok hsend
      simp only [Cluster.storeStatus] at hstore
      split at hstore
      · cases hstore
      · next cur hcur =>
          split at hstore
          · cases hstore
          · split at hstore
            · next hsame =>
                cases hstore
                exact ⟨cur, hcur, hsame⟩
            · cases hstore
              refine ⟨{ cur with
                status := status.stored
                resourceVersion := c.resourceVersion + 1 }, ?_, rfl⟩
              show Function.update c.agentTasks cur.key _ t.key = _
              rw [hkeyed hcur, Function.update_self]

/-- The phase computed is the pod's. -/
theorem computedStatus_phase {status : AgentTaskStatus} {pod : PodStatus}
    {now : Nat} (hphase : status.phase ≠ .empty) :
    (computedStatus status pod now).phase = phaseOf pod := by
  unfold computedStatus
  rw [if_neg hphase, syncStatus_phase]

/-- Reconcile issues a status write if and only if it has computed another
status than it has fetched. When it has succeeded the computed status is
the stored one, with its times in whole seconds if it was written, and with
the phase the pod stands for if the task had a phase. -/
theorem status_write_iff (h : FollowsBuiltPod env fates c t pod) :
    (IssuesStatusWrite env fates t.key c
      ↔ computedStatus t.status pod.status c.clock ≠ t.status) ∧
    ((reconcile env fates t.key c).1 = .ok () →
      (computedStatus t.status pod.status c.clock = t.status →
        c.agentTasks t.key = some t) →
      ∃ t', (reconcile env fates t.key c).2.agentTasks t.key = some t' ∧
        t'.status
          = (if computedStatus t.status pod.status c.clock = t.status then
              computedStatus t.status pod.status c.clock
            else (computedStatus t.status pod.status c.clock).stored) ∧
        (t.status.phase ≠ .empty →
          t'.status.phase = phaseOf pod.status)) := by
  constructor
  · unfold IssuesStatusWrite
    rw [reconcile_writes h.failing]
    by_cases hsame : computedStatus t.status pod.status c.clock = t.status
    · rw [if_pos hsame]
      refine iff_of_false ?_ (not_not_intro hsame)
      intro herror
      cases herror
    · rw [if_neg hsame]
      exact iff_of_true rfl hsame
  · intro hok hfresh
    have hphase (hne : t.status.phase ≠ .empty) :
        (computedStatus t.status pod.status c.clock).phase
          = phaseOf pod.status :=
      computedStatus_phase hne
    rw [reconcile_writes h] at hok ⊢
    by_cases hsame : computedStatus t.status pod.status c.clock = t.status
    · rw [if_pos hsame] at hok ⊢
      rw [if_pos hsame, c.seen_agentTasks]
      refine ⟨t, hfresh hsame, hsame.symm, fun hne => ?_⟩
      rw [← hphase hne, hsame]
    · rw [if_neg hsame] at hok ⊢
      rw [if_neg hsame]
      have hkeyed : ∀ {k t'}, (c.seen t pod).agentTasks k = some t' →
          t'.key = k := by
        rw [c.seen_agentTasks]
        exact h.keyed
      obtain ⟨t', hstored, hstatus⟩ := updateStatus_stored hkeyed hok
      refine ⟨t', hstored, hstatus, fun hne => ?_⟩
      rw [hstatus, AgentTaskStatus.stored_phase, hphase hne]

end

-- ================================================================ examples

namespace Sample

/-- The pod of the demo task. -/
def followedPod (pod : PodStatus) : Pod :=
  { newPod demo (task .zero) with
    name := "demo-pod-x7k2p"
    status := pod }

/-- The demo task with this status, and its pod. -/
def following (status : AgentTaskStatus) (pod : PodStatus) (clock : Nat) :
    Cluster :=
  { clusterWith status with
    pods := Function.update Cluster.init.pods ⟨"default", "demo-pod-x7k2p"⟩
      (some (followedPod pod))
    clock := clock }

def provisioned (phase : PhaseType) : AgentTaskStatus :=
  { AgentTaskStatus.zero with
    phase := phase
    podName := "demo-pod-x7k2p" }

/-- The demo task being deleted. -/
def deleting (c : Cluster) : Cluster :=
  { c with
    agentTasks := Function.update c.agentTasks key
      ((c.agentTasks key).map fun t => { t with deletionTimestamp := some 1 }) }

/-- What is stored of the status of the demo task after it was reconciled,
if that succeeds. -/
def reconciled (fates : CallFates) (c : Cluster) : Option AgentTaskStatus :=
  match reconcile demo fates key c with
  | (.ok _, c) => (c.agentTasks key).map AgentTask.status
  | (.error _, _) => none

/-- The sample follows the pod that was built for it. -/
theorem following_builtPod :
    FollowsBuiltPod demo served
      (following (provisioned .provisioning) ⟨.running, ""⟩ 1500000000)
      (task (provisioned .provisioning)) (followedPod ⟨.running, ""⟩) where
  fetched := by decide +kernel
  kept := rfl
  podName := by decide
  found := by decide +kernel
  built := ⟨task .zero, rfl⟩
  phase := fun text htext => by cases htext
  keyed := by
    intro k t' ht'
    rcases stored_cases ht' with ⟨rfl, rfl⟩ | hinit
    · rfl
    · cases hinit

end Sample

open Sample in
/-- The sample's pod has started to run. -/
theorem status_write_demo :
    (IssuesStatusWrite demo Sample.served key
        (following (provisioned .provisioning) ⟨.running, ""⟩ 1500000000)
      ↔ computedStatus (provisioned .provisioning) ⟨.running, ""⟩ 1500000000
          ≠ provisioned .provisioning) ∧
    ∃ t', (reconcile demo Sample.served key (following
        (provisioned .provisioning) ⟨.running, ""⟩ 1500000000)).2.agentTasks
          key = some t' ∧
      t'.status = (computedStatus (provisioned .provisioning) ⟨.running, ""⟩
        1500000000).stored ∧
      t'.status.phase = .running := by
  obtain ⟨hissues, hstored⟩ := status_write_iff following_builtPod
  have hok : (reconcile demo Sample.served key (following
      (provisioned .provisioning) ⟨.running, ""⟩ 1500000000)).1 = .ok () := by
    decide +kernel
  have hdiffers : computedStatus (provisioned .provisioning) ⟨.running, ""⟩
      1500000000 ≠ provisioned .provisioning := by
    decide
  obtain ⟨t', htask, hstatus, hphase⟩ :=
    hstored hok fun hsame => absurd hsame hdiffers
  exact ⟨hissues, t', htask, hstatus.trans (if_neg hdiffers),
    hphase (by decide)⟩

open Sample in
/-- A task without a phase is started over, and one that is being deleted
is left alone, whatever the pod does; a time loses its fraction of a second;
and a version that is no longer the stored one is taken for it. -/
theorem reconciled_not_computed :
    reconciled Sample.served (following (provisioned .empty) ⟨.running, ""⟩ 0)
        = some { AgentTaskStatus.zero with phase := .pending } ∧
      reconciled Sample.served (deleting
          (following (provisioned .provisioning) ⟨.running, ""⟩ 0))
        = some (provisioned .provisioning) ∧
      (reconciled Sample.served
          (following (provisioned .provisioning) ⟨.running, ""⟩
            1500000000)).map AgentTaskStatus.startedAt
        = some (some 1000000000) ∧
      (computedStatus (provisioned .provisioning) ⟨.running, ""⟩
        1500000000).startedAt = some 1500000000 ∧
      reconciled
          { Sample.served with
            getAgentTask := .cached (some (task (provisioned .provisioning)))
            getPod := .cached (some (followedPod ⟨.pending, ""⟩)) }
          (following (provisioned .completed) ⟨.succeeded, ""⟩ 0)
        = some (provisioned .completed) := by
  decide +kernel

end AgentAnvil.Operator
