/-
Whether Reconcile settles.

Nobody but the controller acts, its calls succeed and read what is stored,
and at least a second passes between two Reconciles. Then after two of them
nothing that is stored changes any more, unless the task stands in the
state Reconcile itself calls invalid: no PodName, and a phase that is
neither empty nor Pending. There every Reconcile writes a new FinishedAt,
and the write brings about the next one (`settles_iff`).

`AtRest` is what the other states come to, and `atRest_reconcile` the
fixed point.
-/
import AgentAnvil.Operator.Proofs.StatusHistory

namespace AgentAnvil.Operator

-- ==================================================== statement vocabulary

/-- The same objects are stored. -/
structure SameObjects (c c' : Cluster) : Prop where
  agentTasks : c'.agentTasks = c.agentTasks
  configMaps : c'.configMaps = c.configMaps
  networkPolicies : c'.networkPolicies = c.networkPolicies
  pods : c'.pods = c.pods

/-- When Reconcile is called, and what the server would append to the name
of a pod. -/
structure ReconcileCall where
  time : Nat
  podSuffix : String

/-- Reads are fresh, and writes are served. -/
def served (podSuffix : String) : CallFates where
  getAgentTask := .fresh
  getConfigMap := .fresh
  createConfigMap := .served
  getNetworkPolicy := .fresh
  createNetworkPolicy := .served
  createPod := .served
  podSuffix := podSuffix
  getPod := .fresh
  updateStatus := .served

section

variable (env : Env) (key : NamespacedName)

def reconcileAt (call : ReconcileCall) (c : Cluster) : Outcome :=
  reconcile env (served call.podSuffix) key { c with clock := call.time }

/-- The cluster after so many calls. -/
def afterCalls (calls : Nat → ReconcileCall) (c : Cluster) : Nat → Cluster
  | 0 => c
  | n + 1 => (reconcileAt env key (calls n) (afterCalls calls c n)).2

/-- A second passes between two calls, and no API call of theirs fails. -/
structure Undisturbed (calls : Nat → ReconcileCall) (c : Cluster) : Prop where
  clock : ∀ n, (calls n).time + 1000000000 ≤ (calls (n + 1)).time
  succeeds : ∀ n err,
    (reconcileAt env key (calls n) (afterCalls env key calls c n)).1
      ≠ .error (.api err)

/-- From some number of calls on, further calls change no stored object. -/
def Settles (calls : Nat → ReconcileCall) (c : Cluster) : Prop :=
  ∃ n, ∀ m, n ≤ m →
    SameObjects (afterCalls env key calls c n) (afterCalls env key calls c m)

end

/-- The AgentTask, if there is one, is stored under its own name, and its
times in whole seconds. -/
def WellStored (key : NamespacedName) (c : Cluster) : Prop :=
  ∀ t, c.agentTasks key = some t → t.key = key ∧ t.status.stored = t.status

/-- What Reconcile logs as an unexpected state. -/
structure InvalidState (t : AgentTask) : Prop where
  deletionTimestamp : t.deletionTimestamp = none
  podName : t.status.podName = ""
  phase : t.status.phase ≠ .empty ∧ t.status.phase ≠ .pending

-- ============================================================ same objects

namespace SameObjects

variable {c c' c'' : Cluster}

theorem refl (c : Cluster) : SameObjects c c := ⟨rfl, rfl, rfl, rfl⟩

theorem symm (h : SameObjects c c') : SameObjects c' c :=
  ⟨h.agentTasks.symm, h.configMaps.symm, h.networkPolicies.symm, h.pods.symm⟩

theorem trans (h : SameObjects c c') (h' : SameObjects c' c'') :
    SameObjects c c'' where
  agentTasks := h'.agentTasks.trans h.agentTasks
  configMaps := h'.configMaps.trans h.configMaps
  networkPolicies := h'.networkPolicies.trans h.networkPolicies
  pods := h'.pods.trans h.pods

/-- What is stored is said of the objects alone. -/
theorem wellStored {key : NamespacedName} (h : SameObjects c c')
    (hstored : WellStored key c) : WellStored key c' := by
  intro t ht
  rw [h.agentTasks] at ht
  exact hstored t ht

end SameObjects

-- ================================================= the branches of Reconcile

section

variable {env : Env} {key : NamespacedName} {c : Cluster} {t : AgentTask}
  {suffix : String}

/-- A Reconcile of a task that is not there does nothing. -/
theorem reconcile_absent (h : c.agentTasks key = none) :
    reconcile env (served suffix) key c = (.ok (), c) := by
  simp [reconcile, served, ReadFate.read, h]

theorem reconcile_deleting (h : c.agentTasks key = some t)
    (hdel : t.deletionTimestamp.isSome = true) :
    reconcile env (served suffix) key c = (.ok (), c) := by
  simp [reconcile, served, ReadFate.read, h, hdel]

/-- What Reconcile does of a task that is there to stay. -/
theorem reconcile_read (h : c.agentTasks key = some t)
    (hdel : t.deletionTimestamp = none) :
    reconcile env (served suffix) key c
      = if t.status.phase = .empty then
          updateStatus (served suffix) c t { t.status with
            phase := .pending
            podName := "" }
        else if t.status.podName = "" then
          if t.status.phase = .pending then
            createPodForTask env (served suffix) t c
          else
            updateStatus (served suffix) c t { t.status with
              phase := .failed
              reason := "Invalid state"
              finishedAt := some c.clock }
        else followPod (served suffix) t c := by
  simp [reconcile, served, ReadFate.read, h, hdel]

/-- The status was written over the task, and nothing else. -/
structure Wrote (t : AgentTask) (status : AgentTaskStatus)
    (c c' : Cluster) : Prop where
  agentTasks : ∃ v, c'.agentTasks = Function.update c.agentTasks t.key
    (some { t with status := status.stored, resourceVersion := v })
  configMaps : c'.configMaps = c.configMaps
  networkPolicies : c'.networkPolicies = c.networkPolicies
  pods : c'.pods = c.pods

/-- A status that is written over the version just read is stored. -/
theorem updateStatus_served (suffix : String)
    (h : c.agentTasks t.key = some t) (status : AgentTaskStatus) :
    Wrote t status c (updateStatus (served suffix) c t status).2 ∧
      (updateStatus (served suffix) c t status).1 = .ok () := by
  have hsend : updateStatus (served suffix) c t status
      = answered (c.storeStatus t status) := rfl
  by_cases heq : t.status = status.stored
  · have hstore : c.storeStatus t status = (.ok (), c) := by
      simp [Cluster.storeStatus, h, heq]
    rw [hsend, hstore]
    refine ⟨⟨⟨t.resourceVersion, ?_⟩, rfl, rfl, rfl⟩, rfl⟩
    rw [← heq]
    exact (Function.update_eq_self_iff.mpr h.symm).symm
  · have hstore : c.storeStatus t status
        = (.ok (), c.storeAgentTask { t with status := status.stored }) := by
      simp [Cluster.storeStatus, h, heq]
    rw [hsend, hstore]
    exact ⟨⟨⟨c.resourceVersion + 1, rfl⟩, rfl, rfl, rfl⟩, rfl⟩

/-- A write that says what is stored changes nothing. -/
theorem updateStatus_same (h : c.agentTasks t.key = some t)
    {status : AgentTaskStatus} (hsame : status.stored = t.status) :
    updateStatus (served suffix) c t status = (.ok (), c) := by
  have hstore : c.storeStatus t status = (.ok (), c) := by
    simp [Cluster.storeStatus, h, hsame]
  show answered (c.storeStatus t status) = _
  rw [hstore]
  rfl

end

-- ================================================================= at rest

/-- The pod switch has nothing to write. -/
def Synced (status : AgentTaskStatus) (pod : PodStatus) : Prop :=
  ∀ now, (syncStatus status pod now).1.stored = status

/-- What the switch has written it does not write again. -/
theorem synced_syncStatus (status : AgentTaskStatus) (pod : PodStatus)
    (now : Nat) : Synced (syncStatus status pod now).1.stored pod := by
  intro later
  have hsame : (syncStatus (syncStatus status pod now).1.stored pod later).1
      = (syncStatus status pod now).1.stored := by
    obtain ⟨pphase, reason⟩ := pod
    cases pphase with
    | failed =>
        by_cases hevicted : reason = "Evicted"
        · simp only [syncStatus, if_pos hevicted]
          rfl
        · simp only [syncStatus, if_neg hevicted]
          rfl
    | _ => rfl
  rw [hsame, AgentTaskStatus.stored_stored]

/-- A task that follows its pod and has nothing left to write: the pod is
gone and the phase terminal, or the pod's ConfigMap cannot be read, or the
status says what the pod's does. -/
structure Followed (t : AgentTask) (c : Cluster) : Prop where
  deletionTimestamp : t.deletionTimestamp = none
  phase : t.status.phase ≠ .empty
  podName : t.status.podName ≠ ""
  gone : c.pods ⟨t.nameSpace, t.status.podName⟩ = none →
    t.status.phase.terminal = true
  there : ∀ pod, c.pods ⟨t.nameSpace, t.status.podName⟩ = some pod →
    configMapUnreadable pod = true ∨ Synced t.status pod.status

/-- A task that ended need not have a pod any more. -/
theorem followed_gone {t : AgentTask} {c : Cluster}
    (hdel : t.deletionTimestamp = none) (hphase : t.status.phase ≠ .empty)
    (hname : t.status.podName ≠ "")
    (hpod : c.pods ⟨t.nameSpace, t.status.podName⟩ = none)
    (hterm : t.status.phase.terminal = true) : Followed t c := by
  refine ⟨hdel, hphase, hname, fun _ => hterm, ?_⟩
  intro pod hthere
  rw [hpod] at hthere
  cases hthere

/-- A task with a pod is followed if its status says what the pod's does, or
the pod cannot read its ConfigMap. -/
theorem followed_there {t : AgentTask} {c : Cluster} (pod : Pod)
    (hdel : t.deletionTimestamp = none) (hphase : t.status.phase ≠ .empty)
    (hname : t.status.podName ≠ "")
    (hpod : c.pods ⟨t.nameSpace, t.status.podName⟩ = some pod)
    (hsynced : configMapUnreadable pod = true ∨ Synced t.status pod.status) :
    Followed t c := by
  refine ⟨hdel, hphase, hname, ?_, ?_⟩
  · intro hgone
    rw [hpod] at hgone
    cases hgone
  · intro pod' hthere
    rw [hpod] at hthere
    cases hthere
    exact hsynced

/-- No task, a task marked for deletion, or one that has followed its
pod. -/
def AtRest (key : NamespacedName) (c : Cluster) : Prop :=
  ∀ t, c.agentTasks key = some t →
    t.deletionTimestamp.isSome = true ∨ Followed t c

theorem atRest_absent {key : NamespacedName} {c : Cluster}
    (h : c.agentTasks key = none) : AtRest key c := by
  intro t ht
  rw [h] at ht
  cases ht

/-- There is nothing to do for a task that is being deleted, or that is
followed. -/
theorem atRest_of_read {key : NamespacedName} {c : Cluster} {t : AgentTask}
    (hread : c.agentTasks key = some t)
    (h : t.deletionTimestamp.isSome = true ∨ Followed t c) :
    AtRest key c := by
  intro t' ht'
  rw [hread] at ht'
  cases ht'
  exact h

theorem AtRest.congr {key : NamespacedName} {c c' : Cluster}
    (hrest : AtRest key c) (h : SameObjects c c') : AtRest key c' := by
  intro t ht
  rw [h.agentTasks] at ht
  rcases hrest t ht with hdel | hfollowed
  · exact Or.inl hdel
  · right
    exact { hfollowed with
      gone := by
        rw [h.pods]
        exact hfollowed.gone
      there := by
        rw [h.pods]
        exact hfollowed.there }

section

variable {env : Env} {key : NamespacedName} {c : Cluster} {t : AgentTask}
  {suffix : String}

/-- With the pod gone, a task that has not ended fails. -/
theorem followPod_gone (hpod : c.pods ⟨t.nameSpace, t.status.podName⟩ = none) :
    followPod (served suffix) t c
      = if t.status.phase.terminal then (.ok (), c)
        else updateStatus (served suffix) c t { t.status with
          phase := .failed
          reason := "Pod not found"
          finishedAt := some c.clock } := by
  simp [followPod, served, ReadFate.read, hpod]

/-- With the pod there, the status is written if it changes. -/
theorem followPod_there {pod : Pod}
    (hpod : c.pods ⟨t.nameSpace, t.status.podName⟩ = some pod) :
    followPod (served suffix) t c
      = if configMapUnreadable pod then
          (.error (.msg ("error reading configMap for Pod " ++ pod.name)),
            c.observe pod)
        else if (syncStatus t.status pod.status c.clock).2 then
          updateStatus (served suffix) (c.observe pod) t
            (syncStatus t.status pod.status c.clock).1
        else (.ok (), c.observe pod) := by
  have hread : (served suffix).getPod.read
      (c.pods ⟨t.nameSpace, t.status.podName⟩) = .ok pod := by
    rw [hpod]
    rfl
  rw [followPod, hread]
  rfl

theorem sameObjects_observe (c : Cluster) (pod : Pod) :
    SameObjects c (c.observe pod) := ⟨rfl, rfl, rfl, rfl⟩

/-- The fixed point: a Reconcile of what is at rest changes no object. -/
theorem atRest_reconcile (hstored : WellStored key c) (hrest : AtRest key c) :
    SameObjects c (reconcile env (served suffix) key c).2 := by
  cases hread : c.agentTasks key with
  | none =>
      rw [reconcile_absent hread]
      exact SameObjects.refl c
  | some t =>
      rcases hrest t hread with hdel | h
      · rw [reconcile_deleting hread hdel]
        exact SameObjects.refl c
      · have hkey : c.agentTasks t.key = some t := by
          rw [(hstored t hread).1, hread]
        rw [reconcile_read hread h.deletionTimestamp, if_neg h.phase,
          if_neg h.podName]
        cases hpod : c.pods ⟨t.nameSpace, t.status.podName⟩ with
        | none =>
            rw [followPod_gone hpod, if_pos (h.gone hpod)]
            exact SameObjects.refl c
        | some pod =>
            rw [followPod_there hpod]
            have hobserve := sameObjects_observe c pod
            rcases h.there pod hpod with hunreadable | hsynced
            · rw [if_pos hunreadable]
              exact hobserve
            · rw [updateStatus_same (c := c.observe pod) hkey
                (hsynced c.clock)]
              split
              · exact hobserve
              · split <;> exact hobserve

/-- The task as it is after its status was written. -/
theorem Wrote.read {c' : Cluster} {status : AgentTaskStatus}
    (h : Wrote t status c c') (hkey : t.key = key) {t' : AgentTask}
    (ht' : c'.agentTasks key = some t') :
    ∃ v, t' = { t with status := status.stored, resourceVersion := v } := by
  obtain ⟨v, hv⟩ := h.agentTasks
  rw [hv, ← hkey, Function.update_self] at ht'
  exact ⟨v, (Option.some.inj ht').symm⟩

/-- A status that was written is stored. -/
theorem Wrote.wellStored {c' : Cluster} {status : AgentTaskStatus}
    (h : Wrote t status c c') (hkey : t.key = key) : WellStored key c' := by
  intro t' ht'
  obtain ⟨v, rfl⟩ := h.read hkey ht'
  exact ⟨hkey, AgentTaskStatus.stored_stored status⟩

/-- A Reconcile of a task that has a PodName brings it to rest. -/
theorem followPod_atRest (hstored : WellStored key c)
    (hread : c.agentTasks key = some t) (hdel : t.deletionTimestamp = none)
    (hphase : t.status.phase ≠ .empty) (hname : t.status.podName ≠ "") :
    AtRest key (followPod (served suffix) t c).2 ∧
      WellStored key (followPod (served suffix) t c).2 := by
  obtain ⟨hkey, hwhole⟩ := hstored t hread
  have hself : c.agentTasks t.key = some t := by rw [hkey, hread]
  -- what is left as it was read is at rest if the task has followed its pod
  have hleft : ∀ c', SameObjects c c' → Followed t c' →
      AtRest key c' ∧ WellStored key c' := by
    intro c' hsame hfollowed
    refine ⟨atRest_of_read ?_ (Or.inr hfollowed), hsame.wellStored hstored⟩
    rw [hsame.agentTasks, hread]
  cases hpod : c.pods ⟨t.nameSpace, t.status.podName⟩ with
  | none =>
      rw [followPod_gone hpod]
      by_cases hterm : t.status.phase.terminal = true
      · rw [if_pos hterm]
        exact hleft c (SameObjects.refl c)
          (followed_gone hdel hphase hname hpod hterm)
      · rw [if_neg hterm]
        obtain ⟨hwrote, -⟩ := updateStatus_served suffix hself
          { t.status with
            phase := .failed
            reason := "Pod not found"
            finishedAt := some c.clock }
        refine ⟨?_, hwrote.wellStored hkey⟩
        intro t' ht'
        obtain ⟨v, rfl⟩ := hwrote.read hkey ht'
        refine Or.inr (followed_gone hdel PhaseType.noConfusion hname ?_ rfl)
        rw [hwrote.pods]
        exact hpod
  | some pod =>
      have hobserve := sameObjects_observe c pod
      have hthere : (c.observe pod).pods ⟨t.nameSpace, t.status.podName⟩
          = some pod := hpod
      rw [followPod_there hpod]
      by_cases hunreadable : configMapUnreadable pod = true
      · rw [if_pos hunreadable]
        exact hleft _ hobserve (followed_there pod hdel hphase hname hthere
          (Or.inl hunreadable))
      · rw [if_neg hunreadable]
        have hsynced := synced_syncStatus t.status pod.status c.clock
        cases hchanged : (syncStatus t.status pod.status c.clock).2 with
        | false =>
            rw [if_neg Bool.false_ne_true]
            refine hleft _ hobserve (followed_there pod hdel hphase hname hthere
              (Or.inr ?_))
            rwa [syncStatus_unchanged _ _ _ hchanged, hwhole] at hsynced
        | true =>
            rw [if_pos rfl]
            obtain ⟨hwrote, -⟩ := updateStatus_served suffix
              (c := c.observe pod) hself
              (syncStatus t.status pod.status c.clock).1
            refine ⟨?_, hwrote.wellStored hkey⟩
            intro t' ht'
            obtain ⟨v, rfl⟩ := hwrote.read hkey ht'
            refine Or.inr (followed_there pod hdel ?_ ?_ ?_ (Or.inr hsynced))
            · rw [AgentTaskStatus.stored_phase, syncStatus_phase]
              exact phaseOf_ne_empty _
            · rw [AgentTaskStatus.stored_podName, syncStatus_podName]
              exact hname
            · rw [hwrote.pods, AgentTaskStatus.stored_podName,
                syncStatus_podName]
              exact hpod

/-- The Pending branch where no call fails: everything is made, and the
status that names the pod is written. -/
theorem createPodForTask_served
    (hok : ∀ err, (createPodForTask env (served suffix) t c).1
      ≠ .error (.api err)) :
    ∃ c₁, Prepared env (served suffix) t c c₁ ∧
      createPodForTask env (served suffix) t c
        = updateStatus (served suffix)
            (c₁.addPod t (madePod env (served suffix) t)) t { t.status with
              podName := (madePod env (served suffix) t).name
              phase := .provisioning } := by
  simp only [createPodForTask] at hok ⊢
  rcases hcm : ensureConfigMapForPod env (served suffix) t c with ⟨r₁, c₁⟩
  cases r₁ with
  | error err =>
      rw [hcm] at hok
      exact absurd rfl (hok err)
  | ok _ =>
      rcases hnp : ensureNetworkPolicyForPod (served suffix) t c₁
        with ⟨r₂, c₂⟩
      cases r₂ with
      | error err =>
          simp only [hcm, hnp] at hok
          exact absurd rfl (hok err)
      | ok _ =>
          simp only [hcm, hnp] at hok ⊢
          rcases sendCreatePod_cases (served suffix).createPod c₂ t
              (newPod env t) (served suffix).podSuffix with
            ⟨err, h⟩ | ⟨-, hlost, -⟩ | ⟨-, -, h⟩
          · simp only [h] at hok
            exact absurd rfl (hok err)
          · cases hlost
          · simp only [h]
            exact ⟨c₂, ⟨c₁, hcm, hnp⟩, rfl⟩

theorem ok_ne_api (err : ApiError) :
    (.ok () : Except ReconcileError Unit) ≠ .error (.api err) := by
  intro h
  cases h

/-- A Reconcile of what is at rest meets no API error. -/
theorem atRest_ok (hstored : WellStored key c) (hrest : AtRest key c)
    (err : ApiError) :
    (reconcile env (served suffix) key c).1 ≠ .error (.api err) := by
  cases hread : c.agentTasks key with
  | none =>
      rw [reconcile_absent hread]
      exact ok_ne_api err
  | some t =>
      rcases hrest t hread with hdel | h
      · rw [reconcile_deleting hread hdel]
        exact ok_ne_api err
      · have hkey : c.agentTasks t.key = some t := by
          rw [(hstored t hread).1, hread]
        rw [reconcile_read hread h.deletionTimestamp, if_neg h.phase,
          if_neg h.podName]
        cases hpod : c.pods ⟨t.nameSpace, t.status.podName⟩ with
        | none =>
            rw [followPod_gone hpod, if_pos (h.gone hpod)]
            exact ok_ne_api err
        | some pod =>
            rw [followPod_there hpod]
            split
            · intro heq
              cases heq
            · split
              · rw [(updateStatus_served suffix (c := c.observe pod) hkey _).2]
                exact ok_ne_api err
              · exact ok_ne_api err

/-- A pod that was made is Pending, as the status says. -/
theorem createPodForTask_atRest (hstored : WellStored key c)
    (hread : c.agentTasks key = some t) (hdel : t.deletionTimestamp = none)
    (hok : ∀ err, (createPodForTask env (served suffix) t c).1
      ≠ .error (.api err)) :
    AtRest key (createPodForTask env (served suffix) t c).2 ∧
      WellStored key (createPodForTask env (served suffix) t c).2 := by
  obtain ⟨hkey, -⟩ := hstored t hread
  obtain ⟨c₁, hprep, hcreate⟩ := createPodForTask_served hok
  obtain ⟨f, g, rfl⟩ := hprep.frame
  have hself : c.agentTasks t.key = some t := by rw [hkey, hread]
  obtain ⟨hwrote, -⟩ := updateStatus_served suffix
    (c := Cluster.addPod { c with configMaps := f, networkPolicies := g } t
      (madePod env (served suffix) t)) hself
    { t.status with
      podName := (madePod env (served suffix) t).name
      phase := .provisioning }
  rw [hcreate]
  refine ⟨?_, hwrote.wellStored hkey⟩
  intro t' ht'
  obtain ⟨v, rfl⟩ := hwrote.read hkey ht'
  refine Or.inr (followed_there (madePod env (served suffix) t) hdel
    PhaseType.noConfusion (madePod_name_ne t) ?_ (Or.inr ?_))
  · rw [hwrote.pods]
    exact Function.update_self _ _ _
  · intro now
    exact AgentTaskStatus.stored_stored { t.status with
      podName := (madePod env (served suffix) t).name
      phase := .provisioning }

end

-- ==================================================================== runs

section

variable {env : Env} {key : NamespacedName} {calls : Nat → ReconcileCall}
  {c : Cluster}

theorem sameObjects_clock (c : Cluster) (time : Nat) :
    SameObjects c { c with clock := time } := ⟨rfl, rfl, rfl, rfl⟩

/-- A call at rest changes no object. -/
theorem reconcileAt_atRest {call : ReconcileCall} (hstored : WellStored key c)
    (hrest : AtRest key c) :
    SameObjects c (reconcileAt env key call c).2 := by
  have hclock := sameObjects_clock c call.time
  exact hclock.trans (atRest_reconcile (hclock.wellStored hstored)
    (hrest.congr hclock))

/-- Once at rest, at rest for good. -/
theorem sameObjects_of_atRest {n : Nat}
    (hstored : WellStored key (afterCalls env key calls c n))
    (hrest : AtRest key (afterCalls env key calls c n)) (m : Nat)
    (hm : n ≤ m) : SameObjects (afterCalls env key calls c n)
      (afterCalls env key calls c m) := by
  induction m, hm using Nat.le_induction with
  | base => exact SameObjects.refl _
  | succ m _ ih =>
      exact ih.trans (reconcileAt_atRest (ih.wellStored hstored)
        (hrest.congr ih))

/-- A call brings a task to rest that has a phase, and a PodName or the
phase Pending. -/
theorem reconcileAt_rests (call : ReconcileCall) {t : AgentTask}
    (hstored : WellStored key c) (hread : c.agentTasks key = some t)
    (hdel : t.deletionTimestamp = none) (hphase : t.status.phase ≠ .empty)
    (hpending : t.status.podName = "" → t.status.phase = .pending)
    (hok : ∀ err, (reconcileAt env key call c).1 ≠ .error (.api err)) :
    AtRest key (reconcileAt env key call c).2 ∧
      WellStored key (reconcileAt env key call c).2 := by
  have hstored' : WellStored key { c with clock := call.time } :=
    (sameObjects_clock c call.time).wellStored hstored
  have hread' : ({ c with clock := call.time } : Cluster).agentTasks key
      = some t := hread
  unfold reconcileAt at hok ⊢
  rw [reconcile_read hread' hdel, if_neg hphase] at hok ⊢
  by_cases hname : t.status.podName = ""
  · rw [if_pos hname, if_pos (hpending hname)] at hok ⊢
    exact createPodForTask_atRest hstored' hread' hdel hok
  · rw [if_neg hname]
    exact followPod_atRest hstored' hread' hdel hphase hname

/-- What is not in the invalid state settles, after two calls. -/
theorem settles_of_valid (hstored : WellStored key c)
    (hcalls : Undisturbed env key calls c)
    (hvalid : ∀ t, c.agentTasks key = some t → ¬ InvalidState t) :
    Settles env key calls c := by
  cases hread : c.agentTasks key with
  | none =>
      exact ⟨0, sameObjects_of_atRest hstored (atRest_absent hread)⟩
  | some t =>
      cases hdel : t.deletionTimestamp with
      | some time =>
          refine ⟨0, sameObjects_of_atRest hstored (atRest_of_read hread ?_)⟩
          rw [hdel]
          exact Or.inl rfl
      | none =>
          by_cases hphase : t.status.phase = .empty
          · -- the first call makes it Pending, the second makes the pod
            have hself : ({ c with clock := (calls 0).time } :
                Cluster).agentTasks t.key = some t := by
              rw [(hstored t hread).1]
              exact hread
            obtain ⟨hwrote, -⟩ := updateStatus_served
              (calls 0).podSuffix hself
              { t.status with phase := .pending, podName := "" }
            have hafter : (reconcileAt env key (calls 0) c).2
                = _ := congrArg Prod.snd
              ((reconcile_read (c := { c with clock := (calls 0).time })
                hread hdel).trans (if_pos hphase))
            rw [← hafter] at hwrote
            have hkey := (hstored t hread).1
            obtain ⟨v, hv⟩ := hwrote.agentTasks
            have hpending := congrFun hv key
            rw [hkey, Function.update_self] at hpending
            obtain ⟨hrest, hstored'⟩ := reconcileAt_rests (calls 1)
              (hwrote.wellStored hkey) hpending hdel PhaseType.noConfusion
              (fun _ => rfl) (hcalls.succeeds 1)
            exact ⟨2, sameObjects_of_atRest hstored' hrest⟩
          · have hpending : t.status.podName = "" →
                t.status.phase = .pending := by
              intro hname
              by_contra hpending
              exact hvalid t hread ⟨hdel, hname, hphase, hpending⟩
            obtain ⟨hrest, hstored'⟩ := reconcileAt_rests (calls 0) hstored hread
              hdel hphase hpending (hcalls.succeeds 0)
            exact ⟨1, sameObjects_of_atRest hstored' hrest⟩

/-- The next second is another one. -/
theorem storedTime_lt {t u : Nat} (h : t + 1000000000 ≤ u) :
    storedTime t < storedTime u := by
  unfold storedTime
  omega

/-- The invalid state is written again, with the time of the call. -/
theorem reconcileAt_invalid (call : ReconcileCall) {t : AgentTask}
    (hstored : WellStored key c) (hread : c.agentTasks key = some t)
    (hinvalid : InvalidState t) :
    (reconcileAt env key call c).1 = .ok () ∧
      WellStored key (reconcileAt env key call c).2 ∧
      ∃ t', (reconcileAt env key call c).2.agentTasks key = some t' ∧
        InvalidState t' ∧
        t'.status.finishedAt = some (storedTime call.time) := by
  have hkey := (hstored t hread).1
  have hself : ({ c with clock := call.time } : Cluster).agentTasks t.key
      = some t := by
    rw [hkey]
    exact hread
  obtain ⟨hwrote, hok⟩ := updateStatus_served call.podSuffix hself
    { t.status with
      phase := .failed
      reason := "Invalid state"
      finishedAt := some call.time }
  have hcall : reconcileAt env key call c = updateStatus _ _ t _ :=
    (reconcile_read (c := { c with clock := call.time }) hread
      hinvalid.deletionTimestamp).trans ((if_neg hinvalid.phase.1).trans
        ((if_pos hinvalid.podName).trans (if_neg hinvalid.phase.2)))
  rw [hcall]
  refine ⟨hok, hwrote.wellStored hkey, ?_⟩
  obtain ⟨v, hv⟩ := hwrote.agentTasks
  have hafter := congrFun hv key
  rw [hkey, Function.update_self] at hafter
  exact ⟨_, hafter, ⟨hinvalid.deletionTimestamp, hinvalid.podName,
    PhaseType.noConfusion, PhaseType.noConfusion⟩, rfl⟩

/-- The invalid state lasts, with the time of the last call. -/
theorem afterCalls_invalid (env : Env) (calls : Nat → ReconcileCall)
    {t : AgentTask} (hstored : WellStored key c)
    (hread : c.agentTasks key = some t) (hinvalid : InvalidState t)
    (n : Nat) :
    WellStored key (afterCalls env key calls c n) ∧
      ∃ t', (afterCalls env key calls c n).agentTasks key = some t' ∧
        InvalidState t' := by
  induction n with
  | zero => exact ⟨hstored, t, hread, hinvalid⟩
  | succ n ih =>
      obtain ⟨hstored', t', hread', hinvalid'⟩ := ih
      obtain ⟨-, hnext, t'', hread'', hinvalid'', -⟩ :=
        reconcileAt_invalid (calls n) hstored' hread' hinvalid'
      exact ⟨hnext, t'', hread'', hinvalid''⟩

/-- In the invalid state no call is the last to change something: two in a
row would have to be made in the same second. -/
theorem not_settles_of_invalid {t : AgentTask} (hstored : WellStored key c)
    (hcalls : Undisturbed env key calls c)
    (hread : c.agentTasks key = some t) (hinvalid : InvalidState t) :
    ¬ Settles env key calls c := by
  rintro ⟨n, hsettled⟩
  have hfinished : ∀ m, ∃ t', (afterCalls env key calls c (m + 1)).agentTasks
      key = some t' ∧
      t'.status.finishedAt = some (storedTime (calls m).time) := by
    intro m
    obtain ⟨hstored', t', hread', hinvalid'⟩ :=
      afterCalls_invalid env calls hstored hread hinvalid m
    obtain ⟨-, -, t'', hread'', -, hfin⟩ :=
      reconcileAt_invalid (calls m) hstored' hread' hinvalid'
    exact ⟨t'', hread'', hfin⟩
  obtain ⟨t₁, hread₁, hfin₁⟩ := hfinished n
  obtain ⟨t₂, hread₂, hfin₂⟩ := hfinished (n + 1)
  have hsame := (hsettled (n + 1) (by omega)).symm.trans
    (hsettled (n + 2) (by omega))
  rw [hsame.agentTasks, hread₁] at hread₂
  cases hread₂
  rw [hfin₁] at hfin₂
  have hlt := storedTime_lt (hcalls.clock n)
  rw [Option.some.inj hfin₂] at hlt
  exact Nat.lt_irrefl _ hlt

end

/-- Reconcile settles if and only if the task does not stand in the state
it calls invalid. -/
theorem settles_iff (env : Env) (key : NamespacedName)
    (calls : Nat → ReconcileCall) (c : Cluster) (hstored : WellStored key c)
    (hcalls : Undisturbed env key calls c) :
    Settles env key calls c ↔
      ∀ t, c.agentTasks key = some t → ¬ InvalidState t := by
  constructor
  · intro hsettles t hread hinvalid
    exact not_settles_of_invalid hstored hcalls hread hinvalid hsettles
  · exact settles_of_valid hstored hcalls

-- ================================================================ examples

namespace Sample

def task (status : AgentTaskStatus) : AgentTask where
  name := "demo"
  nameSpace := "default"
  uid := 1
  resourceVersion := 1
  deletionTimestamp := none
  spec := spec "hi"
  status := status

/-- A cluster with one AgentTask, and nothing else. -/
def clusterWith (status : AgentTaskStatus) : Cluster :=
  { Cluster.init with
    agentTasks := Function.update Cluster.init.agentTasks key
      (some (task status)) }

theorem clusterWith_read (status : AgentTaskStatus) :
    (clusterWith status).agentTasks key = some (task status) := by
  simp [clusterWith]

/-- It is stored well if its times are whole seconds. -/
theorem wellStored_of_read {c : Cluster} {status : AgentTaskStatus}
    (h : c.agentTasks key = some (task status))
    (hwhole : status.stored = status) : WellStored key c := by
  intro t ht
  rw [h] at ht
  cases ht
  exact ⟨rfl, hwhole⟩

def everySecond (n : Nat) : ReconcileCall where
  time := n * 1000000000
  podSuffix := "x7k2p"

theorem everySecond_clock (n : Nat) :
    (everySecond n).time + 1000000000 ≤ (everySecond (n + 1)).time := by
  show n * 1000000000 + 1000000000 ≤ (n + 1) * 1000000000
  omega

def pendingStatus : AgentTaskStatus :=
  { AgentTaskStatus.zero with phase := .pending }

/-- The first call makes a new task pending. -/
theorem created_pending :
    (afterCalls demo key everySecond (clusterWith .zero) 1).agentTasks key
      = some (task pendingStatus) := by
  decide +kernel

theorem created_ok :
    (reconcileAt demo key (everySecond 0) (clusterWith .zero)).1 = .ok () ∧
    (reconcileAt demo key (everySecond 1)
      (afterCalls demo key everySecond (clusterWith .zero) 1)).1
        = .ok () := by
  decide +kernel

/-- A task that was just created gets its pod, and no call fails. -/
theorem created_undisturbed :
    Undisturbed demo key everySecond (clusterWith .zero) where
  clock := everySecond_clock
  succeeds := by
    obtain ⟨hfirst, hsecond⟩ := created_ok
    obtain ⟨hrest, hstored⟩ := reconcileAt_rests (everySecond 1)
      (wellStored_of_read created_pending rfl) created_pending rfl
      PhaseType.noConfusion (fun _ => rfl)
      (fun err => hsecond ▸ ok_ne_api err)
    intro n err
    match n with
    | 0 =>
        intro h
        exact ok_ne_api err (hfirst.symm.trans h)
    | 1 =>
        intro h
        exact ok_ne_api err (hsecond.symm.trans h)
    | n + 2 =>
        have hsame := (sameObjects_of_atRest (n := 2) hstored hrest (n + 2)
          (by omega)).trans (sameObjects_clock _ (everySecond (n + 2)).time)
        exact atRest_ok (hsame.wellStored hstored) (hrest.congr hsame) err

/-- A status the controller does not write itself. -/
def completedWithoutPod : AgentTaskStatus :=
  { AgentTaskStatus.zero with phase := .completed }

/-- A task that is completed and has no pod is in no valid state. -/
theorem completedWithoutPod_invalid :
    InvalidState (task completedWithoutPod) :=
  ⟨rfl, rfl, by decide⟩

/-- The sample's calls are far enough apart, and none of them fails. -/
theorem completedWithoutPod_undisturbed :
    Undisturbed demo key everySecond (clusterWith completedWithoutPod) where
  clock := everySecond_clock
  succeeds := by
    intro n err
    obtain ⟨hstored, t, hread, hinvalid⟩ := afterCalls_invalid demo
      everySecond
      (wellStored_of_read (clusterWith_read completedWithoutPod) rfl)
      (clusterWith_read _) completedWithoutPod_invalid n
    rw [(reconcileAt_invalid (everySecond n) hstored hread hinvalid).1]
    exact ok_ne_api err

end Sample

open Sample in
/-- A task that was just created settles. -/
theorem settles_created :
    Settles demo key everySecond (clusterWith .zero) := by
  refine (settles_iff demo key everySecond (clusterWith .zero)
    (wellStored_of_read (clusterWith_read _) rfl)
    created_undisturbed).mpr ?_
  intro t ht hinvalid
  rw [clusterWith_read] at ht
  cases ht
  exact hinvalid.phase.1 rfl

open Sample in
/-- A Completed task without a PodName never settles. -/
theorem completed_without_pod_never_settles :
    WellStored key (clusterWith completedWithoutPod) ∧
      Undisturbed demo key everySecond (clusterWith completedWithoutPod) ∧
      ¬ Settles demo key everySecond (clusterWith completedWithoutPod) :=
  ⟨wellStored_of_read (clusterWith_read _) rfl,
    completedWithoutPod_undisturbed,
    not_settles_of_invalid (wellStored_of_read (clusterWith_read _) rfl)
      completedWithoutPod_undisturbed (clusterWith_read _)
      completedWithoutPod_invalid⟩

end AgentAnvil.Operator
