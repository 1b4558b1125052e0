/-
No wake-up is lost.

Reconcile is told a key and nothing else, reads caches that lag, and
forgets the key when it returns no error. Whether the status of an
AgentTask is ever brought up to date therefore rests on what the two
watches wake: if a Reconcile that left something undone could end without
an error, or if a pod could change without the key of its AgentTask being
queued, a task would stay as it is for good.

`work_done` rules out the first: a Reconcile that ends without an error has
found nothing left to do, or has stored a new version, which the watch will
deliver. `Recorded` rules out the second: the pod that a status names was
created for that very task, so its owner reference leads back to the key.
Together with the rule of `WorkQueue` they give `no_wakeup_lost`, for any
lag, any order of deliveries, any failing calls and any restarts.
-/
import Mathlib.Data.List.Nodup
import AgentAnvil.Operator.Watch
import AgentAnvil.Operator.Proofs.WellMade
import AgentAnvil.Operator.Proofs.Settling
import AgentAnvil.Operator.Proofs.TerminalPhase

namespace AgentAnvil.Operator

variable {env : Env} {fates : CallFates} {c c' : Cluster}

-- ============================================== the pod that a status names

/-- A status without a PodName has not been started; one with a PodName
names a pod that was created for this very task. -/
structure Accounted (created : List PodCreation) (t : AgentTask) : Prop where
  unnamed : t.status.podName = "" →
    t.status.phase = .empty ∨ t.status.phase = .pending
  named : t.status.podName ≠ "" →
    ∃ r ∈ created, r.pod.key = t.podKey ∧ r.agentTask.key = t.key

/-- Every version is accounted for, and no two pods were created under one
name. -/
structure Recorded (c : Cluster) : Prop where
  consistent : Consistent c
  version : ∀ {t}, t ∈ c.versions → Accounted c.created t
  podNames : c.created.map (fun r => r.pod.key) = c.podNames
  nodup : c.podNames.Nodup

theorem recorded_init : Recorded Cluster.init := by
  refine ⟨consistent_init, ?_, rfl, List.nodup_nil⟩
  intro t ht
  cases ht

theorem Accounted.mono {created created' : List PodCreation} {t : AgentTask}
    (h : Accounted created t) (hsub : created ⊆ created') :
    Accounted created' t := by
  refine ⟨h.unnamed, ?_⟩
  intro hname
  obtain ⟨r, hr, hrest⟩ := h.named hname
  exact ⟨r, hsub hr, hrest⟩

/-- A pod of a version that names it. -/
theorem accounted_record {created : List PodCreation} {t : AgentTask}
    {r : PodCreation} (hr : r ∈ created) (hpod : r.pod.key = t.podKey)
    (htask : r.agentTask.key = t.key) (hname : t.status.podName ≠ "") :
    Accounted created t :=
  ⟨fun h => absurd h hname, fun _ => ⟨r, hr, hpod, htask⟩⟩

/-- Keeping the PodName is all a version has to do. -/
theorem Accounted.keep {created : List PodCreation} {t : AgentTask}
    {s : AgentTaskStatus} (h : Accounted created t)
    (hname : t.status.podName ≠ "") (hs : s.podName = t.status.podName) :
    Accounted created { t with status := s } := by
  obtain ⟨r, hr, hpod, htask⟩ := h.named hname
  refine accounted_record hr ?_ htask ?_
  · rw [hpod, AgentTask.podKey, ← hs]
    rfl
  · show s.podName ≠ ""
    rwa [hs]

namespace Recorded

/-- Two pods of one name are one. -/
theorem unique (h : Recorded c) {r r' : PodCreation} (hr : r ∈ c.created)
    (hr' : r' ∈ c.created) (hkey : r.pod.key = r'.pod.key) : r = r' := by
  have hnodup : (c.created.map fun r => r.pod.key).Nodup := by
    rw [h.podNames]
    exact h.nodup
  exact List.inj_on_of_nodup_map hnodup hr hr' hkey

theorem congr (h : Recorded c) (hat : c'.agentTasks = c.agentTasks)
    (hv : c'.versions = c.versions)
    (hrv : c'.resourceVersion = c.resourceVersion) (hu : c'.uid = c.uid)
    (hn : c'.podNames = c.podNames) (hc : c'.created = c.created) :
    Recorded c' := by
  refine ⟨h.consistent.congr hat hv hrv hu, ?_, ?_, ?_⟩
  · rw [hv, hc]
    exact h.version
  · rw [hn, hc]
    exact h.podNames
  · rw [hn]
    exact h.nodup

/-- A task may be stored if its pod is accounted for. -/
theorem storeAgentTask (h : Recorded c) {t : AgentTask}
    (hcons : Consistent (c.storeAgentTask t)) (ht : Accounted c.created t) :
    Recorded (c.storeAgentTask t) := by
  refine ⟨hcons, ?_, h.podNames, h.nodup⟩
  intro v hv
  rcases List.mem_cons.mp hv with rfl | hv
  · exact ⟨ht.unnamed, ht.named⟩
  · exact h.version hv

/-- A status may be written if it names a pod that was made. -/
theorem storeStatus (h : Recorded c) {t : AgentTask} (ht : t ∈ c.versions)
    {s : AgentTaskStatus} (hs : Accounted c.created { t with status := s }) :
    Recorded (c.storeStatus t s).2 := by
  have hcons := h.consistent.storeStatus ht s
  rcases h.consistent.storeStatus_read ht s with hsame | ⟨-, -, hst⟩
  · rw [hsame]
    exact h
  · rw [hst] at hcons ⊢
    exact h.storeAgentTask hcons ⟨hs.unnamed, hs.named⟩

/-- A pod of a new name is recorded. -/
theorem addPod (h : Recorded c) {p : Pod} (t : AgentTask)
    (hfree : p.key ∉ c.podNames) : Recorded (c.addPod t p) := by
  refine ⟨h.consistent.congr rfl rfl rfl rfl, ?_, ?_, ?_⟩
  · intro v hv
    exact (h.version hv).mono (List.subset_cons_self ..)
  · show p.key :: c.created.map (fun r => r.pod.key) = p.key :: c.podNames
    rw [h.podNames]
  · show (p.key :: c.podNames).Nodup
    exact List.nodup_cons.mpr ⟨hfree, h.nodup⟩

/-- Reconcile, effect by effect: the one status that names a pod is written
after the pod was made. -/
theorem effect (h : Recorded c) {t : AgentTask} (ht : t ∈ c.versions)
    (he : Effect env fates t c c') : Recorded c' := by
  have hacc := h.version ht
  cases he with
  | idle => exact h
  | initStatus =>
      exact h.storeStatus ht ⟨fun _ => Or.inr rfl, fun hne => absurd rfl hne⟩
  | prepared hun c₁ c₂ hc₁ hc₂ =>
      obtain ⟨f, g, rfl⟩ := prepared_frame hc₁ hc₂
      exact h.congr rfl rfl rfl rfl rfl rfl
  | podCreated hun c₁ hprep hfree =>
      obtain ⟨f, g, rfl⟩ := hprep.frame
      refine Recorded.addPod ?_ t hfree
      exact h.congr rfl rfl rfl rfl rfl rfl
  | podRecorded hun c₁ hprep hfree =>
      obtain ⟨f, g, rfl⟩ := hprep.frame
      have hadd := Recorded.addPod
        (c := { c with configMaps := f, networkPolicies := g })
        (h.congr rfl rfl rfl rfl rfl rfl) t hfree
      exact hadd.storeStatus ht
        (accounted_record (List.mem_cons_self ..) rfl rfl
          (madePod_name_ne t))
  | invalidState hphase hpending hpod =>
      rcases hacc.unnamed hpod with hempty | hpend
      · exact absurd hempty hphase
      · exact absurd hpend hpending
  | podNotFound hphase hpod => exact h.storeStatus ht (hacc.keep hpod rfl)
  | observed pod => exact h.congr rfl rfl rfl rfl rfl rfl
  | synced pod hphase hpod =>
      have hobs : Recorded (c.observe pod) :=
        h.congr rfl rfl rfl rfl rfl rfl
      exact hobs.storeStatus ht
        (hacc.keep hpod (syncStatus_podName t.status pod.status c.clock))

/-- Every action but a status write of somebody else. -/
theorem apply (h : Recorded c) {a : Action}
    (hown : ∀ key status, a ≠ .editStatus key status)
    (ha : c.apply env a = some c') : Recorded c' := by
  have hcons := h.consistent.apply ha
  cases apply_step ha with
  | createTask =>
      refine ⟨hcons, ?_, h.podNames, h.nodup⟩
      intro v hv
      rcases List.mem_cons.mp hv with rfl | hv
      · exact ⟨fun _ => Or.inl rfl, fun hne => absurd rfl hne⟩
      · exact h.version hv
  | editSpec ht | terminateTask ht =>
      have hacc := h.version (h.consistent.stored ht).1
      exact h.storeAgentTask hcons ⟨hacc.unnamed, hacc.named⟩
  | @editStatus key status => exact absurd rfl (hown key status)
  | deleteTask => exact ⟨hcons, h.version, h.podNames, h.nodup⟩
  | unserved => exact h
  | reconcile hserve hread hdel he =>
      exact h.effect (h.consistent.read_mem hserve hread).1 he
  | collectConfigMap | collectNetworkPolicy | collectPod
  | setPodStatus | deletePod | setClock =>
      have hf := apply_sameTasks rfl ha
      exact h.congr hf.agentTasks hf.versions hf.resourceVersion hf.uid
        hf.podNames hf.created

end Recorded

-- ==================================================== what the caches hold

/-- The caches hold what was stored at some time. -/
structure Watching (env : Env) (s : Managed) : Prop where
  wellMade : WellMade env s.world
  wholeSeconds : WholeSeconds s.world
  recorded : Recorded s.world
  agentTask : ∀ {k t}, s.view.agentTasks k = some t →
    t ∈ s.world.versions ∧ t.key = k
  pod : ∀ {k p}, s.view.pods k = some p →
    ∃ r ∈ s.world.created, r.pod.key = k
      ∧ p = { r.pod with status := p.status }

/-- Before the first action the caches know everything there is. -/
theorem watching_init : Watching env Managed.init := by
  refine ⟨wellMade_init, wholeSeconds_init, recorded_init, ?_, ?_⟩
  · intro k t h
    cases h
  · intro k p h
    cases h

namespace Watching

variable {s : Managed}

/-- The cluster goes on, and the caches lag. -/
theorem onward (h : Watching env s) {a : Action} {world : Cluster}
    (hown : ∀ key status, a ≠ .editStatus key status)
    (ha : s.world.apply env a = some world) :
    Watching env { s with world } := by
  have honward := apply_onward h.wellMade.consistent ha
  refine ⟨h.wellMade.apply ha, h.wholeSeconds.apply ha,
    h.recorded.apply hown ha, ?_, ?_⟩
  · intro k t hk
    obtain ⟨hmem, hkey⟩ := h.agentTask hk
    exact ⟨honward.versions hmem, hkey⟩
  · intro k p hk
    obtain ⟨r, hr, hrest⟩ := h.pod hk
    exact ⟨r, honward.created hr, hrest⟩

/-- A Reconcile that reads the caches is one of the cluster's actions. -/
theorem apply_reconcile (h : Watching env s) (key : NamespacedName)
    (fates : CallFates) :
    s.world.apply env (.reconcile key (s.view.serve key fates))
      = some (reconcile env (s.view.serve key fates) key s.world).2 := by
  have hserve : s.world.mayServe key
      (fates.getAgentTask.through (s.view.agentTasks key)) = true := by
    cases hheld : s.view.agentTasks key with
    | none => cases fates.getAgentTask <;> rfl
    | some t =>
        obtain ⟨hmem, hkey⟩ := h.agentTask hheld
        cases fates.getAgentTask with
        | failed => rfl
        | fresh | cached =>
            show (decide (t ∈ s.world.versions) && decide (t.key = key))
              = true
            simp [hmem, hkey]
  show (if s.world.mayServe key
      (fates.getAgentTask.through (s.view.agentTasks key)) = true then _
    else none) = _
  rw [if_pos hserve]

/-- A delivery updates the cache and wakes the task it is about. -/
theorem deliver (h : Watching env s) {news : WatchEvent} {v : Informers}
    {woken : List NamespacedName}
    (hnews : s.view.deliver news s.world = some (v, woken)) :
    Watching env { s with view := v, queue := woken ++ s.queue } := by
  cases news with
  | agentTask key entry =>
      simp only [Informers.deliver] at hnews
      split at hnews
      next hserve =>
        cases hnews
        refine ⟨h.wellMade, h.wholeSeconds, h.recorded, ?_, h.pod⟩
        intro k t hk
        have hk' : Function.update s.view.agentTasks key entry k = some t :=
          hk
        rw [Function.update_apply] at hk'
        split at hk'
        next hkey =>
          subst hkey hk'
          simpa [Cluster.mayServe] using hserve
        next => exact h.agentTask hk'
      next => cases hnews
  | pod key entry =>
      simp only [Informers.deliver] at hnews
      split at hnews
      next hshow =>
        cases hnews
        refine ⟨h.wellMade, h.wholeSeconds, h.recorded, h.agentTask, ?_⟩
        intro k p hk
        have hk' : Function.update s.view.pods key entry k = some p := hk
        rw [Function.update_apply] at hk'
        split at hk'
        next hkey =>
          subst hkey hk'
          obtain ⟨r, hr, hmatch⟩ := List.any_eq_true.mp hshow
          rw [Bool.and_eq_true, decide_eq_true_eq, decide_eq_true_eq]
            at hmatch
          exact ⟨r, hr, hmatch.1, hmatch.2⟩
        next => exact h.pod hk'
      next => cases hnews

/-- Every label but a status write of somebody else. -/
theorem step (h : Watching env s) {a : ManagerLabel} {s' : Managed}
    (hown : OwnStatus s a)
    (hs : WorkQueue.step (manager env) a s = some s') :
    Watching env s' := by
  cases a with
  | move a =>
      obtain ⟨world, hmove, rfl⟩ := Option.map_eq_some_iff.mp hs
      have ha : s.world.apply env a = some world := by
        cases a with
        | reconcile => cases hmove
        | _ => exact hmove
      refine h.onward ?_ ha
      rintro key status rfl
      exact hown
  | learn news =>
      obtain ⟨⟨v, woken⟩, hlearn, rfl⟩ := Option.map_eq_some_iff.mp hs
      exact h.deliver hlearn
  | work key fates =>
      simp only [WorkQueue.step] at hs
      split at hs
      next =>
        cases hs
        have hnext := h.onward (fun _ _ => Action.noConfusion)
          (h.apply_reconcile key fates)
        exact ⟨hnext.wellMade, hnext.wholeSeconds, hnext.recorded,
          hnext.agentTask, hnext.pod⟩
      next => cases hs
  | restart =>
      cases hs
      refine ⟨h.wellMade, h.wholeSeconds, h.recorded, ?_, ?_⟩
      · intro k t hk
        cases hk
      · intro k p hk
        cases hk

/-- A cached pod is owned by the task whose status names it. -/
theorem owner_of_cached (h : Watching env s) {k : NamespacedName}
    {t : AgentTask} {p : Pod} (ht : s.view.agentTasks k = some t)
    (hname : t.status.podName ≠ "")
    (hp : ∃ r ∈ s.world.created, r.pod.key = t.podKey
      ∧ p = { r.pod with status := p.status }) :
    k ∈ enqueueRequestForOwner (some p) := by
  obtain ⟨hmem, hkey⟩ := h.agentTask ht
  obtain ⟨r, hr, hrkey, hpod⟩ := hp
  obtain ⟨r', hr', hrkey', htask⟩ := (h.recorded.version hmem).named hname
  have hsame := h.recorded.unique hr hr' (hrkey.trans hrkey'.symm)
  subst hsame
  obtain ⟨-, -, hmade⟩ := h.wellMade.created hr
  have howner : p.owner = some r.agentTask.ownerReference := by
    rw [hpod, ← hmade.owner]
  have hns : p.nameSpace = r.agentTask.nameSpace := by
    rw [hpod, ← hmade.nameSpace]
  have hk : k = ⟨r.agentTask.nameSpace, r.agentTask.name⟩ := by
    rw [← hkey, ← htask]
    rfl
  simp [enqueueRequestForOwner, howner, hns, hk, AgentTask.ownerReference]

end Watching

-- ============================================================ what is left

/-- The status of a task follows its pod: it names one; if that pod is gone
the phase is terminal, and if it is there the phase is the one its status
stands for and the pod switch has nothing to write. -/
structure UpToDate (t : AgentTask) (pod : Option Pod) : Prop where
  podName : t.status.podName ≠ ""
  gone : pod = none → t.status.phase.terminal = true
  there : ∀ p, pod = some p →
    t.status.phase = phaseOf p.status ∧ Synced t.status p.status

/-- The cache holds a version of the task that is not stored any more. -/
def Outdated (c : Cluster) (v : Informers) (key : NamespacedName) : Prop :=
  ∃ t, v.agentTasks key = some t ∧ c.agentTasks key ≠ some t

/-- By what the caches show there is nothing to do. -/
def Handled (v : Informers) (key : NamespacedName) : Prop :=
  ∀ t, v.agentTasks key = some t →
    t.deletionTimestamp.isSome = true ∨ UpToDate t (v.pods t.podKey)

/-- A status in step with the pod has the pod's phase. -/
theorem phase_of_synced {status : AgentTaskStatus} {pod : PodStatus}
    (h : Synced status pod) : status.phase = phaseOf pod := by
  have hphase := congrArg AgentTaskStatus.phase (h 0)
  rw [AgentTaskStatus.stored_phase, syncStatus_phase] at hphase
  exact hphase.symm

/-- What a read through the caches answers. -/
theorem ReadFate.through_read {α : Type} (fate : ReadFate α)
    (held stored : Option α) :
    (fate.through held).read stored = .error .other
      ∨ (fate.through held).read stored
        = held.elim (.error .notFound) .ok := by
  cases fate with
  | failed => exact Or.inl rfl
  | fresh | cached =>
      right
      cases held <;> rfl

/-- A status write without an error: it says what is stored, or the version
it was made from is not stored any more. -/
theorem updateStatus_isOk (hcons : Consistent c) {t : AgentTask}
    (ht : t ∈ c.versions) {s : AgentTaskStatus}
    (h : (updateStatus fates c t s).1.isOk = true) :
    t.status = s.stored
      ∨ (updateStatus fates c t s).2.agentTasks t.key ≠ some t := by
  cases hfate : fates.updateStatus with
  | failed =>
      simp only [updateStatus, hfate] at h
      cases h
  | lost =>
      simp only [updateStatus, hfate] at h
      cases h
  | served =>
      have hsend : updateStatus fates c t s = answered (c.storeStatus t s) := by
        simp only [updateStatus, hfate]
        rfl
      rw [hsend]
      show _ ∨ (c.storeStatus t s).2.agentTasks t.key ≠ some t
      by_cases hcur : c.agentTasks t.key = some t
      · obtain ⟨t', ht', hs'⟩ := storeStatus_stored hcur s
        by_cases hsame : t' = t
        · left
          rw [← hsame, hs']
        · right
          rw [ht']
          simpa using hsame
      · right
        rcases hcons.storeStatus_read ht s with hsame | ⟨hthere, -, -⟩
        · rwa [hsame]
        · exact absurd hthere hcur

/-- A write that changes the phase, without an error, leaves the version it
was made from behind. -/
theorem leaves_of_write (hcons : Consistent c) {t : AgentTask}
    (ht : t ∈ c.versions) {s : AgentTaskStatus}
    (h : (updateStatus fates c t s).1.isOk = true)
    (hphase : t.status.phase ≠ s.phase) :
    (updateStatus fates c t s).2.agentTasks t.key ≠ some t := by
  rcases updateStatus_isOk hcons ht h with hsame | hgone
  · have heq := congrArg AgentTaskStatus.phase hsame
    exact absurd heq hphase
  · exact hgone

/-- The Pending branch ends without an error only by writing the status,
over a cluster with the same AgentTasks. -/
theorem createPodForTask_isOk {t : AgentTask}
    (h : (createPodForTask env fates t c).1.isOk = true) :
    ∃ c₁ name, c₁.agentTasks = c.agentTasks ∧ c₁.versions = c.versions
      ∧ c₁.resourceVersion = c.resourceVersion ∧ c₁.uid = c.uid
      ∧ createPodForTask env fates t c
        = updateStatus fates c₁ t
            { t.status with podName := name, phase := .provisioning } := by
  simp only [createPodForTask] at h ⊢
  split at h
  next => cases h
  next c₁ h₁ =>
    split at h
    next => cases h
    next c₂ h₂ =>
      have hprep : Prepared env fates t c c₂ := ⟨c₁, h₁, h₂⟩
      obtain ⟨f, g, rfl⟩ := hprep.frame
      split at h
      next => cases h
      next pod c₃ h₃ =>
        obtain ⟨-, hcreate⟩ := CallFate.send_ok h₃
        simp only [Cluster.createPod] at hcreate
        split at hcreate
        next => cases hcreate
        next =>
          have hc₃ := (Prod.mk.inj hcreate).2
          refine ⟨c₃, pod.name, ?_, ?_, ?_, ?_, rfl⟩ <;> rw [← hc₃] <;> rfl

/-- A Pending branch that goes through has written the task. -/
theorem createPodForTask_replaces (hcons : Consistent c) {t : AgentTask}
    (ht : t ∈ c.versions) (hphase : t.status.phase = .pending)
    (h : (createPodForTask env fates t c).1.isOk = true) :
    (createPodForTask env fates t c).2.agentTasks t.key ≠ some t := by
  obtain ⟨c₁, name, hat, hv, hrv, hu, hwrite⟩ := createPodForTask_isOk h
  rw [hwrite] at h ⊢
  apply leaves_of_write (hcons.congr hat hv hrv hu) (hv ▸ ht) h
  rw [hphase]
  exact PhaseType.noConfusion

/-- A task that ended is up to date without a pod. -/
theorem upToDate_gone {t : AgentTask} (hname : t.status.podName ≠ "")
    (hterm : t.status.phase.terminal = true) : UpToDate t none := by
  refine ⟨hname, fun _ => hterm, ?_⟩
  intro p hp
  cases hp

theorem upToDate_there {t : AgentTask} {pod : Pod}
    (hname : t.status.podName ≠ "") (h : Synced t.status pod.status) :
    UpToDate t (some pod) := by
  refine ⟨hname, ?_, ?_⟩
  · intro hgone
    cases hgone
  · intro p hp
    cases hp
    exact ⟨phase_of_synced h, h⟩

/-- Following a pod that the cache holds, without an error: the status is
up to date, or a new version was stored. -/
theorem followPod_isOk (hcons : Consistent c) {t : AgentTask}
    (ht : t ∈ c.versions) (hwhole : t.status.stored = t.status)
    (hname : t.status.podName ≠ "") {held : Option Pod}
    (hread : fates.getPod.read (c.pods t.podKey) = .error .other
      ∨ fates.getPod.read (c.pods t.podKey)
        = held.elim (.error .notFound) .ok)
    (h : (followPod fates t c).1.isOk = true) :
    (followPod fates t c).2.agentTasks t.key ≠ some t
      ∨ UpToDate t held := by
  rw [AgentTask.podKey] at hread
  rcases hread with hfailed | hread
  · simp [followPod, hfailed, Except.isOk, Except.toBool] at h
  · cases held with
    | none =>
        by_cases hterm : t.status.phase.terminal = true
        · exact Or.inr (upToDate_gone hname hterm)
        · left
          simp only [followPod, hread, Option.elim_none, if_true,
            if_neg hterm] at h ⊢
          apply leaves_of_write hcons ht h
          intro hfailed
          rw [hfailed] at hterm
          exact hterm rfl
    | some pod =>
        simp only [followPod, hread, Option.elim_some] at h ⊢
        split at h
        next => cases h
        next hreadable =>
          rw [if_neg hreadable]
          split at h
          next hchanged =>
            rw [if_pos hchanged]
            have hobs : Consistent (c.observe pod) :=
              hcons.congr rfl rfl rfl rfl
            rcases updateStatus_isOk hobs ht h with hsame | hleft
            · right
              apply upToDate_there hname
              rw [hsame]
              exact synced_syncStatus _ _ _
            · exact Or.inl hleft
          next hsame =>
            right
            apply upToDate_there hname
            have hkept := syncStatus_unchanged t.status pod.status
              (c.observe pod).clock (eq_false_of_ne_true hsame)
            have hsynced := synced_syncStatus t.status pod.status
              (c.observe pod).clock
            rwa [hkept, hwhole] at hsynced

namespace Watching

variable {s : Managed}

/-- A Reconcile that ends without an error has nothing left to do, or has
left the version that it read behind. -/
theorem work_done (h : Watching env s) {key : NamespacedName}
    (hok : (reconcile env (s.view.serve key fates) key s.world).1.isOk
      = true) :
    Outdated (reconcile env (s.view.serve key fates) key s.world).2 s.view key
      ∨ Handled s.view key := by
  cases hheld : s.view.agentTasks key with
  | none =>
      right
      intro t ht
      rw [hheld] at ht
      cases ht
  | some t =>
      obtain ⟨hmem, hkey⟩ := h.agentTask hheld
      have hcons := h.wellMade.consistent
      have hacc := h.recorded.version hmem
      subst hkey
      suffices hleft : (reconcile env (s.view.serve t.key fates) t.key
            s.world).2.agentTasks t.key ≠ some t
          ∨ t.deletionTimestamp.isSome = true
          ∨ UpToDate t (s.view.pods t.podKey) by
        refine hleft.imp (fun hne => ⟨t, hheld, hne⟩) ?_
        intro hnothing t' ht'
        rw [hheld] at ht'
        cases ht'
        exact hnothing
      have htask := ReadFate.through_read fates.getAgentTask
        (s.view.agentTasks t.key) (s.world.agentTasks t.key)
      have hpod := ReadFate.through_read fates.getPod
        (s.view.podOf t.key) (s.world.pods t.podKey)
      have hserve : (s.view.serve t.key fates).getAgentTask
          = fates.getAgentTask.through (s.view.agentTasks t.key) := rfl
      have hserve' : (s.view.serve t.key fates).getPod
          = fates.getPod.through (s.view.podOf t.key) := rfl
      have hpodOf : s.view.podOf t.key = s.view.pods t.podKey := by
        simp [Informers.podOf, hheld]
      rw [← hserve, hheld] at htask
      rw [← hserve', hpodOf] at hpod
      rcases htask with hfailed | hread
      · simp [reconcile, hfailed, Except.isOk, Except.toBool] at hok
      · simp only [reconcile, hread, Option.elim_some] at hok ⊢
        split at hok
        next hdel => exact Or.inr (Or.inl hdel)
        next hdel =>
          rw [if_neg hdel]
          split at hok
          next hphase =>
            left
            rw [if_pos hphase]
            apply leaves_of_write hcons hmem hok
            rw [hphase]
            exact PhaseType.noConfusion
          next hphase =>
            rw [if_neg hphase]
            split at hok
            next hname =>
              rw [if_pos hname]
              have hpending : t.status.phase = .pending :=
                (hacc.unnamed hname).resolve_left hphase
              rw [if_pos hpending] at hok ⊢
              exact Or.inl
                (createPodForTask_replaces hcons hmem hpending hok)
            next hname =>
              rw [if_neg hname]
              exact (followPod_isOk hcons hmem (h.wholeSeconds.stored hmem)
                hname hpod hok).imp id Or.inr

/-- A pod that comes or goes wakes the task whose status names it. -/
theorem handled_of_pod (h : Watching env s) {key k : NamespacedName}
    {entry : Option Pod} {woken : List NamespacedName} {v : Informers}
    (hnews : s.view.deliver (.pod key entry) s.world = some (v, woken))
    (hk : k ∉ woken) (hhandled : Handled s.view k) : Handled v k := by
  have hafter := h.deliver hnews
  simp only [Informers.deliver] at hnews
  split at hnews
  next =>
    cases hnews
    intro t ht
    have hheld : s.view.agentTasks k = some t := ht
    rcases hhandled t hheld with hdel | hup
    · exact Or.inl hdel
    · right
      show UpToDate t (Function.update s.view.pods key entry t.podKey)
      by_cases hkey : t.podKey = key
      · -- neither entry can be a pod: its owner would have been woken
        subst hkey
        rw [List.mem_append, not_or] at hk
        have hold : s.view.pods t.podKey = none := by
          by_contra hsome
          obtain ⟨p, hp⟩ := Option.ne_none_iff_exists'.mp hsome
          have howner := h.owner_of_cached hheld hup.podName (h.pod hp)
          exact hk.1 (hp ▸ howner)
        have hnew : entry = none := by
          by_contra hsome
          obtain ⟨p, rfl⟩ := Option.ne_none_iff_exists'.mp hsome
          have hp := hafter.pod (k := t.podKey) (p := p)
            (Function.update_self ..)
          exact hk.2 (h.owner_of_cached hheld hup.podName hp)
        rwa [hnew, Function.update_self, ← hold]
      · rwa [Function.update_of_ne hkey]
  next => cases hnews

end Watching

/-- What the rule of the work queue asks for. -/
theorem manager_obligations :
    WorkQueue.Obligations (manager env) (Watching env) Outdated Handled where
  blank := by
    intro k t ht
    cases ht
  move := by
    intro s a world k h hmove hold
    obtain ⟨t, hheld, hne⟩ := hold
    have ha : s.world.apply env a = some world := by
      cases a with
      | reconcile => cases hmove
      | _ => exact hmove
    have honward := apply_onward h.wellMade.consistent ha
    refine ⟨t, hheld, ?_⟩
    intro hback
    exact hne (honward.old (h.agentTask hheld).1 hback)
  learn := by
    intro s news v woken k h hnews hk
    cases news with
    | pod key entry =>
        refine ⟨?_, h.handled_of_pod hnews hk⟩
        simp only [manager, Informers.deliver] at hnews
        split at hnews
        next =>
          cases hnews
          exact id
        next => cases hnews
    | agentTask key entry =>
        simp only [manager, Informers.deliver] at hnews
        split at hnews
        next =>
          cases hnews
          have hne : k ≠ key := by simpa using hk
          simp only [Outdated, Handled, Function.update_of_ne hne]
          exact ⟨id, id⟩
        next => cases hnews
  work := by
    intro s key fates k h hold
    obtain ⟨t, hheld, hne⟩ := hold
    have honward := apply_onward h.wellMade.consistent
      (h.apply_reconcile key fates)
    refine ⟨t, hheld, ?_⟩
    intro hback
    exact hne (honward.old (h.agentTask hheld).1 hback)
  done := by
    intro s key fates h hok
    exact h.work_done hok

-- ================================================================ the law

theorem attended_init : WorkQueue.Attended Outdated Handled Managed.init := by
  intro k
  right
  right
  intro t ht
  cases ht

/-- In every run, whatever the lag, the order of deliveries, the calls that
fail and the restarts: once an AgentTask is not queued and the caches hold
what is stored of it and of its pod, its status is up to date, unless it is
being deleted. -/
theorem no_wakeup_lost {s : Managed} (h : ManagedRun env OwnStatus s)
    {key : NamespacedName} {t : AgentTask} (hidle : key ∉ s.queue)
    (hstored : s.world.agentTasks key = some t)
    (htask : s.view.agentTasks key = some t)
    (hpod : s.view.pods t.podKey = s.world.pods t.podKey) :
    t.deletionTimestamp.isSome = true
      ∨ UpToDate t (s.world.pods t.podKey) := by
  have hattended := WorkQueue.attended_of_reaches manager_obligations h
    (fun _ _ _ hinv hg hs => Watching.step hinv hg hs)
    watching_init attended_init
  have hsync : ¬ Outdated s.world s.view key := by
    intro hold
    obtain ⟨t', ht', hne⟩ := hold
    rw [htask] at ht'
    cases ht'
    exact hne hstored
  rw [← hpod]
  exact hattended.handled_of_idle hidle hsync t htask

namespace Sample

/-- A stored version of the sample task. -/
def taskVersion (version : Nat) (status : AgentTaskStatus) : AgentTask :=
  { task status with resourceVersion := version }

def samplePod : Pod := Cluster.namePod (newPod demo (task .zero)) "x7k2p"

def followingStatus (phase : PhaseType) : AgentTaskStatus :=
  { AgentTaskStatus.zero with phase, podName := samplePod.name }

def deliverTask (version : Nat) (status : AgentTaskStatus) : ManagerLabel :=
  .learn (.agentTask key (some (taskVersion version status)))

/-- What the last Reconcile has stored of the task, and the pod it has
seen. -/
def evictedTask : AgentTask :=
  taskVersion 4
    { followingStatus .evicted with
      finishedAt := some 0
      reason := "Pod was evicted." }

def evictedPod : Pod :=
  { samplePod with status := { phase := .failed, reason := "Evicted" } }

/-- The task is created and started; the operator is restarted, the pod
fails while the status write that says so conflicts, and is retried. -/
def managedLabels : List ManagerLabel := [
  .move (.createTask key (spec "hi")),
  deliverTask 1 .zero,
  .work key served,
  deliverTask 2 pendingStatus,
  .work key served,
  .restart,
  deliverTask 2 pendingStatus,
  deliverTask 3 (followingStatus .provisioning),
  .work key { served with getPod := .failed },
  .learn (.pod samplePod.key (some samplePod)),
  .move (.setPodStatus samplePod.key evictedPod.status),
  .work key served,
  .learn (.pod samplePod.key (some evictedPod)),
  .work key { served with updateStatus := .failed },
  .work key served,
  .learn (.agentTask key (some evictedTask)),
  .work key served]

/-- The queue, and what is stored and cached of the task and its pod. -/
def managedState (s : Managed) :=
  (s.queue, s.world.agentTasks key, s.view.agentTasks key,
    s.world.pods samplePod.key, s.view.pods samplePod.key)

end Sample

open Sample in
/-- Calls fail, a watch lags and the operator is restarted, and yet the
task follows its pod to the end. -/
theorem no_wakeup_lost_demo :
    ∃ s, ManagedRun demo OwnStatus s ∧ key ∉ s.queue
      ∧ s.world.agentTasks key = some evictedTask
      ∧ (evictedTask.deletionTimestamp.isSome = true
        ∨ UpToDate evictedTask (s.world.pods evictedTask.podKey)) := by
  obtain ⟨s, hrun, hs⟩ := managed_of_run demo OwnStatus managedLabels
    managedState
    ([], some evictedTask, some evictedTask, some evictedPod,
      some evictedPod)
    (by decide +kernel) (by decide +kernel)
  simp only [managedState, Prod.mk.injEq] at hs
  obtain ⟨hqueue, hstored, htask, hpod, hcached⟩ := hs
  have hidle : key ∉ s.queue := by simp [hqueue]
  refine ⟨s, hrun, hidle, hstored, no_wakeup_lost hrun hidle hstored htask ?_⟩
  show s.view.pods samplePod.key = s.world.pods samplePod.key
  rw [hpod, hcached]

end AgentAnvil.Operator
