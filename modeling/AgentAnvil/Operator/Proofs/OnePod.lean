/-
How many pods an AgentTask gets.

The pod is created under a generated name before the status that remembers
it is stored. If that status write is lost, or was made from an outdated
version, the stored status still says Pending with no PodName, and the
next Reconcile creates another pod (`second_pod_after_failed_write`).

`RemembersPod` is the condition under which this cannot happen: a
Reconcile that gets as far as creating the pod has read the stored
version, is told that the pod exists, and its status write takes effect.
Under it, `OnePod` is inductive: once a pod has been created for a UID, the
stored status of that UID names a pod, and no branch of Reconcile takes
the name away.
-/
import AgentAnvil.Operator.Proofs.Versions

namespace AgentAnvil.Operator

variable {env : Env} {fates : CallFates}

-- ======================================================== what is counted

/-- The pods Reconcile has ever created for the AgentTask of this UID. -/
def podsCreatedFor (c : Cluster) (u : Nat) : Nat :=
  c.created.countP fun r => decide (r.agentTask.uid = u)

/-- This Reconcile of `t` gets to the pod create, and a pod comes out. -/
def podIsMade (env : Env) (fates : CallFates) (t : AgentTask)
    (c : Cluster) : Bool :=
  match ensureConfigMapForPod env fates t c with
  | (.error _, _) => false
  | (.ok _, c) =>
      match ensureNetworkPolicyForPod fates t c with
      | (.error _, _) => false
      | (.ok _, c) =>
          decide ((madePod env fates t).key ∉ c.podNames)
            && decide (fates.createPod ≠ .failed)

/-- A Reconcile that makes a pod has read the stored version of the task,
sees the create succeed, and its status write takes effect. Nobody but the
controller writes statuses. -/
def RemembersPod (env : Env) (c : Cluster) : Action → Prop
  | .reconcile key fates =>
      ∀ t ∈ (fates.getAgentTask.read (c.agentTasks key)).toOption,
        Unstarted t → t.deletionTimestamp = none →
          podIsMade env fates t c = true →
            c.agentTasks key = some t ∧ fates.createPod = .served
              ∧ fates.updateStatus ≠ .failed
  | .editStatus _ _ => False
  | _ => True

instance (c : Cluster) (a : Action) : Decidable (RemembersPod env c a) :=
  match a with
  | .reconcile _ _ => (inferInstance : Decidable (∀ t ∈ _, _ → _ → _ → _))
  | .editStatus _ _ => isFalse id
  | .createTask _ _ | .editSpec _ _ | .deleteTask _ | .terminateTask _
  | .collectConfigMap _ | .collectNetworkPolicy _ | .collectPod _
  | .setPodStatus _ _ | .deletePod _ | .setClock _ => isTrue trivial

/-- The guard's prediction is right: a pod whose create call is sent is made.
-/
theorem podIsMade_of_prepared {t : AgentTask} {c c₁ : Cluster}
    (hprep : Prepared env fates t c c₁)
    (hfree : (madePod env fates t).key ∉ c₁.podNames)
    (hcreate : fates.createPod ≠ .failed) :
    podIsMade env fates t c = true := by
  obtain ⟨c₀, h₁, h₂⟩ := hprep
  simp only [podIsMade, h₁, h₂]
  simp [hfree, hcreate]

-- ========================================================= the invariant

/-- At most one pod per UID, and once there is one, the stored status of
that UID names a pod. -/
structure OnePod (c : Cluster) : Prop where
  consistent : Consistent c
  known : ∀ r ∈ c.created, r.agentTask.uid ≤ c.uid
  le_one : ∀ u, podsCreatedFor c u ≤ 1
  started : ∀ {k t}, c.agentTasks k = some t → podsCreatedFor c t.uid ≠ 0 →
    t.status.phase ≠ .empty ∧ t.status.podName ≠ ""

/-- A pod counts for the task it is made for. -/
theorem podsCreatedFor_addPod (c : Cluster) (t : AgentTask) (p : Pod)
    (u : Nat) :
    podsCreatedFor (c.addPod t p) u
      = podsCreatedFor c u + if t.uid = u then 1 else 0 := by
  simp only [podsCreatedFor, Cluster.addPod, List.countP_cons,
    decide_eq_true_eq]

/-- A UID above the last one given out has no pods. -/
theorem podsCreatedFor_fresh {c : Cluster} {u : Nat}
    (hknown : ∀ r ∈ c.created, r.agentTask.uid ≤ c.uid) (hu : c.uid < u) :
    podsCreatedFor c u = 0 := by
  unfold podsCreatedFor
  rw [List.countP_eq_zero]
  intro r hr
  have := hknown r hr
  simp only [decide_eq_true_eq]
  omega

namespace OnePod

variable {c c' : Cluster}

theorem congr (h : OnePod c) (hat : c'.agentTasks = c.agentTasks)
    (hv : c'.versions = c.versions)
    (hrv : c'.resourceVersion = c.resourceVersion) (hu : c'.uid = c.uid)
    (hc : c'.created = c.created) : OnePod c' := by
  have hcount : ∀ u, podsCreatedFor c' u = podsCreatedFor c u := by
    intro u
    unfold podsCreatedFor
    rw [hc]
  constructor
  · exact h.consistent.congr hat hv hrv hu
  · rw [hc, hu]
    exact h.known
  · intro u
    rw [hcount]
    exact h.le_one u
  · intro k t
    rw [hat, hcount]
    exact h.started

/-- Storing a new version of a task whose status still names a pod if it
did before keeps the invariant. -/
theorem replace (h : OnePod c) {k : NamespacedName} {cur t : AgentTask}
    (hcur : c.agentTasks k = some cur) (hu : t.uid = cur.uid)
    (hk : t.key = cur.key)
    (hs : cur.status.phase ≠ .empty → cur.status.podName ≠ "" →
      t.status.phase ≠ .empty ∧ t.status.podName ≠ "") :
    OnePod (c.storeAgentTask t) := by
  constructor
  · exact h.consistent.replace hcur hu hk
  · exact h.known
  · exact h.le_one
  · intro k' s hs' hcount
    rcases stored_cases hs' with ⟨-, rfl⟩ | hs'
    · simp only at hcount
      rw [hu] at hcount
      obtain ⟨hp, hn⟩ := h.started hcur hcount
      exact hs hp hn
    · exact h.started hs' hcount

/-- A status write from a version that was read keeps the invariant, if
what it writes names a pod whenever the read status does. -/
theorem storeStatus (h : OnePod c) {t : AgentTask} (ht : t ∈ c.versions)
    {s : AgentTaskStatus}
    (hs : t.status.phase ≠ .empty → t.status.podName ≠ "" →
      s.phase ≠ .empty ∧ s.podName ≠ "") :
    OnePod (c.storeStatus t s).2 := by
  rcases h.consistent.storeStatus_read ht s with hsame | ⟨hcur, -, hst⟩
  · rw [hsame]
    exact h
  · rw [hst]
    exact h.replace hcur rfl rfl hs

/-- The step a pod is made in: the version read is the stored one, it
names no pod yet, and the status stored over it does. -/
theorem recordPod (h : OnePod c) {t : AgentTask} {p : Pod}
    {s : AgentTaskStatus} (hcur : c.agentTasks t.key = some t)
    (hun : Unstarted t) (hphase : s.phase ≠ .empty) (hne : s.phase ≠ .pending)
    (hpod : s.podName ≠ "") :
    OnePod ((c.addPod t p).storeStatus t s).2 := by
  have hzero : podsCreatedFor c t.uid = 0 := by
    by_contra hcount
    exact (h.started hcur hcount).2 hun.podName
  have hcons : Consistent (c.addPod t p) := h.consistent.congr rfl rfl rfl rfl
  have hmem : t ∈ c.versions := (h.consistent.stored hcur).1
  have hstore : ((c.addPod t p).storeStatus t s).2
      = (c.addPod t p).storeAgentTask { t with status := s.stored } := by
    have hcur' : (c.addPod t p).agentTasks t.key = some t := hcur
    have hchange : t.status ≠ s.stored := by
      intro heq
      have := congrArg AgentTaskStatus.phase heq
      rw [hun.phase] at this
      exact hne this.symm
    simp only [Cluster.storeStatus, hcur']
    rw [if_neg (by simp), if_neg hchange]
  rw [hstore]
  constructor
  · exact hcons.replace hcur rfl rfl
  · intro r hr
    rcases List.mem_cons.mp hr with rfl | hr
    · exact h.consistent.uid_le hmem
    · exact h.known r hr
  · intro u
    have hcount := podsCreatedFor_addPod c t p u
    change podsCreatedFor (c.addPod t p) u ≤ 1
    rw [hcount]
    split
    next hu =>
      rw [← hu, hzero]
    next => exact h.le_one u
  · intro k t' ht' hcount
    simp only [Cluster.storeAgentTask, Function.update_apply] at ht'
    split at ht'
    · cases ht'
      exact ⟨hphase, hpod⟩
    next hk =>
      -- another key, so another UID: its count is what it was
      have ht'' : c.agentTasks k = some t' := ht'
      have huid : t.uid ≠ t'.uid := by
        intro hu
        have hkk := h.consistent.uid_key (h.consistent.stored ht'').1 hmem
          hu.symm
        rw [(h.consistent.stored ht'').2] at hkk
        exact hk hkk
      have hcount' : podsCreatedFor (c.addPod t p) t'.uid ≠ 0 := hcount
      rw [podsCreatedFor_addPod, if_neg huid] at hcount'
      exact h.started ht'' hcount'

/-- Reconcile, effect by effect. A second pod would be made for a task that is
still unstarted; where the first one's name was recorded it is not. -/
theorem effect (h : OnePod c) {t : AgentTask} (ht : t ∈ c.versions)
    (hguard : Unstarted t → podIsMade env fates t c = true →
      c.agentTasks t.key = some t ∧ fates.createPod = .served
        ∧ fates.updateStatus ≠ .failed)
    (he : Effect env fates t c c') : OnePod c' := by
  cases he with
  | idle => exact h
  | initStatus hphase =>
      exact h.storeStatus ht fun hne => absurd hphase hne
  | prepared hun c₁ c₂ hc₁ hc₂ =>
      obtain ⟨f, g, rfl⟩ := prepared_frame hc₁ hc₂
      exact h.congr rfl rfl rfl rfl rfl
  | podCreated hun c₁ hprep hfree hcreate hlost =>
      -- excluded: the guard has the create answered and the status written
      obtain ⟨-, hserved, hwrite⟩ :=
        hguard hun (podIsMade_of_prepared hprep hfree hcreate)
      rcases hlost with hlost | hfailed
      · rw [hserved] at hlost
        cases hlost
      · exact absurd hfailed hwrite
  | podRecorded hun c₁ hprep hfree hcreate =>
      obtain ⟨hcur, -, -⟩ := hguard hun
        (podIsMade_of_prepared hprep hfree (by rw [hcreate]; decide))
      obtain ⟨f, g, rfl⟩ := hprep.frame
      refine OnePod.recordPod ?_ hcur hun PhaseType.noConfusion
        PhaseType.noConfusion (madePod_name_ne t)
      exact h.congr rfl rfl rfl rfl rfl
  | invalidState hphase hpending hpod =>
      exact h.storeStatus ht fun _ hne => absurd hpod hne
  | podNotFound hphase hpod =>
      exact h.storeStatus ht fun _ _ =>
        ⟨PhaseType.noConfusion, hpod⟩
  | observed pod => exact h.congr rfl rfl rfl rfl rfl
  | synced pod hphase hpod =>
      have hobs : OnePod (c.observe pod) := h.congr rfl rfl rfl rfl rfl
      refine hobs.storeStatus ht fun _ _ => ?_
      rw [syncStatus_phase, syncStatus_podName]
      exact ⟨phaseOf_ne_empty _, hpod⟩

/-- Every action that meets the guard keeps the invariant. -/
theorem apply (h : OnePod c) {a : Action} (hg : RemembersPod env c a)
    (ha : Cluster.apply env a c = some c') : OnePod c' := by
  have hcons := h.consistent.apply ha
  cases apply_step ha with
  | createTask =>
      constructor
      · exact hcons
      · intro r hr
        exact Nat.le_succ_of_le (h.known r hr)
      · exact h.le_one
      · intro k t ht hcount
        rcases stored_cases ht with ⟨-, rfl⟩ | ht
        · exact absurd
            (podsCreatedFor_fresh h.known (Nat.lt_succ_self _)) hcount
        · exact h.started ht hcount
  | editSpec ht => exact h.replace ht rfl rfl fun hp hn => ⟨hp, hn⟩
  | editStatus => cases hg
  | deleteTask =>
      constructor
      · exact hcons
      · exact h.known
      · exact h.le_one
      · intro k s hs
        exact h.started (stored_of_removed hs)
  | terminateTask ht => exact h.replace ht rfl rfl fun hp hn => ⟨hp, hn⟩
  | unserved => exact h
  | @reconcile key fates t c' hserve hread hdel he =>
      obtain ⟨hmem, hkey⟩ := h.consistent.read_mem hserve hread
      have hg := hg t (by rw [hread]; rfl)
      refine h.effect hmem (fun hun hmade => ?_) he
      rw [hkey]
      exact hg hun hdel hmade
  | collectConfigMap | collectNetworkPolicy | collectPod
  | setPodStatus | deletePod | setClock =>
      have hf := apply_sameTasks rfl ha
      exact h.congr hf.agentTasks hf.versions hf.resourceVersion hf.uid
        hf.created

end OnePod

theorem onePod_init : OnePod Cluster.init := by
  constructor
  · exact consistent_init
  · intro r hr
    cases hr
  · intro u
    exact Nat.zero_le 1
  · intro k t ht
    cases ht

-- ================================================================ the law

/-- In every run whose Reconciles remember the pods they make, at most one
pod is ever created for an AgentTask. -/
theorem podsCreatedFor_le_one {c : Cluster}
    (h : Reachable env (RemembersPod env) c) (u : Nat) :
    podsCreatedFor c u ≤ 1 :=
  (h.invariant (fun _ _ _ hinv hg ha => OnePod.apply hinv hg ha)
    onePod_init).le_one u

/-- The sample's task has its one pod. -/
theorem podsCreatedFor_le_one_demo :
    ∃ c, Reachable Sample.demo (RemembersPod Sample.demo) c
      ∧ podsCreatedFor c 1 = 1 ∧ podsCreatedFor c 1 ≤ 1 := by
  obtain ⟨c, hc, hone⟩ := reachable_of_run Sample.demo
    (RemembersPod Sample.demo) [
      .createTask Sample.key (Sample.spec "hi"),
      .reconcile Sample.key Sample.served,
      .reconcile Sample.key { Sample.served with createPod := .failed },
      .reconcile Sample.key Sample.served,
      .reconcile Sample.key Sample.served]
    (fun c => podsCreatedFor c 1) 1
    (by decide +kernel) (by decide +kernel)
  exact ⟨c, hc, hone, podsCreatedFor_le_one hc 1⟩

/-- Users create tasks and the controller reconciles them. -/
def OnlyReconciles (_ : Cluster) : Action → Prop
  | .createTask _ _ | .reconcile _ _ => True
  | _ => False

instance (c : Cluster) (a : Action) : Decidable (OnlyReconciles c a) :=
  match a with
  | .createTask _ _ | .reconcile _ _ => isTrue trivial
  | .editSpec _ _ | .editStatus _ _ | .deleteTask _ | .terminateTask _
  | .collectConfigMap _ | .collectNetworkPolicy _ | .collectPod _
  | .setPodStatus _ _ | .deletePod _ | .setClock _ => isFalse id

/-- The status write that follows the pod create fails once: the task is
still Pending without a PodName, and the next Reconcile makes a second
pod. -/
theorem second_pod_after_failed_write :
    ¬ ∀ c, Reachable Sample.demo OnlyReconciles c →
      podsCreatedFor c 1 ≤ 1 := by
  intro hall
  obtain ⟨c, hc, htwo⟩ := reachable_of_run Sample.demo OnlyReconciles [
      .createTask Sample.key (Sample.spec "hi"),
      .reconcile Sample.key Sample.served,
      .reconcile Sample.key { Sample.served with updateStatus := .failed },
      .reconcile Sample.key { Sample.served with podSuffix := "q9d4z" }]
    (fun c => podsCreatedFor c 1) 2
    (by decide +kernel) (by decide +kernel)
  have hone := hall c hc
  omega

end AgentAnvil.Operator
