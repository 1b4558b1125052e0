/-
Egress isolation of task pods.

The policy of a task is looked up by a name derived from the task's name
alone, and an existing one is accepted whoever owns it. After an AgentTask
is deleted and created again under the same name, its first Reconcile can
find the policy of the deleted UID still there; it creates the pod next to
it, and when the collector removes that policy the pod of the live task is
left without one (`pod_without_policy_after_recreation`).

`FindsOwnPolicy` is the condition that excludes this: a Reconcile that
makes a pod finds, under the derived name, no policy or its own UID's.
Under it every pod of a live task is covered by the policy of its own UID
(`Isolated`): the collector removes a policy only when its owner is gone,
and nobody else removes or changes one.
-/
import AgentAnvil.Operator.Proofs.WellMade
import AgentAnvil.Operator.Proofs.OnePod

namespace AgentAnvil.Operator

variable {env : Env} {fates : CallFates}

-- ============================================================ vocabulary

/-- The owner a reference names is stored, under its UID, and not marked
for deletion. -/
def Live (c : Cluster) (ns : String) (o : OwnerReference) : Prop :=
  ∃ t, c.agentTasks ⟨ns, o.name⟩ = some t ∧ t.uid = o.uid
    ∧ t.deletionTimestamp = none

/-- The policy under the name derived for `o` is owned by `o`. -/
def Covered (c : Cluster) (ns : String) (o : OwnerReference) : Prop :=
  ∃ np, c.networkPolicies ⟨ns, o.name ++ "-network-policy"⟩ = some np
    ∧ np.owner = some o

/-- The stored task is live and owns the pod stored under `k`. -/
def Cluster.livePod (c : Cluster) (key k : NamespacedName) : Bool :=
  match c.agentTasks key, c.pods k with
  | some t, some p =>
      decide (t.deletionTimestamp = none)
        && decide (p.owner = some t.ownerReference)
  | _, _ => false

/-- A live pod belongs to the task that is there now. -/
theorem Cluster.livePod_eq_true {c : Cluster} {key k : NamespacedName}
    (h : c.livePod key k = true) :
    ∃ t p, c.agentTasks key = some t ∧ c.pods k = some p
      ∧ t.deletionTimestamp = none ∧ p.owner = some t.ownerReference := by
  simp only [livePod] at h
  split at h
  next t p ht hp =>
    simp only [Bool.and_eq_true, decide_eq_true_eq] at h
    exact ⟨t, p, ht, hp, h.1, h.2⟩
  next => cases h

/-- A Reconcile that makes a pod finds no policy under the derived name,
or one that its own UID owns. -/
def FindsOwnPolicy (env : Env) (c : Cluster) : Action → Prop
  | .reconcile key fates =>
      fates.getNetworkPolicy.uncached = true ∧
        ∀ t ∈ (fates.getAgentTask.read (c.agentTasks key)).toOption,
          Unstarted t → t.deletionTimestamp = none →
            podIsMade env fates t c = true →
              ∀ np ∈ c.networkPolicies (policyKey t),
                np.owner = some t.ownerReference
  | _ => True

instance (c : Cluster) (a : Action) :
    Decidable (FindsOwnPolicy env c a) :=
  match a with
  | .reconcile _ _ =>
      (inferInstance : Decidable (_ ∧ ∀ t ∈ _, _ → _ → _ → ∀ np ∈ _, _))
  | .createTask _ _ | .editSpec _ _ | .editStatus _ _ | .deleteTask _
  | .terminateTask _ | .collectConfigMap _ | .collectNetworkPolicy _
  | .collectPod _ | .setPodStatus _ _ | .deletePod _ | .setClock _ =>
      isTrue trivial

/-- The collector takes nothing whose owner is live. -/
theorem ownerGone_of_live {c : Cluster} {ns : String} {o : OwnerReference}
    (h : Live c ns o) : c.ownerGone ns (some o) = false := by
  obtain ⟨t, ht, hu, hdel⟩ := h
  simp [Cluster.ownerGone, ht, hu, hdel]

-- ======================================================= one change each

/-- Storing a new version of a task makes no owner live that was not. -/
theorem live_of_storeAgentTask {c : Cluster} {k : NamespacedName}
    {cur t : AgentTask} {ns : String} {o : OwnerReference}
    (hcons : Consistent c) (hcur : c.agentTasks k = some cur)
    (hu : t.uid = cur.uid) (hk : t.key = cur.key)
    (hdel : t.deletionTimestamp = none → cur.deletionTimestamp = none)
    (h : Live (c.storeAgentTask t) ns o) : Live c ns o := by
  obtain ⟨s, hs, hsu, hsd⟩ := h
  rcases stored_cases hs with ⟨hkey, rfl⟩ | hs
  · refine ⟨cur, ?_, ?_, hdel hsd⟩
    · have hkey' : (⟨ns, o.name⟩ : NamespacedName) = t.key := hkey
      rw [hkey', hk, (hcons.stored hcur).2]
      exact hcur
    · rw [← hu]
      exact hsu
  · exact ⟨s, hs, hsu, hsd⟩

/-- The policy step only adds policies. -/
theorem covered_ensureNetworkPolicy {t : AgentTask} {c : Cluster}
    {ns : String} {o : OwnerReference} (h : Covered c ns o) :
    Covered (ensureNetworkPolicyForPod fates t c).2 ns o := by
  rcases ensureNetworkPolicy_snd fates t c with hs | ⟨hfree, hs⟩
  · rwa [hs]
  · rw [hs]
    obtain ⟨np, hnp, ho⟩ := h
    exact ⟨np, stored_of_free hfree hnp, ho⟩

theorem covered_ensureConfigMap {t : AgentTask} {c : Cluster} {ns : String}
    {o : OwnerReference} (h : Covered c ns o) :
    Covered (ensureConfigMapForPod env fates t c).2 ns o := by
  obtain ⟨f, hf⟩ := ensureConfigMap_frame env fates t c
  rw [hf]
  exact h

/-- When the policy step returns without error, a policy is stored under
the derived name: the one that was found there, or the task's own. -/
theorem ensureNetworkPolicy_ok {t : AgentTask} {c c' : Cluster}
    (hread : fates.getNetworkPolicy.uncached = true)
    (h : ensureNetworkPolicyForPod fates t c = (.ok (), c')) :
    ∃ np, c'.networkPolicies (policyKey t) = some np
      ∧ (c.networkPolicies (policyKey t) = some np ∨ np = madePolicy t) := by
  simp only [ensureNetworkPolicyForPod] at h
  split at h
  next np hnp =>
    cases h
    cases hfate : fates.getNetworkPolicy with
    | fresh =>
        rw [hfate] at hnp
        simp only [ReadFate.read] at hnp
        split at hnp
        next a ha =>
          cases hnp
          exact ⟨np, ha, .inl ha⟩
        next => cases hnp
    | failed =>
        rw [hfate] at hnp
        cases hnp
    | cached entry =>
        rw [hfate] at hread
        cases hread
  next err herr =>
    split at h
    · obtain ⟨-, hcreate⟩ := CallFate.send_ok h
      simp only [Cluster.createNetworkPolicy] at hcreate
      split at hcreate
      next => cases hcreate
      next =>
        cases hcreate
        exact ⟨madePolicy t, Function.update_self .., .inr rfl⟩
    · cases h

/-- A made pod is covered, if what the Reconcile found under the derived
name was its own. -/
theorem covered_of_prepared {t : AgentTask} {c c' : Cluster}
    (hread : fates.getNetworkPolicy.uncached = true)
    (hown : ∀ np, c.networkPolicies (policyKey t) = some np →
      np.owner = some t.ownerReference)
    (hprep : Prepared env fates t c c') :
    Covered c' t.nameSpace t.ownerReference := by
  obtain ⟨c₁, h₁, h₂⟩ := hprep
  obtain ⟨f, hf⟩ := ensureConfigMap_frame env fates t c
  rw [h₁] at hf
  simp only at hf
  subst hf
  obtain ⟨np, hnp, hfrom⟩ := ensureNetworkPolicy_ok hread h₂
  refine ⟨np, hnp, ?_⟩
  rcases hfrom with hfound | rfl
  · exact hown np hfound
  · rfl

-- ========================================================= the invariant

/-- Every pod of a live owner is covered by that owner's policy. -/
structure Isolated (env : Env) (c : Cluster) : Prop where
  wellMade : WellMade env c
  covered : ∀ {k p o}, c.pods k = some p → p.owner = some o →
    Live c k.nameSpace o → Covered c k.nameSpace o

theorem isolated_init : Isolated env Cluster.init := by
  constructor
  · exact wellMade_init
  · intro k p o h
    cases h

namespace Isolated

variable {c c' : Cluster}

/-- Changes that add no pod, make no owner live and remove no policy a
live owner needs keep the invariant. -/
theorem shrink (h : Isolated env c) (hw : WellMade env c')
    (hpods : ∀ {k p}, c'.pods k = some p →
      ∃ q, c.pods k = some q ∧ q.owner = p.owner)
    (hlive : ∀ {ns o}, Live c' ns o → Live c ns o)
    (hcov : ∀ {ns o}, Live c ns o → Covered c ns o → Covered c' ns o) :
    Isolated env c' := by
  constructor
  · exact hw
  · intro k p o hp ho hl
    obtain ⟨q, hq, hqo⟩ := hpods hp
    exact hcov (hlive hl) (h.covered hq (hqo.trans ho) (hlive hl))

theorem storeStatus (h : Isolated env c) {t : AgentTask}
    (ht : t ∈ c.versions) (s : AgentTaskStatus) :
    Isolated env (c.storeStatus t s).2 := by
  have hw := h.wellMade.storeStatus ht s
  have hcons := h.wellMade.consistent
  rcases hcons.storeStatus_read ht s with hs | ⟨hcur, -, hs⟩
  · rw [hs]
    exact h
  · rw [hs] at hw ⊢
    exact h.shrink hw (fun hp => ⟨_, hp, rfl⟩)
      (live_of_storeAgentTask hcons hcur rfl rfl fun hd => hd)
      (fun _ hc => hc)

/-- A pod may be added where its task's policy is already there. -/
theorem addPod (h : Isolated env c) {t : AgentTask} {p : Pod}
    (ht : t ∈ c.versions) (hmade : Made env t p)
    (hcov : Covered c t.nameSpace t.ownerReference) :
    Isolated env (c.addPod t p) := by
  constructor
  · exact h.wellMade.addPod ht hmade
  · intro k q o hq ho hl
    rcases stored_cases hq with ⟨rfl, rfl⟩ | hq
    · rw [hmade.owner] at ho
      cases ho
      unfold Pod.key
      rw [hmade.nameSpace]
      exact hcov
    · exact h.covered hq ho hl

/-- The objects made before the pod isolate it. -/
theorem prepared (h : Isolated env c) {t : AgentTask} {c₁ : Cluster}
    (hw : WellMade env c')
    (h₁ : c₁ = (ensureConfigMapForPod env fates t c).2)
    (h₂ : c' = c₁ ∨ c' = (ensureNetworkPolicyForPod fates t c₁).2) :
    Isolated env c' := by
  obtain ⟨f, g, hframe⟩ := prepared_frame h₁ h₂
  refine h.shrink hw ?_ ?_ ?_
  · intro k p hp
    rw [hframe] at hp
    exact ⟨p, hp, rfl⟩
  · intro ns o hl
    rw [hframe] at hl
    exact hl
  · intro ns o _ hcov
    have hcov₁ : Covered c₁ ns o := h₁ ▸ covered_ensureConfigMap hcov
    rcases h₂ with rfl | rfl
    · exact hcov₁
    · exact covered_ensureNetworkPolicy hcov₁

theorem removePod (h : Isolated env c) {key : NamespacedName}
    (hw : WellMade env { c with pods := Function.update c.pods key none }) :
    Isolated env { c with pods := Function.update c.pods key none } := by
  refine h.shrink hw ?_ (fun hl => hl) (fun _ hc => hc)
  intro k p hp
  exact ⟨p, stored_of_removed hp, rfl⟩

/-- Both ensure functions leave the other pods isolated. -/
theorem ofPrepared (h : Isolated env c) {t : AgentTask}
    (ht : t ∈ c.versions) (hprep : Prepared env fates t c c') :
    Isolated env c' := by
  have hw := h.wellMade.prepared ht hprep
  obtain ⟨c₁, h₁, h₂⟩ := hprep
  exact h.prepared hw rfl (.inr (by rw [h₁, h₂]))

/-- Reconcile, effect by effect. The guard asks for the task's own policy only
where a pod is about to be made. -/
theorem effect (h : Isolated env c) {t : AgentTask} (ht : t ∈ c.versions)
    (hread : fates.getNetworkPolicy.uncached = true)
    (hguard : Unstarted t → podIsMade env fates t c = true →
      ∀ np, c.networkPolicies (policyKey t) = some np →
        np.owner = some t.ownerReference)
    (he : Effect env fates t c c') : Isolated env c' := by
  have hw := h.wellMade.effect ht he
  cases he with
  | idle => exact h
  | initStatus => exact h.storeStatus ht _
  | prepared hun c₁ c₂ hc₁ hc₂ => exact h.prepared hw hc₁ hc₂
  | podCreated hun c₁ hprep hfree hcreate =>
      have hcov := covered_of_prepared hread
        (hguard hun (podIsMade_of_prepared hprep hfree hcreate)) hprep
      have hiso := h.ofPrepared ht hprep
      obtain ⟨f, g, rfl⟩ := hprep.frame
      exact hiso.addPod ht (made_madePod t) hcov
  | podRecorded hun c₁ hprep hfree hcreate =>
      have hcov := covered_of_prepared hread
        (hguard hun
          (podIsMade_of_prepared hprep hfree (by rw [hcreate]; decide))) hprep
      have hiso := h.ofPrepared ht hprep
      obtain ⟨f, g, rfl⟩ := hprep.frame
      exact (hiso.addPod ht (made_madePod t) hcov).storeStatus ht _
  | invalidState => exact h.storeStatus ht _
  | podNotFound => exact h.storeStatus ht _
  | observed pod =>
      exact h.shrink hw (fun hp => ⟨_, hp, rfl⟩) (fun hl => hl)
        (fun _ hc => hc)
  | synced pod =>
      have hobs : Isolated env (c.observe pod) :=
        h.shrink (h.wellMade.observe pod) (fun hp => ⟨_, hp, rfl⟩)
          (fun hl => hl) (fun _ hc => hc)
      exact hobs.storeStatus ht _

/-- Every action that meets the guard keeps the invariant. -/
theorem apply (h : Isolated env c) {a : Action} (hg : FindsOwnPolicy env c a)
    (ha : Cluster.apply env a c = some c') : Isolated env c' := by
  have hw := h.wellMade.apply ha
  have hcons := h.wellMade.consistent
  cases apply_step ha with
  | createTask =>
      constructor
      · exact hw
      · intro k p o hp ho hl
        obtain ⟨-, -, t, ht, hmade⟩ := h.wellMade.pod hp
        have hle := hcons.uid_le ht
        rw [hmade.owner] at ho
        cases ho
        -- a new UID owns no pod yet, so the live owner is an old one
        obtain ⟨s, hs, hsu, hsd⟩ := hl
        rcases stored_cases hs with ⟨-, rfl⟩ | hs
        · have hnew : c.uid + 1 = t.uid := hsu
          omega
        · exact h.covered hp hmade.owner ⟨s, hs, hsu, hsd⟩
  | editSpec ht =>
      exact h.shrink hw (fun hp => ⟨_, hp, rfl⟩)
        (live_of_storeAgentTask hcons ht rfl rfl fun hd => hd)
        (fun _ hc => hc)
  | editStatus ht =>
      exact h.shrink hw (fun hp => ⟨_, hp, rfl⟩)
        (live_of_storeAgentTask hcons ht rfl rfl fun hd => hd)
        (fun _ hc => hc)
  | deleteTask =>
      refine h.shrink hw (fun hp => ⟨_, hp, rfl⟩) ?_ (fun _ hc => hc)
      rintro ns o ⟨s, hs, hrest⟩
      exact ⟨s, stored_of_removed hs, hrest⟩
  | terminateTask ht =>
      exact h.shrink hw (fun hp => ⟨_, hp, rfl⟩)
        (live_of_storeAgentTask hcons ht rfl rfl (fun hd => by cases hd))
        (fun _ hc => hc)
  | unserved => exact h
  | @reconcile key fates t c' hserve hread hdel he =>
      have hmem := (hcons.read_mem hserve hread).1
      have hown := hg.2 t (by rw [hread]; rfl)
      exact h.effect hmem hg.1
        (fun hun hmade np hnp => hown hun hdel hmade np hnp) he
  | collectConfigMap | setClock =>
      exact h.shrink hw (fun hp => ⟨_, hp, rfl⟩) (fun hl => hl)
        (fun _ hc => hc)
  | collectNetworkPolicy hnp hgone =>
      refine h.shrink hw (fun hp => ⟨_, hp, rfl⟩) (fun hl => hl) ?_
      rintro ns o hl ⟨np', hnp', ho⟩
      refine ⟨np', ?_, ho⟩
      simp only [Function.update_apply]
      split
      next hkey =>
        -- the collected policy: its owner is gone, so not live
        rw [hkey, hnp] at hnp'
        cases hnp'
        rw [ho, ← hkey, ownerGone_of_live hl] at hgone
        cases hgone
      next => exact hnp'
  | collectPod | deletePod => exact h.removePod hw
  | @setPodStatus key status p hp =>
      refine h.shrink hw ?_ (fun hl => hl) (fun _ hc => hc)
      intro k q hq
      rcases stored_cases hq with ⟨rfl, rfl⟩ | hq
      · exact ⟨p, hp, rfl⟩
      · exact ⟨q, hq, rfl⟩

end Isolated

-- ================================================================ the law

/-- The policy that covers an owner selects the owner's pods and admits no
egress. -/
theorem Covered.selects {c : Cluster} {k : NamespacedName} {p : Pod}
    {o : OwnerReference} (hw : WellMade env c) (hp : c.pods k = some p)
    (ho : p.owner = some o) (h : Covered c k.nameSpace o) :
    ∃ nk np, c.networkPolicies nk = some np ∧ np.selects p = true
      ∧ np.deniesEgress = true := by
  obtain ⟨np, hnp, -⟩ := h
  obtain ⟨-, hkey, t, -, hmade⟩ := hw.pod hp
  obtain ⟨t', -, hpk, rfl⟩ := hw.policy hnp
  rw [hmade.owner] at ho
  cases ho
  -- the derived name gives the task name back
  obtain ⟨hns, hname⟩ := NamespacedName.mk.inj hpk
  have hname' : t.name = t'.name := by
    have hl := congrArg String.toList hname
    simp only [String.toList_append] at hl
    exact String.toList_inj.mp (List.append_cancel_right hl)
  refine ⟨_, _, hnp, ?_, ?_⟩
  · refine buildNetworkPolicy_selects env t' p ?_ ?_
    · rw [← hns, hkey]
      rfl
    · rw [hmade.labels]
      simp only [buildPodForAgentTask, hname']
  · exact buildNetworkPolicy_deniesEgress t'.nameSpace t'.name

/-- In every run whose Reconciles find their own policy or none, every pod
of a live AgentTask is selected by a policy that denies all egress. -/
theorem pod_egress_denied {c : Cluster}
    (h : Reachable env (FindsOwnPolicy env) c) {key k : NamespacedName}
    {t : AgentTask} {p : Pod} (ht : c.agentTasks key = some t)
    (hlive : t.deletionTimestamp = none) (hp : c.pods k = some p)
    (hns : k.nameSpace = key.nameSpace)
    (ho : p.owner = some t.ownerReference) :
    ∃ nk np, c.networkPolicies nk = some np ∧ np.selects p = true
      ∧ np.deniesEgress = true := by
  have hiso : Isolated env c :=
    h.invariant (fun _ _ _ hinv hg ha => hinv.apply hg ha) isolated_init
  have hkey := (hiso.wellMade.consistent.stored ht).2
  subst hkey
  refine Covered.selects hiso.wellMade hp ho (hiso.covered hp ho ?_)
  refine ⟨t, ?_, rfl, hlive⟩
  rw [hns]
  exact ht

/-- The sample's pod, and the policy that selects it. -/
theorem pod_egress_denied_demo :
    ∃ c, Reachable Sample.demo (FindsOwnPolicy Sample.demo) c
      ∧ ∃ nk np p, c.pods ⟨"default", "demo-pod-x7k2p"⟩ = some p
        ∧ c.networkPolicies nk = some np ∧ np.selects p = true
        ∧ np.deniesEgress = true := by
  -- a task is deleted, its policy collected, and only then re-created
  obtain ⟨c, hc, hf⟩ := reachable_of_run Sample.demo
    (FindsOwnPolicy Sample.demo) [
      .createTask Sample.key (Sample.spec "hi"),
      .reconcile Sample.key Sample.served,
      .reconcile Sample.key { Sample.served with podSuffix := "q9d4z" },
      .deleteTask Sample.key,
      .collectNetworkPolicy ⟨"default", "demo-network-policy"⟩,
      .createTask Sample.key (Sample.spec "hi"),
      .reconcile Sample.key Sample.served,
      .reconcile Sample.key Sample.served]
    (fun c => c.livePod Sample.key ⟨"default", "demo-pod-x7k2p"⟩) true
    (by decide +kernel) (by decide +kernel)
  obtain ⟨t, p, ht, hp, hlive, ho⟩ := c.livePod_eq_true hf
  obtain ⟨nk, np, hnp⟩ := pod_egress_denied hc ht hlive hp rfl ho
  exact ⟨c, hc, nk, np, p, hp, hnp⟩

-- ===================================================== where it fails

/-- Only the policy under the derived name selects a pod. -/
theorem key_of_selects {c : Cluster} {k nk : NamespacedName} {p : Pod}
    {np : NetworkPolicy} {o : OwnerReference} (hw : WellMade env c)
    (hp : c.pods k = some p) (ho : p.owner = some o)
    (hnp : c.networkPolicies nk = some np) (hs : np.selects p = true) :
    nk = ⟨k.nameSpace, o.name ++ "-network-policy"⟩ := by
  obtain ⟨-, hkey, t, -, hmade⟩ := hw.pod hp
  obtain ⟨t', -, rfl, rfl⟩ := hw.policy hnp
  rw [hmade.owner] at ho
  cases ho
  simp only [NetworkPolicy.selects, madePolicy, buildNetworkPolicy,
    hmade.labels, buildPodForAgentTask, Bool.and_eq_true] at hs
  obtain ⟨hns, hlabel⟩ := hs
  have hns := of_decide_eq_true hns
  have hname : t'.name = t.name := by simpa using hlabel
  unfold policyKey
  rw [hns, hname, hkey]
  rfl

/-- Users create and delete tasks, the controller reconciles them with
reads served from the store, and the collector collects. -/
def DeletesAndCollects (_ : Cluster) : Action → Prop
  | .createTask _ _ | .deleteTask _ => True
  | .reconcile _ fates =>
      fates.getAgentTask.uncached = true ∧ fates.getConfigMap.uncached = true
        ∧ fates.getNetworkPolicy.uncached = true
        ∧ fates.getPod.uncached = true
  | .collectConfigMap _ | .collectNetworkPolicy _ | .collectPod _ => True
  | _ => False

instance (c : Cluster) (a : Action) :
    Decidable (DeletesAndCollects c a) :=
  match a with
  | .reconcile _ _ =>
      (inferInstance : Decidable (_ = _ ∧ _ = _ ∧ _ = _ ∧ _ = _))
  | .createTask _ _ | .deleteTask _ | .collectConfigMap _
  | .collectNetworkPolicy _ | .collectPod _ => isTrue trivial
  | .editSpec _ _ | .editStatus _ _ | .terminateTask _ | .setPodStatus _ _
  | .deletePod _ | .setClock _ => isFalse id

/-- The re-created task accepts its predecessor's policy, which is
collected after the pod exists: the live task's pod is selected by no
policy. -/
theorem pod_without_policy_after_recreation :
    ¬ ∀ c, Reachable Sample.demo DeletesAndCollects c →
      ∀ key k t p, c.agentTasks key = some t → t.deletionTimestamp = none →
        c.pods k = some p → k.nameSpace = key.nameSpace →
        p.owner = some t.ownerReference →
        ∃ nk np, c.networkPolicies nk = some np ∧ np.selects p = true
          ∧ np.deniesEgress = true := by
  intro hall
  obtain ⟨c, hc, hf⟩ := reachable_of_run Sample.demo DeletesAndCollects [
      .createTask Sample.key (Sample.spec "hi"),
      .reconcile Sample.key Sample.served,
      .reconcile Sample.key { Sample.served with podSuffix := "q9d4z" },
      .deleteTask Sample.key,
      .createTask Sample.key (Sample.spec "hi"),
      .reconcile Sample.key Sample.served,
      .reconcile Sample.key Sample.served,
      .collectNetworkPolicy ⟨"default", "demo-network-policy"⟩]
    (fun c => c.livePod Sample.key ⟨"default", "demo-pod-x7k2p"⟩
      && (c.networkPolicies ⟨"default", "demo-network-policy"⟩).isNone) true
    (by decide +kernel) (by decide +kernel)
  obtain ⟨hpod, hnone⟩ := Bool.and_eq_true_iff.mp hf
  obtain ⟨t, p, ht, hp, hlive, ho⟩ := c.livePod_eq_true hpod
  have hw := wellMade_of_reachable hc
  obtain ⟨nk, np, hnp, hs, -⟩ := hall c hc _ _ t p ht hlive hp rfl ho
  have hname : t.name = "demo" :=
    congrArg NamespacedName.name (hw.consistent.stored ht).2
  have hnk : nk = ⟨"default", "demo-network-policy"⟩ := by
    rw [key_of_selects hw hp ho hnp hs, AgentTask.ownerReference, hname]
    rfl
  rw [hnk, Option.isNone_iff_eq_none.mp hnone] at hnp
  cases hnp

end AgentAnvil.Operator
