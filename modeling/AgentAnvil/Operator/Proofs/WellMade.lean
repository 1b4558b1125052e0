/-
What the objects in the cluster look like, in every run whatsoever.

Only the controller creates ConfigMaps, NetworkPolicies and pods, so each
of them was built from some stored version of an AgentTask and still
carries what the builders put there: the collector and the users remove
objects whole, and the kubelet changes a pod's status alone. `WellMade`
says so, and no guard is needed for it: it holds under any fates, any
stale read and any order of actions (`WellMade.apply`).
-/
import AgentAnvil.Operator.Proofs.Versions

namespace AgentAnvil.Operator

variable {env : Env} {fates : CallFates}

-- ============================================================ vocabulary

/-- The fields of a pod that stay as the pod builder wrote them. -/
structure Made (env : Env) (t : AgentTask) (p : Pod) : Prop where
  nameSpace : p.nameSpace = t.nameSpace
  labels : p.labels = (buildPodForAgentTask env t).labels
  owner : p.owner = some t.ownerReference
  spec : p.spec = (buildPodForAgentTask env t).spec

/-- The name the policy of a task is looked up and created under. -/
def policyKey (t : AgentTask) : NamespacedName :=
  ⟨t.nameSpace, t.name ++ "-network-policy"⟩

/-- The policy as it is created for `t`. -/
def madePolicy (t : AgentTask) : NetworkPolicy :=
  { buildNetworkPolicy t.nameSpace t.name with
    owner := some t.ownerReference }

/-- The name the ConfigMap of a spec with this text is created under. -/
def configMapKey (t : AgentTask) (b : Bytes) : NamespacedName :=
  ⟨t.nameSpace, t.name ++ calculateSpecHash b ++ "-config"⟩

structure WellMade (env : Env) (c : Cluster) : Prop where
  consistent : Consistent c
  configMap : ∀ {k cm}, c.configMaps k = some cm →
    ∃ t ∈ c.versions, ∃ b, env.yamlMarshal t.spec = some b
      ∧ k = configMapKey t b ∧ cm.name = k.name
      ∧ cm.data = [("task.yaml", b)]
  policy : ∀ {k np}, c.networkPolicies k = some np →
    ∃ t ∈ c.versions, k = policyKey t ∧ np = madePolicy t
  pod : ∀ {k p}, c.pods k = some p →
    k ∈ c.podNames ∧ k = p.key ∧ ∃ t ∈ c.versions, Made env t p
  created : ∀ {r}, r ∈ c.created →
    r.pod.key ∈ c.podNames ∧ r.agentTask ∈ c.versions
      ∧ Made env r.agentTask r.pod

theorem wellMade_init : WellMade env Cluster.init := by
  constructor
  · exact consistent_init
  · intro k cm h
    cases h
  · intro k np h
    cases h
  · intro k p h
    cases h
  · intro r h
    cases h

/-- The pod of a task is made as `newPod` makes it. -/
theorem made_madePod (t : AgentTask) : Made env t (madePod env fates t) :=
  ⟨rfl, rfl, rfl, rfl⟩

namespace WellMade

variable {c c' : Cluster}

-- ======================================================= one change each

/-- New versions and new bookkeeping do not disturb the objects. -/
theorem tasks (h : WellMade env c) (hcons : Consistent c')
    (hv : c.versions ⊆ c'.versions) (hcm : c'.configMaps = c.configMaps)
    (hnp : c'.networkPolicies = c.networkPolicies)
    (hpods : c'.pods = c.pods) (hnames : c'.podNames = c.podNames)
    (hcreated : c'.created = c.created) : WellMade env c' := by
  constructor
  · exact hcons
  · intro k cm hk
    rw [hcm] at hk
    obtain ⟨t, ht, b, hrest⟩ := h.configMap hk
    exact ⟨t, hv ht, b, hrest⟩
  · intro k np hk
    rw [hnp] at hk
    obtain ⟨t, ht, hrest⟩ := h.policy hk
    exact ⟨t, hv ht, hrest⟩
  · intro k p hk
    rw [hpods] at hk
    obtain ⟨hname, hkey, t, ht, hmade⟩ := h.pod hk
    rw [hnames]
    exact ⟨hname, hkey, t, hv ht, hmade⟩
  · intro r hr
    rw [hcreated] at hr
    obtain ⟨hname, ht, hmade⟩ := h.created hr
    rw [hnames]
    exact ⟨hname, hv ht, hmade⟩

theorem storeAgentTask (h : WellMade env c) {t : AgentTask}
    (hcons : Consistent (c.storeAgentTask t)) :
    WellMade env (c.storeAgentTask t) :=
  h.tasks hcons (List.subset_cons_self ..) rfl rfl rfl rfl rfl

theorem storeStatus (h : WellMade env c) {t : AgentTask}
    (ht : t ∈ c.versions) (s : AgentTaskStatus) :
    WellMade env (c.storeStatus t s).2 := by
  have hcons := h.consistent.storeStatus ht s
  rcases h.consistent.storeStatus_read ht s with hs | ⟨-, -, hs⟩
  · rw [hs]
    exact h
  · rw [hs] at hcons ⊢
    exact h.storeAgentTask hcons

theorem ensureConfigMap (h : WellMade env c) {t : AgentTask}
    (ht : t ∈ c.versions) :
    WellMade env (ensureConfigMapForPod env fates t c).2 := by
  rcases ensureConfigMap_snd env fates t c with
    hs | ⟨cm, hcm, -, hs⟩
  · rw [hs]
    exact h
  · rw [hs]
    constructor
    · exact h.consistent.congr rfl rfl rfl rfl
    · intro k cm' hk
      rcases stored_cases hk with ⟨hkey, rfl⟩ | hk
      · simp only [buildConfigMapForAgentTask] at hcm
        split at hcm
        next => cases hcm
        next b hb =>
          cases hcm
          refine ⟨t, ht, b, hb, ?_, ?_, rfl⟩
          · rw [hkey, buildConfigMapName_eq hb]
            rfl
          · rw [hkey]
      · exact h.configMap hk
    · exact h.policy
    · exact h.pod
    · exact h.created

theorem ensureNetworkPolicy (h : WellMade env c) {t : AgentTask}
    (ht : t ∈ c.versions) :
    WellMade env (ensureNetworkPolicyForPod fates t c).2 := by
  rcases ensureNetworkPolicy_snd fates t c with hs | ⟨-, hs⟩
  · rw [hs]
    exact h
  · rw [hs]
    constructor
    · exact h.consistent.congr rfl rfl rfl rfl
    · exact h.configMap
    · intro k np hk
      rcases stored_cases hk with ⟨hkey, rfl⟩ | hk
      · exact ⟨t, ht, hkey, rfl⟩
      · exact h.policy hk
    · exact h.pod
    · exact h.created

theorem addPod (h : WellMade env c) {t : AgentTask} {p : Pod}
    (ht : t ∈ c.versions) (hmade : Made env t p) :
    WellMade env (c.addPod t p) := by
  constructor
  · exact h.consistent.congr rfl rfl rfl rfl
  · exact h.configMap
  · exact h.policy
  · intro k q hk
    rcases stored_cases hk with ⟨rfl, rfl⟩ | hk
    · exact ⟨List.mem_cons_self .., rfl, t, ht, hmade⟩
    · obtain ⟨hname, hrest⟩ := h.pod hk
      exact ⟨List.mem_cons_of_mem _ hname, hrest⟩
  · intro r hr
    rcases List.mem_cons.mp hr with rfl | hr
    · exact ⟨List.mem_cons_self .., ht, hmade⟩
    · obtain ⟨hname, hrest⟩ := h.created hr
      exact ⟨List.mem_cons_of_mem _ hname, hrest⟩

theorem observe (h : WellMade env c) (p : Pod) : WellMade env (c.observe p) :=
  h.tasks (h.consistent.congr rfl rfl rfl rfl) (List.Subset.refl _)
    rfl rfl rfl rfl rfl

/-- Preparing a pod keeps the objects well made. -/
theorem prepared (h : WellMade env c) {t : AgentTask} (ht : t ∈ c.versions)
    (hp : Prepared env fates t c c') : WellMade env c' := by
  obtain ⟨c₁, h₁, h₂⟩ := hp
  have hw₁ : WellMade env c₁ := by
    have hw : WellMade env (ensureConfigMapForPod env fates t c).2 :=
      h.ensureConfigMap ht
    rwa [h₁] at hw
  obtain ⟨f, hf⟩ := ensureConfigMap_frame env fates t c
  have ht₁ : t ∈ c₁.versions := by
    rw [h₁] at hf
    simp only at hf
    rw [hf]
    exact ht
  have hw : WellMade env (ensureNetworkPolicyForPod fates t c₁).2 :=
    hw₁.ensureNetworkPolicy ht₁
  rwa [h₂] at hw

/-- Taking a pod away leaves the others as they were made. -/
theorem removePod (h : WellMade env c) {key : NamespacedName}
    (hcons : Consistent
      { c with pods := Function.update c.pods key none }) :
    WellMade env { c with pods := Function.update c.pods key none } := by
  constructor
  · exact hcons
  · exact h.configMap
  · exact h.policy
  · intro k p hk
    exact h.pod (stored_of_removed hk)
  · exact h.created

-- ============================================================== Reconcile

/-- Reconcile, effect by effect. -/
theorem effect (h : WellMade env c) {t : AgentTask} (ht : t ∈ c.versions)
    (he : Effect env fates t c c') : WellMade env c' := by
  cases he with
  | idle => exact h
  | initStatus => exact h.storeStatus ht _
  | prepared hun c₁ c₂ hc₁ hc₂ =>
      have hw₁ : WellMade env c₁ := hc₁ ▸ h.ensureConfigMap ht
      rcases hc₂ with rfl | hc₂
      · exact hw₁
      · obtain ⟨f, hf⟩ := ensureConfigMap_frame env fates t c
        rw [hc₂]
        refine hw₁.ensureNetworkPolicy ?_
        rw [hc₁, hf]
        exact ht
  | podCreated hun c₁ hprep =>
      have hw₁ := h.prepared ht hprep
      obtain ⟨f, g, rfl⟩ := hprep.frame
      exact hw₁.addPod ht (made_madePod t)
  | podRecorded hun c₁ hprep =>
      have hw₁ := h.prepared ht hprep
      obtain ⟨f, g, rfl⟩ := hprep.frame
      exact (hw₁.addPod ht (made_madePod t)).storeStatus ht _
  | invalidState => exact h.storeStatus ht _
  | podNotFound => exact h.storeStatus ht _
  | observed pod => exact h.observe pod
  | synced pod => exact (h.observe pod).storeStatus ht _

-- ============================================================= every run

/-- Every action keeps the objects well made. -/
theorem apply (h : WellMade env c) {a : Action}
    (ha : Cluster.apply env a c = some c') : WellMade env c' := by
  have hcons := h.consistent.apply ha
  cases apply_step ha with
  | createTask =>
      exact h.tasks hcons (List.subset_cons_self ..) rfl rfl rfl rfl rfl
  | editSpec | editStatus | terminateTask => exact h.storeAgentTask hcons
  | deleteTask | setClock =>
      exact h.tasks hcons (List.Subset.refl _) rfl rfl rfl rfl rfl
  | unserved => exact h
  | reconcile hserve hread hdel he =>
      exact h.effect (h.consistent.read_mem hserve hread).1 he
  | collectConfigMap =>
      constructor
      · exact hcons
      · intro k cm hk
        exact h.configMap (stored_of_removed hk)
      · exact h.policy
      · exact h.pod
      · exact h.created
  | collectNetworkPolicy =>
      constructor
      · exact hcons
      · exact h.configMap
      · intro k np hk
        exact h.policy (stored_of_removed hk)
      · exact h.pod
      · exact h.created
  | collectPod | deletePod => exact h.removePod hcons
  | setPodStatus hp =>
      constructor
      · exact hcons
      · exact h.configMap
      · exact h.policy
      · intro k q hk
        rcases stored_cases hk with ⟨rfl, rfl⟩ | hk
        · obtain ⟨hname, hk, t, ht, hmade⟩ := h.pod hp
          exact ⟨hname, hk, t, ht,
            hmade.nameSpace, hmade.labels, hmade.owner, hmade.spec⟩
        · exact h.pod hk
      · exact h.created

end WellMade

/-- In every run the objects are well made. -/
theorem wellMade_of_reachable {guard : Cluster → Action → Prop} {c : Cluster}
    (h : Reachable env guard c) : WellMade env c :=
  h.invariant (fun _ _ _ hinv _ ha => hinv.apply ha) wellMade_init

end AgentAnvil.Operator
