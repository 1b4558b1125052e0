/-
What the garbage collector takes, and what it leaves.

Everything the controller creates carries the owner reference of the task
it was created for, so the collector takes it once that task is gone:
when it has nothing left to do, every stored object belongs to a task that
is there (`collector_leaves_owned`).

The other direction is what a running task needs: what it owns is not
taken. A pod lives on the ConfigMap its task volume names, and that
ConfigMap is found by name, whoever owns it. Under the guard that excludes
a ConfigMap left over by a predecessor (`FindsOwnConfigMap`) every pod of a
live task keeps the very ConfigMap that was mounted when it was created
(`mounted_config_kept`); without the guard a re-created task can lose it
(`config_lost_after_recreation`).
-/
import AgentAnvil.Operator.Proofs.TaskYaml
import AgentAnvil.Operator.Proofs.Egress
import AgentAnvil.Operator.Proofs.Settling

namespace AgentAnvil.Operator

variable {env : Env} {fates : CallFates} {c c' : Cluster}

-- ================================================ what an effect leaves

/-- The policy step leaves the ConfigMaps as the ConfigMap step did. -/
theorem Prepared.configMaps {t : AgentTask} (h : Prepared env fates t c c') :
    c'.configMaps = (ensureConfigMapForPod env fates t c).2.configMaps := by
  obtain ⟨c₁, h₁, h₂⟩ := h
  obtain ⟨g, hg⟩ := ensureNetworkPolicy_frame fates t c₁
  rw [h₂] at hg
  simp only at hg
  rw [hg, h₁]

/-- A Reconcile changes ConfigMaps in its ConfigMap step only. -/
theorem Effect.configMaps {t : AgentTask} (he : Effect env fates t c c') :
    c'.configMaps = c.configMaps
      ∨ c'.configMaps
        = (ensureConfigMapForPod env fates t c).2.configMaps := by
  cases he with
  | idle | observed => exact Or.inl rfl
  | initStatus | invalidState | podNotFound =>
      exact Or.inl (storeStatus_frame c t _).1
  | synced pod => exact Or.inl (storeStatus_frame (c.observe pod) t _).1
  | prepared hun c₁ c₂ hc₁ hc₂ =>
      right
      rw [← hc₁]
      rcases hc₂ with rfl | rfl
      · rfl
      · obtain ⟨g, hg⟩ := ensureNetworkPolicy_frame fates t c₁
        rw [hg]
  | podCreated hun c₁ hprep => exact Or.inr hprep.configMaps
  | podRecorded hun c₁ hprep =>
      right
      rw [(storeStatus_frame _ t _).1]
      exact hprep.configMaps

/-- The record a Reconcile of `t` leaves of the pod it makes. -/
def madeRecord (env : Env) (fates : CallFates) (t : AgentTask)
    (c₁ : Cluster) : PodCreation :=
  { agentTask := t, pod := madePod env fates t
    mounted := c₁.mountedConfigMap (madePod env fates t) }

/-- A Reconcile makes no pod, or one whose preparation went through. -/
theorem Effect.created {t : AgentTask} (he : Effect env fates t c c') :
    c'.created = c.created
      ∨ ∃ c₁, Prepared env fates t c c₁ ∧ Unstarted t
        ∧ podIsMade env fates t c = true
        ∧ c'.configMaps = c₁.configMaps
        ∧ c'.created = madeRecord env fates t c₁ :: c.created := by
  cases he with
  | idle | observed => exact Or.inl rfl
  | initStatus | invalidState | podNotFound =>
      exact Or.inl (storeStatus_frame c t _).2
  | synced pod => exact Or.inl (storeStatus_frame (c.observe pod) t _).2
  | prepared hun c₁ c₂ hc₁ hc₂ =>
      left
      obtain ⟨f, g, rfl⟩ := prepared_frame hc₁ hc₂
      rfl
  | podCreated hun c₁ hprep hfree hcreate =>
      right
      refine ⟨c₁, hprep, hun, podIsMade_of_prepared hprep hfree hcreate,
        rfl, ?_⟩
      obtain ⟨f, g, rfl⟩ := hprep.frame
      rfl
  | podRecorded hun c₁ hprep hfree hcreate =>
      right
      refine ⟨c₁, hprep, hun,
        podIsMade_of_prepared hprep hfree (by rw [hcreate]; decide),
        (storeStatus_frame _ t _).1, ?_⟩
      rw [(storeStatus_frame _ t _).2]
      obtain ⟨f, g, rfl⟩ := hprep.frame
      rfl

-- ============================================================= who owns it

/-- The owner reference is of some version in this namespace. -/
def OwnedIn (c : Cluster) (ns : String) (owner : Option OwnerReference) :
    Prop :=
  ∃ t ∈ c.versions, t.nameSpace = ns ∧ owner = some t.ownerReference

/-- Every ConfigMap is owned; policies and pods are by construction. -/
structure Owned (env : Env) (c : Cluster) : Prop where
  wellMade : WellMade env c
  configMap : ∀ {k cm}, c.configMaps k = some cm →
    OwnedIn c k.nameSpace cm.owner

theorem owned_init : Owned env Cluster.init := by
  refine ⟨wellMade_init, ?_⟩
  intro k cm h
  cases h

namespace Owned

/-- Every ConfigMap was there, or was built for the task that was read. -/
theorem ensureConfigMap (h : Owned env c) {t : AgentTask}
    (ht : t ∈ c.versions) {k : NamespacedName} {cm : ConfigMap}
    (hk : (ensureConfigMapForPod env fates t c).2.configMaps k = some cm) :
    OwnedIn c k.nameSpace cm.owner := by
  rcases ensureConfigMap_snd env fates t c with hs | ⟨new, hnew, -, hs⟩
  · rw [hs] at hk
    exact h.configMap hk
  · rw [hs] at hk
    rcases stored_cases hk with ⟨hkey, rfl⟩ | hk
    · refine ⟨t, ht, ?_, rfl⟩
      simp only [buildConfigMapForAgentTask] at hnew
      split at hnew
      next => cases hnew
      next =>
        cases hnew
        rw [hkey]
    · exact h.configMap hk

/-- Every action keeps what is stored owned. -/
theorem apply (h : Owned env c) {a : Action}
    (ha : c.apply env a = some c') : Owned env c' := by
  have hv := (apply_onward h.wellMade.consistent ha).versions
  refine ⟨h.wellMade.apply ha, ?_⟩
  intro k cm hk
  suffices howned : OwnedIn c k.nameSpace cm.owner by
    obtain ⟨t, ht, hrest⟩ := howned
    exact ⟨t, hv ht, hrest⟩
  cases apply_step ha with
  | reconcile hserve hread hdel he =>
      have hmem := (h.wellMade.consistent.read_mem hserve hread).1
      rcases he.configMaps with hsame | hensured
      · exact h.configMap (hsame ▸ hk)
      · exact h.ensureConfigMap hmem (hensured ▸ hk)
  | collectConfigMap => exact h.configMap (stored_of_removed hk)
  | createTask | editSpec | editStatus | deleteTask | terminateTask
  | unserved | collectNetworkPolicy | collectPod | setPodStatus | deletePod
  | setClock => exact h.configMap hk

end Owned

/-- So whatever is created is owned, in every run. -/
theorem owned_of_reachable {guard : Cluster → Action → Prop}
    (h : Reachable env guard c) : Owned env c :=
  h.invariant (fun _ _ _ hinv _ ha => hinv.apply ha) owned_init

/-- The owner is a task that is stored and not marked for deletion. -/
def LivesBy (c : Cluster) (ns : String) (owner : Option OwnerReference) :
    Prop :=
  ∃ t, c.agentTasks ⟨ns, t.name⟩ = some t ∧ t.deletionTimestamp = none
    ∧ owner = some t.ownerReference

/-- What is owned and not to be collected has a live owner. -/
theorem livesBy_of_kept {ns : String} {owner : Option OwnerReference}
    (hcons : Consistent c) (howned : OwnedIn c ns owner)
    (hkept : c.ownerGone ns owner = false) : LivesBy c ns owner := by
  obtain ⟨v, hv, -, rfl⟩ := howned
  simp only [Cluster.ownerGone] at hkept
  split at hkept
  next => cases hkept
  next t ht =>
    rw [Bool.or_eq_false_iff] at hkept
    obtain ⟨huid, hdel⟩ := hkept
    have hsame : t.uid = v.uid := by
      rw [decide_eq_false_iff_not] at huid
      exact not_not.mp huid
    have hname : t.name = v.name :=
      congrArg NamespacedName.name (hcons.stored ht).2
    refine ⟨t, ?_, by simpa using hdel, ?_⟩
    · rw [hname]
      exact ht
    · simp [AgentTask.ownerReference, hname, hsame]

/-- The collector has nothing left to take. -/
def Collected (env : Env) (c : Cluster) : Prop :=
  ∀ k, c.apply env (.collectConfigMap k) = none
    ∧ c.apply env (.collectNetworkPolicy k) = none
    ∧ c.apply env (.collectPod k) = none

/-- Whatever happened: once the collector is done, every ConfigMap, every
policy and every pod belongs to a task that is stored and not going. -/
theorem collector_leaves_owned {guard : Cluster → Action → Prop}
    (h : Reachable env guard c) (hdone : Collected env c)
    (k : NamespacedName) :
    (∀ cm, c.configMaps k = some cm → LivesBy c k.nameSpace cm.owner)
      ∧ (∀ np, c.networkPolicies k = some np → LivesBy c k.nameSpace np.owner)
      ∧ ∀ p, c.pods k = some p → LivesBy c k.nameSpace p.owner := by
  have howned := owned_of_reachable h
  have hcons := howned.wellMade.consistent
  obtain ⟨hcm, hnp, hpod⟩ := hdone k
  refine ⟨?_, ?_, ?_⟩
  · intro cm hk
    apply livesBy_of_kept hcons (howned.configMap hk)
    simpa [Cluster.apply, hk] using hcm
  · intro np hk
    obtain ⟨t, ht, hkey, rfl⟩ := howned.wellMade.policy hk
    refine livesBy_of_kept hcons ⟨t, ht, ?_, rfl⟩ ?_
    · rw [hkey]
      rfl
    · simpa [Cluster.apply, hk] using hnp
  · intro p hk
    obtain ⟨-, hkey, t, ht, hmade⟩ := howned.wellMade.pod hk
    refine livesBy_of_kept hcons ⟨t, ht, ?_, hmade.owner⟩ ?_
    · rw [hkey]
      exact hmade.nameSpace.symm
    · simpa [Cluster.apply, hk] using hpod

/-- Where there is only one task, and it is live, the collector takes
nothing. -/
theorem collected_of_one (howned : Owned env c) {t : AgentTask}
    (ht : c.agentTasks t.key = some t) (hlive : t.deletionTimestamp = none)
    (hone : ∀ v ∈ c.versions, v.key = t.key ∧ v.uid = t.uid) :
    Collected env c := by
  have hkept : ∀ {ns owner}, OwnedIn c ns owner →
      c.ownerGone ns owner = false := by
    intro ns owner hv
    obtain ⟨v, hv, hns, rfl⟩ := hv
    obtain ⟨hkey, huid⟩ := hone v hv
    have hread : c.agentTasks ⟨ns, v.name⟩ = some t := by
      rw [← ht, ← hkey, ← hns]
      rfl
    simp [Cluster.ownerGone, AgentTask.ownerReference, hread, huid, hlive]
  intro k
  refine ⟨?_, ?_, ?_⟩
  · cases hk : c.configMaps k with
    | none => simp [Cluster.apply, hk]
    | some cm => simp [Cluster.apply, hk, hkept (howned.configMap hk)]
  · cases hk : c.networkPolicies k with
    | none => simp [Cluster.apply, hk]
    | some np =>
        obtain ⟨v, hv, hkey, hnp⟩ := howned.wellMade.policy hk
        have howner : OwnedIn c k.nameSpace np.owner :=
          ⟨v, hv, by rw [hkey]; rfl, by rw [hnp]; rfl⟩
        simp [Cluster.apply, hk, hkept howner]
  · cases hk : c.pods k with
    | none => simp [Cluster.apply, hk]
    | some p =>
        obtain ⟨-, hkey, v, hv, hmade⟩ := howned.wellMade.pod hk
        have howner : OwnedIn c k.nameSpace p.owner :=
          ⟨v, hv, by rw [hkey]; exact hmade.nameSpace.symm, hmade.owner⟩
        simp [Cluster.apply, hk, hkept howner]

/-- A pod is left with its task. -/
theorem collector_leaves_owned_demo :
    ∃ c p, Reachable Sample.demo anything c ∧ Collected Sample.demo c
      ∧ c.pods ⟨"default", "demo-pod-x7k2p"⟩ = some p
      ∧ LivesBy c "default" p.owner := by
  obtain ⟨c, hc, hf⟩ := reachable_of_run Sample.demo anything [
      .createTask Sample.key (Sample.spec "hi"),
      .reconcile Sample.key Sample.served,
      .reconcile Sample.key Sample.served]
    (fun c => ((c.agentTasks Sample.key).map fun t =>
        (t.uid, t.deletionTimestamp),
      c.versions.all fun v => decide (v.key = Sample.key ∧ v.uid = 1),
      (c.pods ⟨"default", "demo-pod-x7k2p"⟩).isSome))
    (some (1, none), true, true) (by decide +kernel) (by decide +kernel)
  simp only [Prod.mk.injEq, Option.map_eq_some_iff] at hf
  obtain ⟨⟨t, ht, huid, hlive⟩, hall, hpod⟩ := hf
  have howned := owned_of_reachable hc
  have hkey := (howned.wellMade.consistent.stored ht).2
  have hdone : Collected Sample.demo c := by
    apply collected_of_one howned (by rwa [hkey]) hlive
    intro v hv
    have hv' := List.all_eq_true.mp hall v hv
    rw [decide_eq_true_eq] at hv'
    rwa [hkey, huid]
  obtain ⟨p, hp⟩ := Option.isSome_iff_exists.mp hpod
  exact ⟨c, p, hc, hdone, hp, (collector_leaves_owned hc hdone _).2.2 p hp⟩

-- ============================================================ who is live

/-- A Reconcile stores at most one new status, over the version it has
read. -/
theorem Effect.agentTasks (hcons : Consistent c) {t : AgentTask}
    (ht : t ∈ c.versions) (he : Effect env fates t c c') :
    c'.agentTasks = c.agentTasks
      ∨ ∃ status version, c.agentTasks t.key = some t
        ∧ c'.agentTasks = Function.update c.agentTasks t.key
          (some { t with status, resourceVersion := version }) := by
  -- a status write over a cluster with the same AgentTasks
  have hwrite : ∀ (d : Cluster) s, d.agentTasks = c.agentTasks →
      d.versions = c.versions → d.resourceVersion = c.resourceVersion →
      d.uid = c.uid → c' = (d.storeStatus t s).2 →
      c'.agentTasks = c.agentTasks
        ∨ ∃ status version, c.agentTasks t.key = some t
          ∧ c'.agentTasks = Function.update c.agentTasks t.key
            (some { t with status, resourceVersion := version }) := by
    intro d s hat hv hrv hu hc'
    have hconsd : Consistent d := hcons.congr hat hv hrv hu
    rcases hconsd.storeStatus_read (hv ▸ ht) s with hsame | ⟨hcur, -, hst⟩
    · rw [hc', hsame]
      exact Or.inl hat
    · right
      refine ⟨s.stored, d.resourceVersion + 1, hat ▸ hcur, ?_⟩
      rw [hc', hst, ← hat]
      rfl
  cases he with
  | idle | observed => exact Or.inl rfl
  | initStatus | invalidState | podNotFound =>
      exact hwrite c _ rfl rfl rfl rfl rfl
  | synced pod => exact hwrite (c.observe pod) _ rfl rfl rfl rfl rfl
  | prepared hun c₁ c₂ hc₁ hc₂ =>
      obtain ⟨f, g, rfl⟩ := prepared_frame hc₁ hc₂
      exact Or.inl rfl
  | podCreated hun c₁ hprep =>
      obtain ⟨f, g, rfl⟩ := hprep.frame
      exact Or.inl rfl
  | podRecorded hun c₁ hprep =>
      obtain ⟨f, g, rfl⟩ := hprep.frame
      exact hwrite
        (Cluster.addPod { c with configMaps := f, networkPolicies := g } t _)
        _ rfl rfl rfl rfl rfl

/-- No action revives an owner. -/
theorem live_of_apply (hcons : Consistent c) {a : Action}
    (ha : c.apply env a = some c') {ns : String} {o : OwnerReference}
    (hu : o.uid ≤ c.uid) (h : Live c' ns o) : Live c ns o := by
  cases apply_step ha with
  | createTask =>
      obtain ⟨s, hs, hsu, hsd⟩ := h
      rcases stored_cases hs with ⟨-, rfl⟩ | hs
      · have hnew : c.uid + 1 = o.uid := hsu
        omega
      · exact ⟨s, hs, hsu, hsd⟩
  | editSpec ht | editStatus ht =>
      refine live_of_storeAgentTask hcons ht ?_ ?_ ?_ h
      · rfl
      · rfl
      · exact id
  | deleteTask =>
      obtain ⟨s, hs, hrest⟩ := h
      exact ⟨s, stored_of_removed hs, hrest⟩
  | terminateTask ht =>
      exact live_of_storeAgentTask hcons ht (by rfl) (by rfl)
        (fun hd => by cases hd) h
  | unserved => exact h
  | @reconcile key fates t c' hserve hread hdel he =>
      have hmem := (hcons.read_mem hserve hread).1
      obtain ⟨s, hs, hsu, hsd⟩ := h
      rcases he.agentTasks hcons hmem with hsame | ⟨status, v, hcur, hnew⟩
      · exact ⟨s, hsame ▸ hs, hsu, hsd⟩
      · rw [hnew] at hs
        rcases stored_cases hs with ⟨hkey, rfl⟩ | hs
        · exact ⟨t, hkey ▸ hcur, hsu, hsd⟩
        · exact ⟨s, hs, hsu, hsd⟩
  | collectConfigMap | collectNetworkPolicy | collectPod
  | setPodStatus | deletePod | setClock =>
      obtain ⟨s, hs, hrest⟩ := h
      exact ⟨s, hs, hrest⟩

-- ==================================================== what a live pod mounts

/-- A Reconcile that makes a pod can marshal the spec that it has read, and
finds under the name of the ConfigMap none, or one that its own UID owns. -/
def FindsOwnConfigMap (env : Env) (c : Cluster) : Action → Prop
  | .reconcile key fates =>
      fates.getConfigMap.uncached = true ∧
        ∀ t ∈ (fates.getAgentTask.read (c.agentTasks key)).toOption,
          Unstarted t → t.deletionTimestamp = none →
            podIsMade env fates t c = true →
              (env.yamlMarshal t.spec).isSome = true ∧
                ∀ cm ∈ c.configMaps (mountKey env t),
                  cm.owner = some t.ownerReference
  | _ => True

instance (c : Cluster) (a : Action) :
    Decidable (FindsOwnConfigMap env c a) :=
  match a with
  | .reconcile _ _ =>
      (inferInstance :
        Decidable (_ ∧ ∀ t ∈ _, _ → _ → _ → _ ∧ ∀ cm ∈ _, _))
  | .createTask _ _ | .editSpec _ _ | .editStatus _ _ | .deleteTask _
  | .terminateTask _ | .collectConfigMap _ | .collectNetworkPolicy _
  | .collectPod _ | .setPodStatus _ _ | .deletePod _ | .setClock _ =>
      isTrue trivial

/-- The ConfigMap step of a task that finds its own ConfigMap or none
leaves its own stored. -/
theorem ensureConfigMap_own {t : AgentTask}
    (hread : fates.getConfigMap.uncached = true)
    (hyaml : (env.yamlMarshal t.spec).isSome = true)
    (hown : ∀ cm, c.configMaps (mountKey env t) = some cm →
      cm.owner = some t.ownerReference)
    (h : ensureConfigMapForPod env fates t c = (.ok (), c')) :
    ∃ cm, c'.configMaps (mountKey env t) = some cm
      ∧ cm.owner = some t.ownerReference := by
  simp only [ensureConfigMapForPod] at h
  split at h
  next cm hcm =>
    cases h
    have hstored := ReadFate.read_ok hread hcm
    exact ⟨cm, hstored, hown cm hstored⟩
  next err herr =>
    split at h
    next =>
      obtain ⟨b, hb⟩ := Option.isSome_iff_exists.mp hyaml
      simp only [buildConfigMapForAgentTask, hb] at h
      obtain ⟨-, hcreate⟩ := CallFate.send_ok h
      simp only [Cluster.createConfigMap] at hcreate
      split at hcreate
      next => cases hcreate
      next =>
        cases hcreate
        exact ⟨_, Function.update_self .., rfl⟩
    next => cases h

/-- Every pod that was made for a live owner mounts what it mounted then. -/
structure Provided (env : Env) (c : Cluster) : Prop where
  wellMade : WellMade env c
  mounted : ∀ {r}, r ∈ c.created →
    Live c r.agentTask.nameSpace r.agentTask.ownerReference →
      ∃ cm, r.mounted = some cm
        ∧ c.configMaps (mountKey env r.agentTask) = some cm
        ∧ cm.owner = some r.agentTask.ownerReference

theorem provided_init : Provided env Cluster.init := by
  refine ⟨wellMade_init, ?_⟩
  intro r hr
  cases hr

/-- What a pod's task volume names is what its task's ConfigMap is called. -/
theorem mountedConfigMap_made {t : AgentTask} {p : Pod}
    (hmade : Made env t p) (c : Cluster) :
    c.mountedConfigMap p = c.configMaps (mountKey env t) := by
  simp only [Cluster.mountedConfigMap,
    getConfigMapFromPod_build t p hmade.spec, hmade.nameSpace]
  rfl

/-- What Reconcile does takes no ConfigMap away and changes none. -/
theorem configMapsGrow_effect {t : AgentTask} (he : Effect env fates t c c') :
    ConfigMapsGrow c c' := by
  intro k cm hk
  rcases he.configMaps with hsame | hensured
  · rw [hsame]
    exact hk
  · rw [hensured]
    exact grow_ensureConfigMap t c k cm hk

/-- A pod Reconcile has created was there before, or mounts the ConfigMap
that has just been ensured, which is its task's own. -/
theorem mounts_effect {t : AgentTask}
    (hread : fates.getConfigMap.uncached = true)
    (hown : Unstarted t → podIsMade env fates t c = true →
      (env.yamlMarshal t.spec).isSome = true ∧
        ∀ cm ∈ c.configMaps (mountKey env t),
          cm.owner = some t.ownerReference)
    (he : Effect env fates t c c') {r : PodCreation} (hr : r ∈ c'.created) :
    r ∈ c.created ∨ ∃ cm, r.mounted = some cm
      ∧ c'.configMaps (mountKey env r.agentTask) = some cm
      ∧ cm.owner = some r.agentTask.ownerReference := by
  rcases he.created with hsame | ⟨c₁, hprep, hun, hmade, hkept, hnew⟩
  · exact Or.inl (hsame ▸ hr)
  · rw [hnew] at hr
    rcases List.mem_cons.mp hr with rfl | hr
    · obtain ⟨hyaml, hown⟩ := hown hun hmade
      have hconfigMaps := hprep.configMaps
      obtain ⟨c₀, h₀, h₁⟩ := hprep
      obtain ⟨cm, hcm, howner⟩ :=
        ensureConfigMap_own hread hyaml (fun cm hcm => hown cm hcm) h₀
      rw [h₀] at hconfigMaps
      have hcm₁ : c₁.configMaps (mountKey env t) = some cm := by
        rw [hconfigMaps]
        exact hcm
      refine Or.inr ⟨cm, ?_, ?_, howner⟩
      · show c₁.mountedConfigMap (madePod env fates t) = some cm
        rw [mountedConfigMap_made (made_madePod t), hcm₁]
      · rw [hkept]
        exact hcm₁
    · exact Or.inl hr

/-- Every action that meets the guard keeps the invariant. -/
theorem Provided.apply (h : Provided env c) {a : Action}
    (hg : FindsOwnConfigMap env c a) (ha : c.apply env a = some c') :
    Provided env c' := by
  have hcons := h.wellMade.consistent
  refine ⟨h.wellMade.apply ha, ?_⟩
  intro r hr hlive
  -- a pod that was there before, under ConfigMaps that are still there
  have hold : r ∈ c.created →
      (∀ cm, c.configMaps (mountKey env r.agentTask) = some cm →
        cm.owner = some r.agentTask.ownerReference →
        c'.configMaps (mountKey env r.agentTask) = some cm) →
      ∃ cm, r.mounted = some cm
        ∧ c'.configMaps (mountKey env r.agentTask) = some cm
        ∧ cm.owner = some r.agentTask.ownerReference := by
    intro hmem hkept
    have hknown := hcons.uid_le (h.wellMade.created hmem).2.1
    obtain ⟨cm, hmount, hcm, howner⟩ :=
      h.mounted hmem (live_of_apply hcons ha hknown hlive)
    exact ⟨cm, hmount, hkept cm hcm howner, howner⟩
  cases apply_step ha with
  | @reconcile key fates t c' hserve hread hdel he =>
      have hfinds := hg.2 t (by rw [hread]; rfl)
      rcases mounts_effect hg.1 (fun hun hmade => hfinds hun hdel hmade) he hr
        with hr | hmounts
      · exact hold hr fun cm hcm _ => configMapsGrow_effect he _ cm hcm
      · exact hmounts
  | @collectConfigMap key cm hcm hgone =>
      apply hold hr
      intro cm' hcm' howner
      show Function.update c.configMaps key none _ = some cm'
      rw [Function.update_apply]
      split
      next hkey =>
        -- the collected ConfigMap: its owner is gone, so not live
        have hknown := hcons.uid_le (h.wellMade.created hr).2.1
        have hlive' := live_of_apply hcons ha hknown hlive
        rw [hkey, hcm] at hcm'
        cases hcm'
        have hns : key.nameSpace = r.agentTask.nameSpace := by
          rw [← hkey]
          rfl
        rw [howner, hns, ownerGone_of_live hlive'] at hgone
        cases hgone
      next => exact hcm'
  | createTask | editSpec | editStatus | deleteTask | terminateTask
  | unserved | collectNetworkPolicy | collectPod | setPodStatus | deletePod
  | setClock => exact hold hr (fun cm hcm _ => hcm)

/-- What a pod mounts as long as its owner is live: what it mounted when it
was made, which holds the text of a version of a task, of the digest of the
spec that was read. -/
theorem Provided.text (h : Provided env c) {r : PodCreation}
    (hr : r ∈ c.created)
    (hlive : Live c r.agentTask.nameSpace r.agentTask.ownerReference) :
    ∃ cm text, r.mounted = some cm
      ∧ c.configMaps (mountKey env r.agentTask) = some cm
      ∧ cm.owner = some r.agentTask.ownerReference
      ∧ text ∈ specTexts env c ∧ cm.data = [("task.yaml", text)]
      ∧ ∀ read, env.yamlMarshal r.agentTask.spec = some read →
        Sha256.sum256 text = Sha256.sum256 read := by
  obtain ⟨cm, hmount, hcm, howner⟩ := h.mounted hr hlive
  obtain ⟨v, hv, text, htext, hkey, -, hdata⟩ := h.wellMade.configMap hcm
  refine ⟨cm, text, hmount, hcm, howner, ⟨v, hv, htext⟩, hdata, ?_⟩
  intro read hread
  have hnames := congrArg NamespacedName.name hkey
  simp only [mountKey, configMapKey, buildConfigMapName_eq hread] at hnames
  exact (configMapName_injective hnames).2.symm

/-- So a pod's ConfigMap is there in every run whose Reconciles find the
task's own. -/
theorem provided_of_reachable (h : Reachable env (FindsOwnConfigMap env) c) :
    Provided env c :=
  h.invariant (fun _ _ _ hinv hg ha => hinv.apply hg ha) provided_init

/-- In every run in which Reconcile finds its own ConfigMap or none, with
tasks deleted and created again, and whatever the collector has taken: as
long as its task is there, a pod mounts the ConfigMap that it mounted when
it was created, which belongs to that task and holds a text of the digest
of the spec that was read. -/
theorem mounted_config_kept
    (h : Reachable env (FindsOwnConfigMap env) c) {r : PodCreation}
    (hr : r ∈ c.created) {t : AgentTask}
    (ht : c.agentTasks r.agentTask.key = some t)
    (huid : t.uid = r.agentTask.uid) (hlive : t.deletionTimestamp = none) :
    ∃ cm text, r.mounted = some cm ∧ c.mountedConfigMap r.pod = some cm
      ∧ cm.owner = some t.ownerReference
      ∧ cm.data = [("task.yaml", text)]
      ∧ ∀ read, env.yamlMarshal r.agentTask.spec = some read →
        Sha256.sum256 text = Sha256.sum256 read := by
  have hprovided := provided_of_reachable h
  obtain ⟨-, -, hmade⟩ := hprovided.wellMade.created hr
  obtain ⟨cm, text, hmount, hcm, howner, -, hdata, hdigest⟩ :=
    hprovided.text hr ⟨t, ht, huid, hlive⟩
  have hname : t.name = r.agentTask.name :=
    congrArg NamespacedName.name
      (hprovided.wellMade.consistent.stored ht).2
  refine ⟨cm, text, hmount, ?_, ?_, hdata, hdigest⟩
  · rw [mountedConfigMap_made hmade, hcm]
  · rw [howner, AgentTask.ownerReference, AgentTask.ownerReference, hname,
      huid]

namespace Sample

/-- The ConfigMap of the sample task. -/
def configMapName : NamespacedName := mountKey demo (task .zero)

/-- A pod is made, its task deleted, what it owned collected, and the task
created again. -/
def recreated : List Action := [
  .createTask key (spec "hi"),
  .reconcile key served,
  .reconcile key { served with podSuffix := "q9d4z" },
  .deleteTask key,
  .collectConfigMap configMapName,
  .createTask key (spec "hi"),
  .reconcile key served,
  .reconcile key served]

/-- The UID and the mark of the stored task, next to the UID that the last
pod was made for. -/
def lastPod (c : Cluster) : Option (Nat × Option Nat × Nat) :=
  (c.created.head?).bind fun r =>
    (c.agentTasks r.agentTask.key).map fun t =>
      (t.uid, t.deletionTimestamp, r.agentTask.uid)

/-- The sample's check, said of the record of the last pod. -/
theorem lastPod_eq {c : Cluster} {uid : Nat}
    (h : lastPod c = some (uid, none, uid)) :
    ∃ r t, c.created.head? = some r
      ∧ c.agentTasks r.agentTask.key = some t
      ∧ t.uid = r.agentTask.uid ∧ t.deletionTimestamp = none := by
  obtain ⟨r, hr, ht⟩ := Option.bind_eq_some_iff.mp h
  obtain ⟨t, ht, hsame⟩ := Option.map_eq_some_iff.mp ht
  simp only [Prod.mk.injEq] at hsame
  exact ⟨r, t, hr, ht, hsame.1.trans hsame.2.2.symm, hsame.2.1⟩

end Sample

open Sample in
/-- The sample's pod, and the ConfigMap it mounts. -/
theorem mounted_config_kept_demo :
    ∃ c r cm, Reachable demo (FindsOwnConfigMap demo) c ∧ r ∈ c.created
      ∧ r.mounted = some cm ∧ c.mountedConfigMap r.pod = some cm := by
  obtain ⟨c, hc, hf⟩ := reachable_of_run demo (FindsOwnConfigMap demo)
    recreated lastPod (some (2, none, 2))
    (by decide +kernel) (by decide +kernel)
  obtain ⟨r, t, hhead, ht, huid, hlive⟩ := lastPod_eq hf
  have hr := List.mem_of_mem_head? hhead
  obtain ⟨cm, -, hmount, hkept, -⟩ :=
    mounted_config_kept hc hr ht huid hlive
  exact ⟨c, r, cm, hc, hr, hmount, hkept⟩

open Sample in
/-- A re-created task finds the ConfigMap of its predecessor under its own
name and mounts it; then the collector takes it. -/
theorem config_lost_after_recreation :
    ¬ ∀ c, Reachable demo DeletesAndCollects c → ∀ r ∈ c.created, ∀ t,
      c.agentTasks r.agentTask.key = some t → t.uid = r.agentTask.uid →
        t.deletionTimestamp = none → c.mountedConfigMap r.pod ≠ none := by
  intro hall
  obtain ⟨c, hc, hf⟩ := reachable_of_run demo DeletesAndCollects [
      .createTask key (spec "hi"),
      .reconcile key Sample.served,
      .reconcile key { Sample.served with podSuffix := "q9d4z" },
      .deleteTask key,
      .createTask key (spec "hi"),
      .reconcile key Sample.served,
      .reconcile key Sample.served,
      .collectConfigMap configMapName]
    (fun c => (lastPod c, (c.created.head?).bind fun r =>
      c.mountedConfigMap r.pod)) (some (2, none, 2), none)
    (by decide +kernel) (by decide +kernel)
  obtain ⟨hlast, hlost⟩ := Prod.mk.inj hf
  obtain ⟨r, t, hhead, ht, huid, hlive⟩ := lastPod_eq hlast
  rw [hhead] at hlost
  exact hall c hc r (List.mem_of_mem_head? hhead) t ht huid hlive hlost

end AgentAnvil.Operator
