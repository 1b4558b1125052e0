/-
A pod runs the spec it was created from.

The ConfigMap step accepts any ConfigMap that already has the name it
looks for, without looking at the content. It may: the name carries the
digest of the marshalled spec, every ConfigMap in the cluster was created
under the digest of its own content (`WellMade.configMap`), and nobody
changes one. `KeepsTasks` leaves out what could take a ConfigMap away (a
task deletion and the collector), and a lagging cache that still holds one
that is gone; every call may fail.

`Filled` is the invariant: the ConfigMap of every pod that was created is
stored. Its content follows from the digest when SHA-256 has no collision
among the specs of the run (`specTexts`).
-/
import AgentAnvil.Operator.Proofs.WellMade

namespace AgentAnvil.Operator

variable {env : Env} {fates : CallFates}

-- ======================================================= the environment

/-- What the read finds is what is stored: a lagging cache may miss an
object, not make one up. -/
def ReadFate.onlyMisses {α : Type} : ReadFate α → Bool
  | .cached (some _) => false
  | _ => true

/-- No task is deleted, nothing is collected, and ConfigMap reads find
what is stored or nothing. -/
def KeepsTasks (_ : Cluster) : Action → Prop
  | .reconcile _ fates => fates.getConfigMap.onlyMisses = true
  | .deleteTask _ | .terminateTask _ | .collectConfigMap _ => False
  | _ => True

instance (c : Cluster) (a : Action) : Decidable (KeepsTasks c a) :=
  match a with
  | .reconcile _ _ => (inferInstance : Decidable (_ = _))
  | .deleteTask _ | .terminateTask _ | .collectConfigMap _ => isFalse id
  | .createTask _ _ | .editSpec _ _ | .editStatus _ _
  | .collectNetworkPolicy _ | .collectPod _ | .setPodStatus _ _
  | .deletePod _ | .setClock _ => isTrue trivial

/-- The marshalled specs of all versions of all tasks so far. -/
def specTexts (env : Env) (c : Cluster) : Set Bytes :=
  {b | ∃ t ∈ c.versions, env.yamlMarshal t.spec = some b}

/-- The name of the ConfigMap of a task, as the task was read. -/
def mountKey (env : Env) (t : AgentTask) : NamespacedName :=
  ⟨t.nameSpace, buildConfigMapName env t⟩

/-- ConfigMaps are added, and none is changed or removed. -/
def ConfigMapsGrow (c c' : Cluster) : Prop :=
  ∀ k cm, c.configMaps k = some cm → c'.configMaps k = some cm

theorem grow_refl (c : Cluster) : ConfigMapsGrow c c := fun _ _ hk => hk

theorem ConfigMapsGrow.trans {c c' c'' : Cluster} (h : ConfigMapsGrow c c')
    (h' : ConfigMapsGrow c' c'') : ConfigMapsGrow c c'' :=
  fun k cm hk => h' k cm (h k cm hk)

/-- A read that at worst misses returns what is stored. -/
theorem ReadFate.read_onlyMisses {α : Type} {fate : ReadFate α}
    {stored : Option α} {a : α} (hfate : fate.onlyMisses = true)
    (h : fate.read stored = .ok a) : stored = some a := by
  cases fate with
  | cached entry =>
      cases entry with
      | none => cases h
      | some b => cases hfate
  | fresh => exact read_ok rfl h
  | failed => cases h

-- ================================================= preparing a ConfigMap

/-- A ConfigMap is only ever added. -/
theorem grow_ensureConfigMap (t : AgentTask) (c : Cluster) :
    ConfigMapsGrow c (ensureConfigMapForPod env fates t c).2 := by
  intro k cm hk
  rcases ensureConfigMap_snd env fates t c with hs | ⟨cm', -, hfree, hs⟩
  · rw [hs]
    exact hk
  · rw [hs]
    exact stored_of_free hfree hk

theorem grow_prepared {t : AgentTask} {c c₁ c₂ : Cluster}
    (h₁ : c₁ = (ensureConfigMapForPod env fates t c).2)
    (h₂ : c₂ = c₁ ∨ c₂ = (ensureNetworkPolicyForPod fates t c₁).2) :
    ConfigMapsGrow c c₂ := by
  intro k cm hk
  have hk₁ : c₁.configMaps k = some cm := h₁ ▸ grow_ensureConfigMap t c k cm hk
  rcases h₂ with rfl | rfl
  · exact hk₁
  · obtain ⟨g, hg⟩ := ensureNetworkPolicy_frame fates t c₁
    rw [hg]
    exact hk₁

/-- When the ConfigMap step of an unstarted task returns without error,
the ConfigMap is stored. -/
theorem ensureConfigMap_ok {t : AgentTask} {c c' : Cluster}
    (hmiss : fates.getConfigMap.onlyMisses = true)
    (hyaml : ∃ b, env.yamlMarshal t.spec = some b)
    (h : ensureConfigMapForPod env fates t c = (.ok (), c')) :
    ∃ cm, c'.configMaps (mountKey env t) = some cm := by
  simp only [ensureConfigMapForPod] at h
  split at h
  next cm hcm =>
    cases h
    exact ⟨cm, ReadFate.read_onlyMisses hmiss hcm⟩
  next err herr =>
    split at h
    · simp only [buildConfigMapForAgentTask] at h
      obtain ⟨b, hb⟩ := hyaml
      rw [hb] at h
      obtain ⟨-, hcreate⟩ := CallFate.send_ok h
      simp only [Cluster.createConfigMap] at hcreate
      split at hcreate
      next => cases hcreate
      next =>
        cases hcreate
        exact ⟨_, Function.update_self ..⟩
    · cases h

-- ========================================================= the invariant

/-- Every pod ever created found its ConfigMap stored, and it still is. -/
structure Filled (env : Env) (c : Cluster) : Prop where
  wellMade : WellMade env c
  stored : ∀ {r}, r ∈ c.created → ∃ cm, r.mounted = some cm
    ∧ c.configMaps (mountKey env r.agentTask) = some cm

theorem filled_init : Filled env Cluster.init := by
  constructor
  · exact wellMade_init
  · intro r hr
    cases hr

/-- A status write leaves the ConfigMaps and the pods created alone. -/
theorem storeStatus_frame (c : Cluster) (t : AgentTask)
    (s : AgentTaskStatus) :
    (c.storeStatus t s).2.configMaps = c.configMaps
      ∧ (c.storeStatus t s).2.created = c.created := by
  simp only [Cluster.storeStatus]
  split
  · exact ⟨rfl, rfl⟩
  · split
    · exact ⟨rfl, rfl⟩
    · split
      · exact ⟨rfl, rfl⟩
      · exact ⟨rfl, rfl⟩

namespace Filled

variable {c c' : Cluster}

/-- Pods stay filled while ConfigMaps grow. -/
theorem grow (h : Filled env c) (hw : WellMade env c')
    (hcm : ConfigMapsGrow c c') (hcreated : c'.created = c.created) :
    Filled env c' := by
  constructor
  · exact hw
  · intro r hr
    rw [hcreated] at hr
    obtain ⟨cm, hmount, hcm'⟩ := h.stored hr
    exact ⟨cm, hmount, hcm _ cm hcm'⟩

/-- A pod made after its ConfigMap was ensured keeps the invariant. -/
theorem addPod (h : Filled env c) {t : AgentTask} {p : Pod}
    (hw : WellMade env (c.addPod t p)) (hmade : Made env t p)
    (hcm : ∃ cm, c.configMaps (mountKey env t) = some cm) :
    Filled env (c.addPod t p) := by
  constructor
  · exact hw
  · intro r hr
    rcases List.mem_cons.mp hr with rfl | hr
    · obtain ⟨cm, hcm⟩ := hcm
      refine ⟨cm, ?_, hcm⟩
      simp only [Cluster.mountedConfigMap,
        getConfigMapFromPod_build t p hmade.spec, hmade.nameSpace]
      exact hcm
    · exact h.stored hr

theorem storeStatus (h : Filled env c) {t : AgentTask}
    (ht : t ∈ c.versions) (s : AgentTaskStatus) :
    Filled env (c.storeStatus t s).2
      ∧ ConfigMapsGrow c (c.storeStatus t s).2 := by
  obtain ⟨hcm, hcreated⟩ := storeStatus_frame c t s
  have hgrow : ConfigMapsGrow c (c.storeStatus t s).2 := fun _ _ hk => hcm ▸ hk
  exact ⟨h.grow (h.wellMade.storeStatus ht s) hgrow hcreated, hgrow⟩

/-- Preparing a pod leaves its ConfigMap stored. -/
theorem prepared (h : Filled env c) {t : AgentTask} {c₁ : Cluster}
    (ht : t ∈ c.versions) (hmiss : fates.getConfigMap.onlyMisses = true)
    (hyaml : ∃ b, env.yamlMarshal t.spec = some b)
    (hprep : Prepared env fates t c c₁) :
    Filled env c₁ ∧ ConfigMapsGrow c c₁
      ∧ ∃ cm, c₁.configMaps (mountKey env t) = some cm := by
  have hw := h.wellMade.prepared ht hprep
  obtain ⟨c₀, h₀, h₁⟩ := hprep
  have hgrow : ConfigMapsGrow c c₁ :=
    grow_prepared rfl (.inr (by rw [h₀, h₁]))
  obtain ⟨cm, hcm⟩ := ensureConfigMap_ok hmiss hyaml h₀
  obtain ⟨g, hg⟩ := ensureNetworkPolicy_frame fates t c₀
  obtain ⟨f, hf⟩ := ensureConfigMap_frame env fates t c
  rw [h₀] at hf
  rw [h₁] at hg
  simp only at hf hg
  refine ⟨h.grow hw hgrow ?_, hgrow, cm, ?_⟩
  · rw [hg, hf]
  · rw [hg]
    exact hcm

/-- Reconcile, effect by effect: the ConfigMap is named by the hash of the
spec that was read, so one that is found already holds that spec. -/
theorem effect (h : Filled env c) {t : AgentTask} (ht : t ∈ c.versions)
    (hmiss : fates.getConfigMap.onlyMisses = true)
    (hyaml : ∃ b, env.yamlMarshal t.spec = some b)
    (he : Effect env fates t c c') :
    Filled env c' ∧ ConfigMapsGrow c c' := by
  have hw := h.wellMade.effect ht he
  cases he with
  | idle => exact ⟨h, grow_refl c⟩
  | initStatus => exact h.storeStatus ht _
  | prepared hun c₁ c₂ hc₁ hc₂ =>
      have hgrow := grow_prepared hc₁ hc₂
      obtain ⟨f, g, rfl⟩ := prepared_frame hc₁ hc₂
      exact ⟨h.grow hw hgrow rfl, hgrow⟩
  | podCreated hun c₁ hprep =>
      obtain ⟨hfilled, hgrow, hcm⟩ := h.prepared ht hmiss hyaml hprep
      exact ⟨hfilled.addPod hw (made_madePod t) hcm, hgrow⟩
  | podRecorded hun c₁ hprep =>
      obtain ⟨hfilled, hgrow, hcm⟩ := h.prepared ht hmiss hyaml hprep
      have hmade : Made env t (madePod env fates t) := made_madePod t
      obtain ⟨f, g, rfl⟩ := hprep.frame
      have hadd := hfilled.addPod (hfilled.wellMade.addPod ht hmade) hmade hcm
      obtain ⟨hstored, hgrow'⟩ := hadd.storeStatus ht _
      exact ⟨hstored, hgrow.trans hgrow'⟩
  | invalidState => exact h.storeStatus ht _
  | podNotFound => exact h.storeStatus ht _
  | observed pod => exact ⟨h.grow hw (grow_refl c) rfl, grow_refl c⟩
  | synced pod =>
      have hobs : Filled env (c.observe pod) :=
        h.grow (h.wellMade.observe pod) (grow_refl c) rfl
      exact hobs.storeStatus ht _

/-- Every action of the environment keeps the invariant, and every
ConfigMap. -/
theorem apply (hyaml : ∀ spec, ∃ b, env.yamlMarshal spec = some b)
    (h : Filled env c) {a : Action} (hg : KeepsTasks c a)
    (ha : Cluster.apply env a c = some c') :
    Filled env c' ∧ ConfigMapsGrow c c' := by
  have hw := h.wellMade.apply ha
  cases apply_step ha with
  | createTask | editSpec | editStatus | collectNetworkPolicy | collectPod
  | setPodStatus | deletePod | setClock =>
      exact ⟨h.grow hw (grow_refl c) rfl, grow_refl c⟩
  | deleteTask => cases hg
  | terminateTask => cases hg
  | unserved => exact ⟨h, grow_refl c⟩
  | @reconcile key fates t c' hserve hread hdel he =>
      have hmem := (h.wellMade.consistent.read_mem hserve hread).1
      exact h.effect hmem hg (hyaml t.spec) he
  | collectConfigMap => cases hg

end Filled

-- ================================================================ the law

/-- In every run without task deletions, the task volume of every pod that
Reconcile has created named a ConfigMap that was stored then, and whose
content is the spec as that Reconcile had read it. The ConfigMap stays as
it is, and the controller's own lookup on the pod never fails. -/
theorem pod_runs_read_spec {c : Cluster}
    (hyaml : ∀ spec, ∃ b, env.yamlMarshal spec = some b)
    (h : Reachable env KeepsTasks c)
    (hsha : Sha256.CollisionFree (specTexts env c)) {r : PodCreation}
    (hr : r ∈ c.created) :
    ∃ b proj cm, env.yamlMarshal r.agentTask.spec = some b
      ∧ getConfigMapFromPod r.pod "task" "task.yaml" "task.yaml" = some proj
      ∧ (∀ ct ∈ r.pod.spec.containers, taskMount ∈ ct.volumeMounts)
      ∧ r.mounted = some cm
      ∧ c.configMaps ⟨r.pod.nameSpace, proj.name⟩ = some cm
      ∧ cm.data = [("task.yaml", b)]
      ∧ (∀ c', GuardedRun.Reaches (Cluster.apply env) KeepsTasks c c' →
          c'.configMaps ⟨r.pod.nameSpace, proj.name⟩ = some cm)
      ∧ ∀ p : Pod, p.spec = r.pod.spec → configMapUnreadable p = false := by
  have hfilled : Filled env c :=
    h.invariant (fun _ _ _ hinv hg ha => (hinv.apply hyaml hg ha).1)
      filled_init
  obtain ⟨-, hread, hmade⟩ := hfilled.wellMade.created hr
  obtain ⟨b, hb⟩ := hyaml r.agentTask.spec
  obtain ⟨cm, hmount, hcm⟩ := hfilled.stored hr
  have hlookup : ∀ p : Pod, p.spec = r.pod.spec → _ := fun p hp =>
    getConfigMapFromPod_build r.agentTask p (hp.trans hmade.spec)
  unfold mountKey at hcm
  rw [← hmade.nameSpace] at hcm
  refine ⟨b, _, cm, hb, hlookup r.pod rfl, ?_, hmount, hcm, ?_, ?_, ?_⟩
  · rw [hmade.spec]
    simp [buildPodForAgentTask, agentContainer, proxyContainer]
  · obtain ⟨t, ht, b', hb', hkey, -, hdata⟩ := hfilled.wellMade.configMap hcm
    -- the name determines the digest, and the digest the content
    obtain ⟨-, hname⟩ := NamespacedName.mk.inj hkey
    rw [buildConfigMapName_eq hb] at hname
    obtain ⟨-, hdigest⟩ := configMapName_injective hname
    have hbb : b = b' :=
      hsha.eq ⟨r.agentTask, hread, hb⟩ ⟨t, ht, hb'⟩ hdigest
    rw [hdata, hbb]
  · intro c' hrun
    have hgrow : ConfigMapsGrow c c' :=
      hrun.relates (fun _ _ _ hinv hg ha => hinv.apply hyaml hg ha)
        grow_refl (fun _ _ _ hvw hwx => hvw.trans hwx) hfilled
    exact hgrow _ cm hcm
  · intro p hp
    unfold configMapUnreadable
    rw [hlookup p hp]
    simp

namespace Sample

def yamlBytes (prompt : String) : Bytes :=
  (taskYaml prompt).toByteArray.data.toList

/-- Pods are created for two revisions of the demo task; the first create
of a ConfigMap is lost, and the second Reconcile finds it. -/
def revisions : List Action := [
  .createTask key (spec "hi"),
  .reconcile key served,
  .reconcile key { served with createConfigMap := .lost },
  .reconcile key { served with updateStatus := .failed },
  .editSpec key (spec "ho"),
  .reconcile key { served with podSuffix := "q9d4z" }]

/-- The two revisions have different digests. -/
theorem collisionFree_revisions {c : Cluster}
    (h : ∀ t ∈ c.versions, t.spec = spec "hi" ∨ t.spec = spec "ho") :
    Sha256.CollisionFree (specTexts demo c) := by
  have htexts : ∀ b ∈ specTexts demo c,
      b = yamlBytes "hi" ∨ b = yamlBytes "ho" := by
    rintro b ⟨t, ht, hb⟩
    rcases h t ht with hs | hs
    · rw [hs] at hb
      exact .inl (Option.some.inj hb).symm
    · rw [hs] at hb
      exact .inr (Option.some.inj hb).symm
  intro b hb b' hb' hsum
  rcases htexts b hb with rfl | rfl
  · rcases htexts b' hb' with rfl | rfl
    · rfl
    · exact absurd hsum (by decide +kernel)
  · rcases htexts b' hb' with rfl | rfl
    · exact absurd hsum (by decide +kernel)
    · rfl

end Sample

/-- The sample's task is edited before its second pod. -/
theorem pod_runs_read_spec_demo :
    ∃ c r cm, Reachable Sample.demo KeepsTasks c ∧ r ∈ c.created
      ∧ r.pod.name = "demo-pod-q9d4z" ∧ r.mounted = some cm
      ∧ cm.data = [("task.yaml", Sample.yamlBytes "ho")] := by
  obtain ⟨c, hc, hf⟩ := reachable_of_run Sample.demo KeepsTasks
    Sample.revisions
    (fun c => decide (
      (∀ t ∈ c.versions, t.spec = Sample.spec "hi" ∨ t.spec = Sample.spec "ho")
        ∧ c.created.map (fun r => (r.agentTask.spec.prompt, r.pod.name))
          = [("ho", "demo-pod-q9d4z"), ("hi", "demo-pod-x7k2p")]))
    true (by decide +kernel) (by decide +kernel)
  obtain ⟨hspecs, hcreated⟩ := of_decide_eq_true hf
  obtain ⟨r, rest, hlist, hr, -⟩ := List.map_eq_cons_iff.mp hcreated
  obtain ⟨hprompt, hname⟩ := Prod.mk.inj hr
  have hmem : r ∈ c.created := hlist ▸ List.mem_cons_self ..
  obtain ⟨b, proj, cm, hb, -, -, hmount, -, hdata, -, -⟩ :=
    pod_runs_read_spec (fun _ => ⟨_, rfl⟩) hc
      (Sample.collisionFree_revisions hspecs) hmem
  have hbytes : b = Sample.yamlBytes "ho" := by
    rw [← Option.some.inj hb, hprompt]
    rfl
  exact ⟨c, r, cm, hc, hmem, hname, hmount, hbytes ▸ hdata⟩

end AgentAnvil.Operator
