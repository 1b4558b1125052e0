/-
The API server's own bookkeeping, and what optimistic concurrency gives.

`Consistent` collects what holds of the stored versions whatever anyone
does: a stored task is one of the versions under its own key, a
resourceVersion is given out once, and a UID belongs to one key. Every
action keeps it (`Consistent.apply`), under no assumption on fates or
caches.

What the controller's proofs draw from it is `storeStatus_read`: a status
write made from a version that was read, however old, either changes
nothing or finds exactly that version stored. Optimistic concurrency turns
every write that takes effect into one made from a fresh read.

`Onward` relates the two ends of an action: the history only grows, and no
version is stored a second time.
-/
import AgentAnvil.Operator.System

namespace AgentAnvil.Operator

variable {env : Env} {fates : CallFates}

-- ======================================================= the invariant

structure Consistent (c : Cluster) : Prop where
  stored : ∀ {k t}, c.agentTasks k = some t → t ∈ c.versions ∧ t.key = k
  version_le : ∀ {v}, v ∈ c.versions →
    v.resourceVersion ≤ c.resourceVersion
  version_inj : ∀ {v w}, v ∈ c.versions → w ∈ c.versions →
    v.resourceVersion = w.resourceVersion → v = w
  uid_le : ∀ {v}, v ∈ c.versions → v.uid ≤ c.uid
  uid_key : ∀ {v w}, v ∈ c.versions → w ∈ c.versions →
    v.uid = w.uid → v.key = w.key

theorem consistent_init : Consistent Cluster.init := by
  constructor
  · intro k t h
    cases h
  · intro v h
    cases h
  · intro v w h
    cases h
  · intro v h
    cases h
  · intro v w h
    cases h

namespace Consistent

variable {c c' : Cluster}

/-- The invariant reads four fields only. -/
theorem congr (h : Consistent c) (hat : c'.agentTasks = c.agentTasks)
    (hv : c'.versions = c.versions)
    (hrv : c'.resourceVersion = c.resourceVersion) (hu : c'.uid = c.uid) :
    Consistent c' := by
  constructor
  · intro k t
    rw [hat, hv]
    exact h.stored
  · intro v
    rw [hv, hrv]
    exact h.version_le
  · intro v w
    rw [hv]
    exact h.version_inj
  · intro v
    rw [hv, hu]
    exact h.uid_le
  · intro v w
    rw [hv]
    exact h.uid_key

/-- Storing a version under the key its UID already has, or under a UID
just given out, keeps the invariant. -/
theorem storeAgentTask (h : Consistent c) {t : AgentTask} (hu : t.uid ≤ c.uid)
    (hk : ∀ v ∈ c.versions, v.uid = t.uid → v.key = t.key) :
    Consistent (c.storeAgentTask t) := by
  constructor
  · intro k s hs
    rcases stored_cases hs with ⟨hkey, rfl⟩ | hs
    · exact ⟨List.mem_cons_self .., hkey.symm⟩
    · obtain ⟨hmem, hkey⟩ := h.stored hs
      exact ⟨List.mem_cons_of_mem _ hmem, hkey⟩
  · intro v hv
    rcases List.mem_cons.mp hv with rfl | hv
    · exact Nat.le_refl _
    · exact Nat.le_succ_of_le (h.version_le hv)
  · intro v w hv hw hvw
    rcases List.mem_cons.mp hv with rfl | hv
    · rcases List.mem_cons.mp hw with rfl | hw
      · rfl
      · have := h.version_le hw
        simp only at hvw
        omega
    · rcases List.mem_cons.mp hw with rfl | hw
      · have := h.version_le hv
        simp only at hvw
        omega
      · exact h.version_inj hv hw hvw
  · intro v hv
    rcases List.mem_cons.mp hv with rfl | hv
    · exact hu
    · exact h.uid_le hv
  · intro v w hv hw hvw
    rcases List.mem_cons.mp hv with rfl | hv
    · rcases List.mem_cons.mp hw with rfl | hw
      · rfl
      · exact (hk w hw hvw.symm).symm
    · rcases List.mem_cons.mp hw with rfl | hw
      · exact hk v hv hvw
      · exact h.uid_key hv hw hvw

/-- Overwriting a stored task with one of the same key and UID keeps the
invariant. -/
theorem replace (h : Consistent c) {k : NamespacedName} {cur t : AgentTask}
    (hcur : c.agentTasks k = some cur) (hu : t.uid = cur.uid)
    (hk : t.key = cur.key) : Consistent (c.storeAgentTask t) := by
  have hmem := (h.stored hcur).1
  refine h.storeAgentTask (hu ▸ h.uid_le hmem) fun v hv huv => ?_
  rw [hk]
  exact h.uid_key hv hmem (huv.trans hu)

-- ================================================== reads and writes

/-- What a Reconcile reads is a version that was stored under the key. -/
theorem read_mem (h : Consistent c) {req : NamespacedName} {t : AgentTask}
    (hserve : c.mayServe req fates.getAgentTask = true)
    (hread : fates.getAgentTask.read (c.agentTasks req) = .ok t) :
    t ∈ c.versions ∧ t.key = req := by
  cases hfate : fates.getAgentTask with
  | fresh =>
      rw [hfate] at hread
      simp only [ReadFate.read] at hread
      split at hread
      next s hs =>
        cases hread
        exact h.stored hs
      next => cases hread
  | failed =>
      rw [hfate] at hread
      cases hread
  | cached entry =>
      rw [hfate] at hread hserve
      cases entry with
      | none => cases hread
      | some s =>
          cases hread
          simpa [Cluster.mayServe] using hserve

/-- A status write from a version that was read changes nothing, or finds
that very version stored. -/
theorem storeStatus_read (h : Consistent c) {t : AgentTask}
    (ht : t ∈ c.versions) (s : AgentTaskStatus) :
    (c.storeStatus t s).2 = c
      ∨ c.agentTasks t.key = some t ∧ t.status ≠ s.stored
        ∧ (c.storeStatus t s).2
          = c.storeAgentTask { t with status := s.stored } := by
  simp only [Cluster.storeStatus]
  split
  next => exact .inl rfl
  next cur hcur =>
    split
    next => exact .inl rfl
    next hsame =>
      simp only [ne_eq, not_or, Decidable.not_not] at hsame
      have heq : cur = t := h.version_inj (h.stored hcur).1 ht hsame.2
      subst heq
      split
      next => exact .inl rfl
      next hne => exact .inr ⟨hcur, hne, rfl⟩

/-- A status write makes a new version of the task that is stored. -/
theorem storeStatus (h : Consistent c) {t : AgentTask} (ht : t ∈ c.versions)
    (s : AgentTaskStatus) : Consistent (c.storeStatus t s).2 := by
  rcases h.storeStatus_read ht s with hs | ⟨hcur, -, hs⟩
  · rw [hs]
    exact h
  · rw [hs]
    exact h.replace hcur rfl rfl

/-- Reconcile writes by `storeStatus` alone. -/
theorem effect (h : Consistent c) {t : AgentTask} (ht : t ∈ c.versions)
    (he : Effect env fates t c c') : Consistent c' := by
  cases he with
  | idle => exact h
  | initStatus => exact h.storeStatus ht _
  | prepared hun c₁ c₂ hc₁ hc₂ =>
      obtain ⟨f, g, rfl⟩ := prepared_frame hc₁ hc₂
      exact h.congr rfl rfl rfl rfl
  | podCreated hun c₁ hprep =>
      obtain ⟨f, g, rfl⟩ := hprep.frame
      exact h.congr rfl rfl rfl rfl
  | podRecorded hun c₁ hprep =>
      obtain ⟨f, g, rfl⟩ := hprep.frame
      refine Consistent.storeStatus ?_ ?_ _
      · exact h.congr rfl rfl rfl rfl
      · exact ht
  | invalidState => exact h.storeStatus ht _
  | podNotFound => exact h.storeStatus ht _
  | observed pod => exact h.congr rfl rfl rfl rfl
  | synced pod =>
      have hobs : Consistent (c.observe pod) := h.congr rfl rfl rfl rfl
      exact hobs.storeStatus ht _

-- ============================================================ every run

/-- Every action keeps the bookkeeping. -/
theorem apply (h : Consistent c) {a : Action}
    (ha : Cluster.apply env a c = some c') : Consistent c' := by
  cases apply_step ha with
  | createTask =>
      have hu : Consistent { c with uid := c.uid + 1 } := by
        constructor
        · exact h.stored
        · exact h.version_le
        · exact h.version_inj
        · intro v hv
          exact Nat.le_succ_of_le (h.uid_le hv)
        · exact h.uid_key
      refine hu.storeAgentTask (Nat.le_refl _) fun v hv huv => ?_
      have hle : v.uid ≤ c.uid := h.uid_le hv
      have hnew : v.uid = c.uid + 1 := huv
      omega
  | editSpec ht => exact h.replace ht rfl rfl
  | editStatus ht => exact h.replace ht rfl rfl
  | deleteTask ht =>
      constructor
      · intro k s hs
        exact h.stored (stored_of_removed hs)
      · exact h.version_le
      · exact h.version_inj
      · exact h.uid_le
      · exact h.uid_key
  | terminateTask ht => exact h.replace ht rfl rfl
  | unserved => exact h
  | reconcile hserve hread hdel he =>
      exact h.effect (h.read_mem hserve hread).1 he
  | collectConfigMap | collectNetworkPolicy | collectPod
  | setPodStatus | deletePod | setClock =>
      have hf := apply_sameTasks rfl ha
      exact h.congr hf.agentTasks hf.versions hf.resourceVersion hf.uid

end Consistent

-- ================================================== what does not come back

variable {c c' : Cluster}

/-- The history of `c` is kept, and a version that is not stored any more
is not stored again. -/
structure Onward (c c' : Cluster) : Prop where
  versions : c.versions ⊆ c'.versions
  created : c.created ⊆ c'.created
  old : ∀ {k t}, t ∈ c.versions → c'.agentTasks k = some t →
    c.agentTasks k = some t

theorem onward_of_same (hat : c'.agentTasks = c.agentTasks)
    (hv : c'.versions = c.versions) (hcreated : c.created ⊆ c'.created) :
    Onward c c' := by
  refine ⟨hv ▸ List.Subset.refl _, hcreated, ?_⟩
  intro k t _ ht
  rwa [hat] at ht

/-- A new version is none of the old ones. -/
theorem onward_storeAgentTask (hcons : Consistent c) (t : AgentTask) :
    Onward c (c.storeAgentTask t) := by
  refine ⟨List.subset_cons_self .., List.Subset.refl _, ?_⟩
  intro k u hu hk
  rcases stored_cases hk with ⟨-, hnew⟩ | hold
  · have hle := hcons.version_le hu
    have hrv := congrArg AgentTask.resourceVersion hnew
    simp only at hrv
    omega
  · exact hold

/-- A status write, over a cluster with the same AgentTasks. -/
theorem onward_storeStatus {d : Cluster} (hcons : Consistent c)
    (hat : d.agentTasks = c.agentTasks) (hv : d.versions = c.versions)
    (hrv : d.resourceVersion = c.resourceVersion) (hu : d.uid = c.uid)
    (hcreated : c.created ⊆ d.created) {t : AgentTask}
    (ht : t ∈ c.versions) (s : AgentTaskStatus) :
    Onward c (d.storeStatus t s).2 := by
  have hconsd : Consistent d := hcons.congr hat hv hrv hu
  have hsame : Onward c d := onward_of_same hat hv hcreated
  rcases hconsd.storeStatus_read (hv ▸ ht) s with hs | ⟨-, -, hs⟩
  · rw [hs]
    exact hsame
  · rw [hs]
    have hnew := onward_storeAgentTask hconsd { t with status := s.stored }
    refine ⟨List.Subset.trans hsame.versions hnew.versions,
      List.Subset.trans hsame.created hnew.created, ?_⟩
    intro k u hmem hk
    exact hsame.old hmem (hnew.old (hsame.versions hmem) hk)

/-- A Reconcile only goes on: versions and creations are added. -/
theorem onward_effect (hcons : Consistent c) {t : AgentTask}
    (ht : t ∈ c.versions) (he : Effect env fates t c c') : Onward c c' := by
  have hrefl := List.Subset.refl c.created
  cases he with
  | idle => exact onward_of_same rfl rfl hrefl
  | initStatus | invalidState | podNotFound =>
      exact onward_storeStatus hcons rfl rfl rfl rfl hrefl ht _
  | prepared hun c₁ c₂ hc₁ hc₂ =>
      obtain ⟨f, g, rfl⟩ := prepared_frame hc₁ hc₂
      exact onward_of_same rfl rfl hrefl
  | podCreated hun c₁ hprep =>
      obtain ⟨f, g, rfl⟩ := hprep.frame
      exact onward_of_same rfl rfl (List.subset_cons_self ..)
  | podRecorded hun c₁ hprep =>
      obtain ⟨f, g, rfl⟩ := hprep.frame
      exact onward_storeStatus
        (d := Cluster.addPod { c with configMaps := f, networkPolicies := g }
          t (madePod env fates t))
        hcons rfl rfl rfl rfl (List.subset_cons_self ..) ht _
  | observed pod => exact onward_of_same rfl rfl hrefl
  | synced pod =>
      exact onward_storeStatus (d := c.observe pod) hcons
        rfl rfl rfl rfl hrefl ht _

/-- Whatever happens leads onward. -/
theorem apply_onward (hcons : Consistent c) {a : Action}
    (ha : c.apply env a = some c') : Onward c c' := by
  have hrefl := List.Subset.refl c.created
  cases apply_step ha with
  | createTask =>
      refine ⟨List.subset_cons_self .., hrefl, ?_⟩
      intro k u hu hk
      rcases stored_cases hk with ⟨-, hnew⟩ | hold
      · have hle := hcons.uid_le hu
        have huid := congrArg AgentTask.uid hnew
        simp only at huid
        omega
      · exact hold
  | editSpec | editStatus | terminateTask =>
      exact onward_storeAgentTask hcons _
  | deleteTask =>
      refine ⟨List.Subset.refl _, hrefl, ?_⟩
      intro k u _ hk
      exact stored_of_removed hk
  | unserved => exact onward_of_same rfl rfl hrefl
  | reconcile hserve hread hdel he =>
      exact onward_effect hcons (hcons.read_mem hserve hread).1 he
  | collectConfigMap | collectNetworkPolicy | collectPod
  | setPodStatus | deletePod | setClock =>
      have hf := apply_sameTasks rfl ha
      exact onward_of_same hf.agentTasks hf.versions (hf.created ▸ hrefl)

end AgentAnvil.Operator
