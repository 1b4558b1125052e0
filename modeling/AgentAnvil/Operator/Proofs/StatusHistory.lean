/-
What becomes of one AgentTask's status between two states of a run.

`Carried P c c'` says that every task stored in `c'` whose UID had been
given out by `c` was stored in `c` under the same key and UID, and that `P`
relates its two statuses. It composes along a run when `P` does, and one
action carries any reflexive `P` except where a status is written:
`Carried.apply` reduces it to the effects of a Reconcile.

The API server keeps whole seconds only, so a stored status is what it
keeps of itself (`wholeSeconds_of_reachable`); a time that is written back
unchanged is therefore stored unchanged.
-/
import AgentAnvil.Operator.Proofs.Versions

namespace AgentAnvil.Operator

variable {env : Env} {fates : CallFates}

-- ========================================================= whole seconds

/-- Every version has whole seconds. -/
structure WholeSeconds (c : Cluster) : Prop where
  consistent : Consistent c
  stored : ∀ {t}, t ∈ c.versions → t.status.stored = t.status

theorem wholeSeconds_init : WholeSeconds Cluster.init := by
  constructor
  · exact consistent_init
  · intro t ht
    cases ht

/-- A stored status is stored as it is. -/
theorem AgentTaskStatus.stored_stored (s : AgentTaskStatus) :
    s.stored.stored = s.stored := by
  have htwice : ∀ o : Option Nat,
      (o.map storedTime).map storedTime = o.map storedTime := by
    intro o
    cases o with
    | none => rfl
    | some a => exact congrArg some (storedTime_storedTime a)
  rw [stored, stored_startedAt, stored_finishedAt, htwice, htwice]
  rfl

/-- A time kept by `stored` is kept when it is written back. -/
theorem AgentTaskStatus.startedAt_of_stored {s : AgentTaskStatus}
    (h : s.stored = s) {a : Nat} (ha : s.startedAt = some a) :
    storedTime a = a := by
  have hs := congrArg AgentTaskStatus.startedAt h
  rw [stored_startedAt, ha] at hs
  exact Option.some.inj hs

/-- Its end is in whole seconds. -/
theorem AgentTaskStatus.finishedAt_of_stored {s : AgentTaskStatus}
    (h : s.stored = s) {a : Nat} (ha : s.finishedAt = some a) :
    storedTime a = a := by
  have hs := congrArg AgentTaskStatus.finishedAt h
  rw [stored_finishedAt, ha] at hs
  exact Option.some.inj hs

namespace WholeSeconds

variable {c c' : Cluster}

theorem congr (h : WholeSeconds c) (hat : c'.agentTasks = c.agentTasks)
    (hv : c'.versions = c.versions)
    (hrv : c'.resourceVersion = c.resourceVersion) (hu : c'.uid = c.uid) :
    WholeSeconds c' := by
  constructor
  · exact h.consistent.congr hat hv hrv hu
  · intro t
    rw [hv]
    exact h.stored

theorem storeAgentTask (h : WholeSeconds c) {t : AgentTask}
    (hcons : Consistent (c.storeAgentTask t))
    (ht : t.status.stored = t.status) :
    WholeSeconds (c.storeAgentTask t) := by
  constructor
  · exact hcons
  · intro v hv
    rcases List.mem_cons.mp hv with rfl | hv
    · exact ht
    · exact h.stored hv

/-- A status write stores whole seconds, whatever it is given. -/
theorem storeStatus (h : WholeSeconds c) {t : AgentTask}
    (ht : t ∈ c.versions) (s : AgentTaskStatus) :
    WholeSeconds (c.storeStatus t s).2 := by
  have hcons := h.consistent.storeStatus ht s
  rcases h.consistent.storeStatus_read ht s with hs | ⟨-, -, hs⟩
  · rw [hs]
    exact h
  · rw [hs] at hcons ⊢
    exact h.storeAgentTask hcons s.stored_stored

/-- Reconcile writes by `storeStatus` alone. -/
theorem effect (h : WholeSeconds c) {t : AgentTask} (ht : t ∈ c.versions)
    (he : Effect env fates t c c') : WholeSeconds c' := by
  cases he with
  | idle => exact h
  | initStatus => exact h.storeStatus ht _
  | prepared hun c₁ c₂ hc₁ hc₂ =>
      obtain ⟨f, g, rfl⟩ := prepared_frame hc₁ hc₂
      exact h.congr rfl rfl rfl rfl
  | podCreated hun c₁ hprep =>
      obtain ⟨f, g, rfl⟩ := hprep.frame
      exact h.congr rfl rfl rfl rfl
  | podRecorded hun c₁ hprep =>
      obtain ⟨f, g, rfl⟩ := hprep.frame
      refine WholeSeconds.storeStatus ?_ ?_ _
      · exact h.congr rfl rfl rfl rfl
      · exact ht
  | invalidState => exact h.storeStatus ht _
  | podNotFound => exact h.storeStatus ht _
  | observed pod => exact h.congr rfl rfl rfl rfl
  | synced pod =>
      have hobs : WholeSeconds (c.observe pod) := h.congr rfl rfl rfl rfl
      exact hobs.storeStatus ht _

/-- Whatever the action: the users' edits are cut to whole seconds, too. -/
theorem apply (h : WholeSeconds c) {a : Action}
    (ha : Cluster.apply env a c = some c') : WholeSeconds c' := by
  have hcons := h.consistent.apply ha
  cases apply_step ha with
  | createTask =>
      constructor
      · exact hcons
      · intro v hv
        rcases List.mem_cons.mp hv with rfl | hv
        · rfl
        · exact h.stored hv
  | editSpec ht =>
      have hwhole := h.stored (h.consistent.stored ht).1
      exact h.storeAgentTask hcons hwhole
  | @editStatus key status =>
      exact h.storeAgentTask hcons status.stored_stored
  | deleteTask => exact ⟨hcons, h.stored⟩
  | terminateTask ht =>
      have hwhole := h.stored (h.consistent.stored ht).1
      exact h.storeAgentTask hcons hwhole
  | unserved => exact h
  | reconcile hserve hread hdel he =>
      exact h.effect (h.consistent.read_mem hserve hread).1 he
  | collectConfigMap | collectNetworkPolicy | collectPod
  | setPodStatus | deletePod | setClock =>
      have hf := apply_sameTasks rfl ha
      exact h.congr hf.agentTasks hf.versions hf.resourceVersion hf.uid

end WholeSeconds

/-- So every stored time is in whole seconds, in every run. -/
theorem wholeSeconds_of_reachable {guard : Cluster → Action → Prop}
    {c : Cluster} (h : Reachable env guard c) : WholeSeconds c :=
  h.invariant (fun _ _ _ hinv _ ha => hinv.apply ha) wholeSeconds_init

-- ==================================================== between two states

/-- The tasks of `c'` that `c` knows were stored in `c`, and `P` relates
their statuses. -/
structure Carried (P : AgentTaskStatus → AgentTaskStatus → Prop)
    (c c' : Cluster) : Prop where
  uid_le : c.uid ≤ c'.uid
  related : ∀ {k t'}, c'.agentTasks k = some t' → t'.uid ≤ c.uid →
    ∃ t, c.agentTasks k = some t ∧ t.uid = t'.uid ∧ P t.status t'.status

namespace Carried

variable {P : AgentTaskStatus → AgentTaskStatus → Prop} {c c' c'' : Cluster}

theorem of_same (hrefl : ∀ s, P s s) (hat : c'.agentTasks = c.agentTasks)
    (hu : c'.uid = c.uid) : Carried P c c' := by
  constructor
  · exact Nat.le_of_eq hu.symm
  · intro k t' ht' _
    rw [hat] at ht'
    exact ⟨t', ht', rfl, hrefl _⟩

theorem trans (htrans : ∀ {s t u}, P s t → P t u → P s u)
    (h : Carried P c c') (h' : Carried P c' c'') : Carried P c c'' := by
  constructor
  · exact Nat.le_trans h.uid_le h'.uid_le
  · intro k t'' ht'' hu
    obtain ⟨t', ht', hu', hp'⟩ :=
      h'.related ht'' (Nat.le_trans hu h.uid_le)
    obtain ⟨t, ht, hut, hp⟩ := h.related ht' (hu' ▸ hu)
    exact ⟨t, ht, hut.trans hu', htrans hp hp'⟩

/-- A new version over a stored one carries `P` if the two are related. -/
theorem storeAgentTask (hrefl : ∀ s, P s s) (hcons : Consistent c)
    {k : NamespacedName} {cur t : AgentTask}
    (hcur : c.agentTasks k = some cur) (hu : t.uid = cur.uid)
    (hk : t.key = cur.key) (hp : P cur.status t.status) :
    Carried P c (c.storeAgentTask t) := by
  constructor
  · exact Nat.le_refl _
  · intro k' t' ht' _
    rcases stored_cases ht' with ⟨hkey, rfl⟩ | ht'
    · refine ⟨cur, ?_, hu.symm, hp⟩
      have hkey' : k' = t.key := hkey
      rw [hkey', hk, (hcons.stored hcur).2]
      exact hcur
    · exact ⟨t', ht', rfl, hrefl _⟩

/-- A status write carries `P` if what is stored is related to what was
read; it is made over `c₁`, which has the tasks of `c`. -/
theorem storeStatus (hrefl : ∀ s, P s s) (hcons : Consistent c)
    {c₁ : Cluster} (hat : c₁.agentTasks = c.agentTasks)
    (hv : c₁.versions = c.versions)
    (hrv : c₁.resourceVersion = c.resourceVersion) (hu : c₁.uid = c.uid)
    {t : AgentTask} (ht : t ∈ c.versions) {s : AgentTaskStatus}
    (hp : c.agentTasks t.key = some t → P t.status s.stored) :
    Carried P c (c₁.storeStatus t s).2 := by
  have hcons₁ : Consistent c₁ := hcons.congr hat hv hrv hu
  rcases hcons₁.storeStatus_read (hv ▸ ht) s with hs | ⟨hcur, -, hs⟩
  · rw [hs]
    exact of_same hrefl hat hu
  · rw [hs]
    have hstep : Carried P c₁
        (c₁.storeAgentTask { t with status := s.stored }) :=
      storeAgentTask hrefl hcons₁ hcur rfl rfl (hp (hat ▸ hcur))
    constructor
    · rw [← hu]
      exact hstep.uid_le
    · intro k t' ht' hle
      rw [← hat]
      exact hstep.related ht' (hu ▸ hle)

/-- Only status writes need an argument: an edit of the status by anyone
else is excluded, and a Reconcile is what its effect is. -/
theorem apply (hrefl : ∀ s, P s s) (hcons : Consistent c) {a : Action}
    (ha : Cluster.apply env a c = some c')
    (hedit : ∀ key status, a ≠ .editStatus key status)
    (hrec : ∀ key fates t, a = .reconcile key fates →
      fates.getAgentTask.read (c.agentTasks key) = .ok t →
      t ∈ c.versions → t.key = key → t.deletionTimestamp = none →
      Effect env fates t c c' → Carried P c c') : Carried P c c' := by
  cases apply_step ha with
  | createTask =>
      constructor
      · exact Nat.le_succ _
      · intro k t' ht' hle
        rcases stored_cases ht' with ⟨-, rfl⟩ | ht'
        · -- the new task has a UID that `c` does not know
          have hnew : c.uid + 1 ≤ c.uid := hle
          omega
        · exact ⟨t', ht', rfl, hrefl _⟩
  | editSpec ht => exact storeAgentTask hrefl hcons ht rfl rfl (hrefl _)
  | @editStatus key status => exact absurd rfl (hedit key status)
  | deleteTask =>
      constructor
      · exact Nat.le_refl _
      · intro k t' ht' _
        exact ⟨t', stored_of_removed ht', rfl, hrefl _⟩
  | terminateTask ht =>
      exact storeAgentTask hrefl hcons ht rfl rfl (hrefl _)
  | unserved => exact of_same hrefl rfl rfl
  | @reconcile key fates t c' hserve hread hdel he =>
      obtain ⟨hmem, hkey⟩ := hcons.read_mem hserve hread
      exact hrec key fates t rfl hread hmem hkey hdel he
  | collectConfigMap | collectNetworkPolicy | collectPod
  | setPodStatus | deletePod | setClock =>
      have hf := apply_sameTasks rfl ha
      exact of_same hrefl hf.agentTasks hf.uid

/-- What it says about one task stored in both states. -/
theorem status (h : Carried P c c') (hcons : Consistent c)
    {k : NamespacedName} {t t' : AgentTask} (ht : c.agentTasks k = some t)
    (ht' : c'.agentTasks k = some t') (hu : t'.uid = t.uid) :
    P t.status t'.status := by
  have hle : t'.uid ≤ c.uid := hu ▸ hcons.uid_le (hcons.stored ht).1
  obtain ⟨t₀, ht₀, -, hp⟩ := h.related ht' hle
  rw [ht] at ht₀
  cases ht₀
  exact hp

end Carried

end AgentAnvil.Operator
