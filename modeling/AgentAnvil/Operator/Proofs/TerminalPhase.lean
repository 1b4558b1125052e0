/-
Whether a terminal phase is final.

When the pod is not found, Reconcile leaves a terminal status alone. The
other branches do not look at the stored phase: a pod that is read as
Pending or Running takes a Completed, Failed or Evicted task back, and so
does a pod in another end state than the one recorded. A pod that is not
found yet and found later is enough (`failed_task_runs_again`).

`confirms` is the pod status each terminal phase stands for, and
`ConfirmsPhase` the condition on a run: a Reconcile whose status write can
take effect on a terminal task reads no pod, or one that confirms the
recorded phase. It is exact for one step (`finalStatus_reconcile`), and along
a run it makes terminal phases and their FinishedAt final.
-/
import AgentAnvil.Operator.Proofs.StatusHistory

namespace AgentAnvil.Operator

variable {env : Env} {fates : CallFates}

-- ============================================================ vocabulary

/-- The pod is in the end state that a terminal phase records; a pod in an
unexpected phase is recorded as Failed. -/
def confirms (pod : PodStatus) : PhaseType → Bool
  | .completed => decide (pod.phase = .succeeded)
  | .evicted =>
      decide (pod.phase = .failed) && decide (pod.reason = "Evicted")
  | .failed =>
      match pod.phase with
      | .failed => decide (pod.reason ≠ "Evicted")
      | .other _ => true
      | _ => false
  | _ => false

/-- A terminal status is kept: phase and FinishedAt are what they were. -/
def FinalStatus (s s' : AgentTaskStatus) : Prop :=
  s.phase.terminal = true → s'.phase = s.phase ∧ s'.finishedAt = s.finishedAt

/-- What a Reconcile of the terminal task `t` reads or finds keeps its
status: no pod, a pod whose ConfigMap cannot be read, or a pod that
confirms the phase, with FinishedAt set. Without a PodName the status is
overwritten by Failed at the current second. -/
def KeepsFinal (fates : CallFates) (t : AgentTask) (c : Cluster) : Prop :=
  if t.status.podName = "" then
    t.status.phase = .failed
      ∧ t.status.finishedAt = some (storedTime c.clock)
  else
    ∀ pod ∈ (fates.getPod.read
        (c.pods ⟨t.nameSpace, t.status.podName⟩)).toOption,
      configMapUnreadable pod = true
        ∨ confirms pod.status t.status.phase = true
          ∧ t.status.finishedAt.isSome = true

/-- A Reconcile that has read the stored version of a terminal task and
whose status write is not refused reads what keeps it. Nobody but the
controller writes statuses. -/
def ConfirmsPhase (c : Cluster) : Action → Prop
  | .reconcile key fates =>
      ∀ t ∈ (fates.getAgentTask.read (c.agentTasks key)).toOption,
        c.agentTasks key = some t → t.status.phase.terminal = true →
          t.deletionTimestamp = none → fates.updateStatus ≠ .failed →
            KeepsFinal fates t c
  | .editStatus _ _ => False
  | _ => True

instance (fates : CallFates) (t : AgentTask) (c : Cluster) :
    Decidable (KeepsFinal fates t c) :=
  inferInstanceAs (Decidable (ite _ (_ ∧ _) (∀ pod ∈ _, _ ∨ _ ∧ _)))

instance (c : Cluster) (a : Action) : Decidable (ConfirmsPhase c a) :=
  match a with
  | .reconcile _ _ => (inferInstance : Decidable (∀ t ∈ _, _ → _ → _ → _ → _))
  | .editStatus _ _ => isFalse id
  | .createTask _ _ | .editSpec _ _ | .deleteTask _ | .terminateTask _
  | .collectConfigMap _ | .collectNetworkPolicy _ | .collectPod _
  | .setPodStatus _ _ | .deletePod _ | .setClock _ => isTrue trivial

-- ========================================================= the pod switch

/-- A pod confirms a terminal phase just when the switch computes it. -/
theorem confirms_iff (pod : PodStatus) {phase : PhaseType}
    (hterm : phase.terminal = true) :
    confirms pod phase = true ↔ phaseOf pod = phase := by
  obtain ⟨pphase, reason⟩ := pod
  cases phase with
  | completed =>
      cases pphase with
      | failed =>
          simp only [confirms, phaseOf]
          split <;> simp
      | _ => simp [confirms, phaseOf]
  | evicted =>
      cases pphase with
      | failed =>
          simp only [confirms, phaseOf]
          split
          next h => simp [h]
          next h => simp [h]
      | _ => simp [confirms, phaseOf]
  | failed =>
      cases pphase with
      | failed =>
          simp only [confirms, phaseOf]
          split
          next h => simp [h]
          next h => simp [h]
      | _ => simp [confirms, phaseOf]
  | _ => cases hterm

/-- Writing back what the switch computes keeps a terminal status just
when the pod confirms it and FinishedAt is set. -/
theorem finalStatus_syncStatus {s : AgentTaskStatus} (hs : s.stored = s)
    (pod : PodStatus) (now : Nat) (hterm : s.phase.terminal = true) :
    FinalStatus s (syncStatus s pod now).1.stored
      ↔ confirms pod s.phase = true ∧ s.finishedAt.isSome = true := by
  rw [confirms_iff pod hterm]
  simp only [FinalStatus, AgentTaskStatus.stored_phase, syncStatus_phase,
    AgentTaskStatus.stored_finishedAt, syncStatus_finishedAt]
  constructor
  · intro h
    obtain ⟨hphase, hfin⟩ := h hterm
    refine ⟨hphase, ?_⟩
    rw [hphase, if_pos hterm] at hfin
    rw [← hfin]
    rfl
  · rintro ⟨hphase, hsome⟩ -
    refine ⟨hphase, ?_⟩
    obtain ⟨f, hf⟩ := Option.isSome_iff_exists.mp hsome
    rw [hphase, if_pos hterm, hf]
    exact congrArg some (s.finishedAt_of_stored hs hf)

-- ============================================================= one effect

theorem finalStatus_refl (s : AgentTaskStatus) : FinalStatus s s :=
  fun _ => ⟨rfl, rfl⟩

theorem finalStatus_trans {s t u : AgentTaskStatus} (h : FinalStatus s t)
    (h' : FinalStatus t u) : FinalStatus s u := by
  intro hterm
  obtain ⟨hphase, hfin⟩ := h hterm
  obtain ⟨hphase', hfin'⟩ := h' (hphase ▸ hterm)
  exact ⟨hphase'.trans hphase, hfin'.trans hfin⟩

/-- A Reconcile that meets the condition carries the final statuses. -/
theorem carried_finalStatus {c c' : Cluster} (h : WholeSeconds c)
    {t : AgentTask} (ht : t ∈ c.versions)
    (hguard : c.agentTasks t.key = some t → t.status.phase.terminal = true →
      fates.updateStatus ≠ .failed → KeepsFinal fates t c)
    (he : Effect env fates t c c') : Carried FinalStatus c c' := by
  have hcons := h.consistent
  cases he with
  | idle => exact .of_same finalStatus_refl rfl rfl
  | initStatus hphase =>
      refine .storeStatus finalStatus_refl hcons rfl rfl rfl rfl ht ?_
      intro _ hterm
      rw [hphase] at hterm
      cases hterm
  | prepared hun c₁ c₂ hc₁ hc₂ =>
      obtain ⟨f, g, rfl⟩ := prepared_frame hc₁ hc₂
      exact .of_same finalStatus_refl rfl rfl
  | podCreated hun c₁ hprep =>
      obtain ⟨f, g, rfl⟩ := hprep.frame
      exact .of_same finalStatus_refl rfl rfl
  | podRecorded hun c₁ hprep =>
      obtain ⟨f, g, rfl⟩ := hprep.frame
      refine .storeStatus finalStatus_refl hcons (by rfl) (by rfl) (by rfl)
        (by rfl) ht ?_
      intro _ hterm
      rw [hun.phase] at hterm
      cases hterm
  | invalidState hphase hpending hpod hwrite =>
      refine .storeStatus finalStatus_refl hcons rfl rfl rfl rfl ht ?_
      intro hcur hterm
      have hkeep := hguard hcur hterm hwrite
      unfold KeepsFinal at hkeep
      rw [if_pos hpod] at hkeep
      exact ⟨hkeep.1.symm, hkeep.2.symm⟩
  | podNotFound hphase hpod hread hnterm =>
      refine .storeStatus finalStatus_refl hcons rfl rfl rfl rfl ht ?_
      intro _ hterm
      rw [hnterm] at hterm
      cases hterm
  | observed pod => exact .of_same finalStatus_refl rfl rfl
  | synced pod hphase hpod hread hcm hwrite =>
      refine .storeStatus finalStatus_refl hcons (by rfl) (by rfl) (by rfl)
        (by rfl) ht ?_
      intro hcur hterm
      have hkeep := hguard hcur hterm hwrite
      unfold KeepsFinal at hkeep
      rw [if_neg hpod, hread] at hkeep
      have hconf := (hkeep pod rfl).resolve_left (by rw [hcm]; decide)
      exact (finalStatus_syncStatus (h.stored ht) pod.status c.clock hterm).mpr
        hconf hterm

-- ============================================== the condition is exact

/-- After a status write over the stored version, the stored status is
what was written. -/
theorem storeStatus_stored {c : Cluster} {t : AgentTask}
    (hcur : c.agentTasks t.key = some t) (s : AgentTaskStatus) :
    ∃ t', (c.storeStatus t s).2.agentTasks t.key = some t'
      ∧ t'.status = s.stored := by
  simp only [Cluster.storeStatus, hcur]
  rw [if_neg (by simp)]
  split
  next hsame => exact ⟨t, hcur, hsame⟩
  next => exact ⟨_, Function.update_self .., rfl⟩

/-- Following the pod of a terminal task keeps its status just when the
condition holds. -/
theorem finalStatus_followPod {c : Cluster} (h : WholeSeconds c)
    {t : AgentTask} (hcur : c.agentTasks t.key = some t)
    (hterm : t.status.phase.terminal = true) (hpod : t.status.podName ≠ "")
    (hwrite : fates.updateStatus ≠ .failed) :
    ∃ t', (followPod fates t c).2.agentTasks t.key = some t'
      ∧ (FinalStatus t.status t'.status ↔ KeepsFinal fates t c) := by
  simp only [KeepsFinal, if_neg hpod, followPod]
  cases hread : fates.getPod.read
      (c.pods ⟨t.nameSpace, t.status.podName⟩) with
  | error err =>
      simp only [hterm, if_true]
      split
      · exact ⟨t, hcur, iff_of_true (finalStatus_refl _) (by rintro _ ⟨⟩)⟩
      · exact ⟨t, hcur, iff_of_true (finalStatus_refl _) (by rintro _ ⟨⟩)⟩
  | ok pod =>
      simp only [Except.toOption, Option.mem_some_iff, forall_eq']
      have hstored := h.stored (h.consistent.stored hcur).1
      have hsync := finalStatus_syncStatus hstored pod.status c.clock hterm
      split
      next hcm => exact ⟨t, hcur, iff_of_true (finalStatus_refl _) (.inl hcm)⟩
      next hcm =>
        rw [or_iff_right hcm]
        split
        next =>
          have hobs : (c.observe pod).agentTasks t.key = some t := hcur
          obtain ⟨t', ht', hs'⟩ := storeStatus_stored hobs
            (syncStatus t.status pod.status c.clock).1
          refine ⟨t', ?_, ?_⟩
          · rcases updateStatus_snd fates (c.observe pod) t
                (syncStatus t.status pod.status c.clock).1 with
              ⟨hf, -⟩ | ⟨-, hw⟩
            · exact absurd hf hwrite
            · exact (congrArg (fun d => d.agentTasks t.key) hw).trans ht'
          · rw [hs', hsync]
        next hsame =>
          refine ⟨t, hcur, iff_of_true (finalStatus_refl _) ?_⟩
          have hkept : (syncStatus t.status pod.status c.clock).1 = t.status :=
            syncStatus_unchanged _ _ _ (eq_false_of_ne_true hsame)
          rw [← hsync, hkept, hstored]
          exact finalStatus_refl _

/-- One Reconcile that reads the stored version of a terminal task, and
whose status write is not refused, keeps the status just when the
condition holds. -/
theorem finalStatus_reconcile {c : Cluster} (h : WholeSeconds c)
    {key : NamespacedName} {t : AgentTask}
    (hcur : c.agentTasks key = some t)
    (hread : fates.getAgentTask.read (c.agentTasks key) = .ok t)
    (hdel : t.deletionTimestamp = none)
    (hterm : t.status.phase.terminal = true)
    (hwrite : fates.updateStatus ≠ .failed) :
    ∃ t', (reconcile env fates key c).2.agentTasks key = some t'
      ∧ (FinalStatus t.status t'.status ↔ KeepsFinal fates t c) := by
  have hkey := (h.consistent.stored hcur).2
  subst hkey
  have hempty : t.status.phase ≠ .empty := by
    intro he
    rw [he] at hterm
    cases hterm
  have hpending : t.status.phase ≠ .pending := by
    intro he
    rw [he] at hterm
    cases hterm
  simp only [reconcile, hread, hdel, Option.isSome_none]
  rw [if_neg (by decide), if_neg hempty]
  split
  next hpod =>
    obtain ⟨t', ht', hs'⟩ := storeStatus_stored hcur { t.status with
      phase := .failed
      reason := "Invalid state"
      finishedAt := some c.clock }
    refine ⟨t', ?_, ?_⟩
    · rcases updateStatus_snd fates c t { t.status with
          phase := .failed
          reason := "Invalid state"
          finishedAt := some c.clock } with ⟨hf, -⟩ | ⟨-, hw⟩
      · exact absurd hf hwrite
      · rw [hw]
        exact ht'
    · rw [hs', KeepsFinal, if_pos hpod]
      constructor
      · intro hfinal
        obtain ⟨hphase, hfin⟩ := hfinal hterm
        exact ⟨hphase.symm, hfin.symm⟩
      · rintro ⟨hphase, hfin⟩ -
        exact ⟨hphase.symm, hfin.symm⟩
  next hpod => exact finalStatus_followPod h hcur hterm hpod hwrite

-- ================================================================ the law

/-- From any state whatsoever, along any run whose Reconciles confirm the
terminal phases they find: a task stored with a terminal phase keeps that
phase and its FinishedAt. -/
theorem terminal_phase_final {guard : Cluster → Action → Prop}
    {c c' : Cluster} (hc : Reachable env guard c)
    (hrun : GuardedRun.Reaches (Cluster.apply env) ConfirmsPhase c c')
    {key : NamespacedName} {t t' : AgentTask}
    (ht : c.agentTasks key = some t) (ht' : c'.agentTasks key = some t')
    (hu : t'.uid = t.uid) (hterm : t.status.phase.terminal = true) :
    t'.status.phase = t.status.phase
      ∧ t'.status.finishedAt = t.status.finishedAt := by
  have hwhole := wholeSeconds_of_reachable hc
  have hcarried : Carried FinalStatus c c' := by
    refine hrun.relates (fun v a w hinv hg ha => ⟨hinv.apply ha, ?_⟩)
      (fun v => .of_same finalStatus_refl rfl rfl)
      (fun v w x h h' => h.trans finalStatus_trans h') hwhole
    refine Carried.apply finalStatus_refl hinv.consistent ha ?_ ?_
    · rintro k s rfl
      exact hg
    · rintro k fates u rfl hread hmem hkey hdel he
      have hg := hg u (by rw [hread]; rfl)
      refine carried_finalStatus hinv hmem (fun hcur hterm hwrite => ?_) he
      exact hg (hkey ▸ hcur) hterm hdel hwrite
  exact hcarried.status hwhole.consistent ht ht' hu hterm

namespace Sample

/-- Phase and UID of the demo task. -/
def phase (c : Cluster) : Option (PhaseType × Nat) :=
  (c.agentTasks key).map fun t => (t.status.phase, t.uid)

/-- The pod of the demo task is made and succeeds. -/
def succeeds : List Action := [
  .createTask key (spec "hi"),
  .reconcile key served,
  .reconcile key served,
  .setPodStatus ⟨"default", "demo-pod-x7k2p"⟩ ⟨.succeeded, ""⟩,
  .setClock 5000000000,
  .reconcile key served]

/-- Later the pod is seen again, deleted, and not found. -/
def isDeleted : List Action := [
  .setClock 9000000000,
  .reconcile key served,
  .deletePod ⟨"default", "demo-pod-x7k2p"⟩,
  .reconcile key served]

/-- The pod runs, and is seen to. -/
def podRuns : List Action := [
  .setPodStatus ⟨"default", "demo-pod-x7k2p"⟩ ⟨.running, ""⟩,
  .reconcile key served]

end Sample

/-- The sample's task completes, and stays completed. -/
theorem terminal_phase_final_demo :
    ∃ c c' t t', Reachable Sample.demo anything c
      ∧ GuardedRun.Reaches (Cluster.apply Sample.demo) ConfirmsPhase c c'
      ∧ c.agentTasks Sample.key = some t ∧ c'.agentTasks Sample.key = some t'
      ∧ t.status.phase = .completed ∧ t'.status.phase = t.status.phase
      ∧ t'.status.finishedAt = t.status.finishedAt := by
  obtain ⟨c, hc, hf⟩ := reachable_of_run Sample.demo anything Sample.succeeds
    (fun c => decide (
      Sample.phase c = some (.completed, 1)
        ∧ (GuardedRun.exec (Cluster.apply Sample.demo) Sample.isDeleted c).map
            Sample.phase = some (some (.completed, 1))
        ∧ GuardedRun.Meets (Cluster.apply Sample.demo) ConfirmsPhase
            Sample.isDeleted c))
    true (by decide +kernel) (by decide +kernel)
  obtain ⟨hphase, hlater, hmeets⟩ := of_decide_eq_true hf
  obtain ⟨c', hrun, hphase'⟩ :=
    GuardedRun.Reaches.of_exec_map hmeets hlater
  obtain ⟨t, ht, htp⟩ := Option.map_eq_some_iff.mp hphase
  obtain ⟨t', ht', htp'⟩ := Option.map_eq_some_iff.mp hphase'
  obtain ⟨hcompleted, huid⟩ := Prod.mk.inj htp
  obtain ⟨-, huid'⟩ := Prod.mk.inj htp'
  obtain ⟨hsame, hfin⟩ := terminal_phase_final hc hrun ht ht'
    (huid'.trans huid.symm) (by rw [hcompleted]; rfl)
  exact ⟨c, c', t, t', hc, hrun, ht, ht', hcompleted, hsame, hfin⟩

-- ===================================================== where it fails

/-- Users create tasks, the controller reconciles them and the kubelet
reports on their pods. -/
def ReconcilesPods (_ : Cluster) : Action → Prop
  | .createTask _ _ | .reconcile _ _ | .setPodStatus _ _ => True
  | _ => False

instance (c : Cluster) (a : Action) : Decidable (ReconcilesPods c a) :=
  match a with
  | .createTask _ _ | .reconcile _ _ | .setPodStatus _ _ => isTrue trivial
  | .editSpec _ _ | .editStatus _ _ | .deleteTask _ | .terminateTask _
  | .collectConfigMap _ | .collectNetworkPolicy _ | .collectPod _
  | .deletePod _ | .setClock _ => isFalse id

/-- The cache does not hold the new pod yet, so the task is recorded as
Failed; then the pod is found, and runs. -/
theorem failed_task_runs_again :
    ¬ ∀ c c', Reachable Sample.demo ReconcilesPods c →
      GuardedRun.Reaches (Cluster.apply Sample.demo) ReconcilesPods c c' →
      ∀ key t t', c.agentTasks key = some t → c'.agentTasks key = some t' →
        t'.uid = t.uid → t.status.phase.terminal = true →
        t'.status.phase = t.status.phase
          ∧ t'.status.finishedAt = t.status.finishedAt := by
  intro hall
  obtain ⟨c, hc, hf⟩ := reachable_of_run Sample.demo ReconcilesPods [
      .createTask Sample.key (Sample.spec "hi"),
      .reconcile Sample.key Sample.served,
      .reconcile Sample.key Sample.served,
      .reconcile Sample.key { Sample.served with getPod := .cached none }]
    (fun c => decide (
      Sample.phase c = some (.failed, 1)
        ∧ (GuardedRun.exec (Cluster.apply Sample.demo) Sample.podRuns c).map
            Sample.phase = some (some (.running, 1))
        ∧ GuardedRun.Meets (Cluster.apply Sample.demo) ReconcilesPods
            Sample.podRuns c))
    true (by decide +kernel) (by decide +kernel)
  obtain ⟨hphase, hlater, hmeets⟩ := of_decide_eq_true hf
  obtain ⟨c', hrun, hphase'⟩ :=
    GuardedRun.Reaches.of_exec_map hmeets hlater
  obtain ⟨t, ht, htp⟩ := Option.map_eq_some_iff.mp hphase
  obtain ⟨t', ht', htp'⟩ := Option.map_eq_some_iff.mp hphase'
  obtain ⟨hfailed, huid⟩ := Prod.mk.inj htp
  obtain ⟨hruns, huid'⟩ := Prod.mk.inj htp'
  have hfinal := hall c c' hc hrun _ t t' ht ht' (huid'.trans huid.symm)
    (by rw [hfailed]; rfl)
  rw [hfailed, hruns] at hfinal
  exact absurd hfinal.1 (by decide)

end AgentAnvil.Operator
