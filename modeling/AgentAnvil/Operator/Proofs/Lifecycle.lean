/-
The lifecycle of an AgentTask's status.

`FollowsPods` is the environment: pods go from Pending over Running to an
end state and stay there or are deleted for good, pod reads are fresh, the
clock does not go back, and the controller alone writes statuses. API
calls may fail in every way and task reads may be stale.

The pod is always at least as far as the status that follows it
(`Sound.pod`): the status copies what a pod read shows, pods only advance
(`Later`), and a name that has been given out is not given out again, so
a pod that is not found does not come back. From this both the invariant
and the two-state law follow, each write of Reconcile at a time
(`Advances`): the branches that set FinishedAt without looking are never
taken by a status that has one.
-/
import AgentAnvil.Operator.Proofs.StatusHistory
import AgentAnvil.Operator.Proofs.WellMade

namespace AgentAnvil.Operator

variable {env : Env} {fates : CallFates}

-- ============================================================= the order

/-- The phases the controller writes. -/
def PhaseType.known : PhaseType → Bool
  | .checkpointing | .other _ => false
  | _ => true

/-- Empty, Pending, Provisioning, Running, and the terminal phases. The
phases the controller never writes come last. -/
def PhaseType.rank : PhaseType → Nat
  | .empty => 0
  | .pending => 1
  | .provisioning => 2
  | .running => 3
  | .completed | .failed | .evicted => 4
  | .checkpointing | .other _ => 5

/-- The phase does not go back, and a terminal one stays. -/
structure PhaseLe (p q : PhaseType) : Prop where
  rank : p.rank ≤ q.rank
  final : p.terminal = true → q = p

/-- What a status may become: times are kept once set. -/
structure StatusLe (s s' : AgentTaskStatus) : Prop where
  phase : PhaseLe s.phase s'.phase
  startedAt : ∀ {a}, s.startedAt = some a → s'.startedAt = some a
  finishedAt : ∀ {a}, s.finishedAt = some a → s'.finishedAt = some a

theorem phaseLe_refl (p : PhaseType) : PhaseLe p p :=
  ⟨Nat.le_refl _, fun _ => rfl⟩

theorem phaseLe_trans {p q r : PhaseType} (h : PhaseLe p q)
    (h' : PhaseLe q r) : PhaseLe p r := by
  constructor
  · exact Nat.le_trans h.rank h'.rank
  · intro hp
    have hq := h.final hp
    rw [h'.final (hq ▸ hp), hq]

theorem statusLe_refl (s : AgentTaskStatus) : StatusLe s s :=
  ⟨phaseLe_refl _, id, id⟩

theorem statusLe_trans {s t u : AgentTaskStatus} (h : StatusLe s t)
    (h' : StatusLe t u) : StatusLe s u :=
  ⟨phaseLe_trans h.phase h'.phase,
    fun ha => h'.startedAt (h.startedAt ha),
    fun ha => h'.finishedAt (h.finishedAt ha)⟩

-- ======================================================= the environment

/-- What a pod's status may become. A pod in an unexpected phase is not
one of this environment's. -/
def PodStatus.advances (p q : PodStatus) : Bool :=
  match p.phase, q.phase with
  | .pending, .other _ => false
  | .pending, _ => true
  | .running, .running | .running, .succeeded | .running, .failed => true
  | .succeeded, _ | .failed, _ => decide (q = p)
  | _, _ => false

/-- Pods advance, pod reads are fresh or fail, the clock does not go back,
and nobody but the controller writes statuses. -/
def FollowsPods (c : Cluster) : Action → Prop
  | .reconcile _ fates => fates.getPod.uncached = true
  | .setPodStatus key status =>
      ∀ p ∈ c.pods key, p.status.advances status = true
  | .setClock time => c.clock ≤ time
  | .editStatus _ _ => False
  | _ => True

instance (c : Cluster) (a : Action) : Decidable (FollowsPods c a) :=
  match a with
  | .setPodStatus _ _ => (inferInstance : Decidable (∀ p ∈ _, _ = true))
  | .reconcile _ _ => (inferInstance : Decidable (_ = true))
  | .setClock _ => (inferInstance : Decidable (_ ≤ _))
  | .editStatus _ _ => isFalse id
  | .createTask _ _ | .editSpec _ _ | .deleteTask _ | .terminateTask _
  | .collectConfigMap _ | .collectNetworkPolicy _ | .collectPod _
  | .deletePod _ => isTrue trivial

/-- What a pod's status stands for advances with it. -/
theorem phaseLe_of_advances {p q : PodStatus} (h : p.advances q = true) :
    PhaseLe (phaseOf p) (phaseOf q) := by
  obtain ⟨pphase, preason⟩ := p
  obtain ⟨qphase, qreason⟩ := q
  cases pphase with
  | pending =>
      constructor
      · cases qphase with
        | failed =>
            simp only [phaseOf]
            split <;> decide
        | _ => simp [phaseOf, PhaseType.rank]
      · intro hterm
        cases hterm
  | running =>
      constructor
      · cases qphase with
        | failed =>
            simp only [phaseOf]
            split <;> decide
        | pending => cases h
        | _ => simp [phaseOf, PhaseType.rank]
      · intro hterm
        cases hterm
  | succeeded =>
      rw [of_decide_eq_true h]
      exact phaseLe_refl _
  | failed =>
      rw [of_decide_eq_true h]
      exact phaseLe_refl _
  | other text =>
      cases qphase <;> cases h

/-- The cluster only moves on: time passes, names and observations stay,
and a pod under a name given out is the pod that was there, advanced. -/
structure Later (c c' : Cluster) : Prop where
  clock : c.clock ≤ c'.clock
  podNames : c.podNames ⊆ c'.podNames
  observed : c.observed ⊆ c'.observed
  pod : ∀ {k p'}, c'.pods k = some p' → k ∈ c.podNames →
    ∃ p, c.pods k = some p ∧ PhaseLe (phaseOf p.status) (phaseOf p'.status)

theorem Later.of_same {c c' : Cluster} (hclock : c'.clock = c.clock)
    (hnames : c'.podNames = c.podNames)
    (hobs : c.observed ⊆ c'.observed) (hpods : c'.pods = c.pods) :
    Later c c' := by
  constructor
  · exact Nat.le_of_eq hclock.symm
  · rw [hnames]
    exact List.Subset.refl _
  · exact hobs
  · intro k p' hp' _
    rw [hpods] at hp'
    exact ⟨p', hp', phaseLe_refl _⟩

/-- A pod with a name that was not given out leaves the others alone. -/
theorem later_addPod {c : Cluster} (t : AgentTask) {p : Pod}
    (hfree : p.key ∉ c.podNames) : Later c (c.addPod t p) := by
  constructor
  · exact Nat.le_refl _
  · exact List.subset_cons_self ..
  · exact List.Subset.refl _
  · intro k p' hp' hk
    rcases stored_cases hp' with ⟨rfl, -⟩ | hp'
    · exact absurd hk hfree
    · exact ⟨p', hp', phaseLe_refl _⟩

-- ========================================================= the invariant

/-- What holds of the stored status `s` of a task in namespace `ns`. -/
structure Sound (c : Cluster) (ns : String) (s : AgentTaskStatus) :
    Prop where
  known : s.phase.known = true
  podName : s.podName = "" ↔ s.phase = .empty ∨ s.phase = .pending
  finished : s.finishedAt.isSome = true ↔ s.phase.terminal = true
  started : ∀ {a}, s.startedAt = some a → a ≤ c.clock
  order : ∀ {a b}, s.startedAt = some a → s.finishedAt = some b → a ≤ b
  /-- the pod is at least as far as the status -/
  pod : s.podName ≠ "" → ⟨ns, s.podName⟩ ∈ c.podNames
    ∧ ∀ {p}, c.pods ⟨ns, s.podName⟩ = some p → PhaseLe s.phase (phaseOf p.status)
  completed : s.phase = .completed →
    ∃ o ∈ c.observed, o.pod = ⟨ns, s.podName⟩ ∧ o.status.phase = .succeeded
  evicted : s.phase = .evicted →
    ∃ o ∈ c.observed, o.pod = ⟨ns, s.podName⟩ ∧ o.status.phase = .failed
      ∧ o.status.reason = "Evicted"

theorem sound_zero (c : Cluster) (ns : String) : Sound c ns .zero := by
  constructor
  · rfl
  · exact iff_of_true rfl (.inl rfl)
  · exact iff_of_false Bool.noConfusion Bool.noConfusion
  · intro a ha
    cases ha
  · intro a b ha
    cases ha
  · intro h
    exact absurd rfl h
  · intro hc
    cases hc
  · intro hc
    cases hc

/-- A sound status stays sound as the cluster moves on. -/
theorem Sound.later {c c' : Cluster} {ns : String} {s : AgentTaskStatus}
    (h : Sound c ns s) (hl : Later c c') : Sound c' ns s := by
  constructor
  · exact h.known
  · exact h.podName
  · exact h.finished
  · intro a ha
    exact Nat.le_trans (h.started ha) hl.clock
  · exact h.order
  · intro hne
    obtain ⟨hname, hpod⟩ := h.pod hne
    refine ⟨hl.podNames hname, ?_⟩
    intro p' hp'
    obtain ⟨p, hp, hle⟩ := hl.pod hp' hname
    exact phaseLe_trans (hpod hp) hle
  · intro hc
    obtain ⟨o, ho, hrest⟩ := h.completed hc
    exact ⟨o, hl.observed ho, hrest⟩
  · intro he
    obtain ⟨o, ho, hrest⟩ := h.evicted he
    exact ⟨o, hl.observed ho, hrest⟩

structure Lifecycle (env : Env) (c : Cluster) : Prop where
  wellMade : WellMade env c
  wholeSeconds : WholeSeconds c
  sound : ∀ {k t}, c.agentTasks k = some t → Sound c k.nameSpace t.status

theorem lifecycle_init : Lifecycle env Cluster.init := by
  constructor
  · exact wellMade_init
  · exact wholeSeconds_init
  · intro k t h
    cases h

-- ================================================== the writes, one by one

/-- Writing `s'` over the sound `s` in the cluster `c`. -/
structure Advances (c : Cluster) (ns : String) (s s' : AgentTaskStatus) :
    Prop where
  sound : Sound c ns s'
  le : StatusLe s s'

section Writes

variable {c : Cluster} {ns : String} {s s' : AgentTaskStatus}

/-- Dropping the fractions of a second keeps a status sound. -/
theorem Sound.stored (h : Sound c ns s) : Sound c ns s.stored := by
  constructor
  · exact h.known
  · exact h.podName
  · rw [AgentTaskStatus.stored_finishedAt, Option.isSome_map]
    exact h.finished
  · intro a ha
    obtain ⟨a', ha', rfl⟩ := Option.map_eq_some_iff.mp ha
    exact Nat.le_trans (Nat.div_mul_le_self a' _) (h.started ha')
  · intro a b ha hb
    obtain ⟨a', ha', rfl⟩ := Option.map_eq_some_iff.mp ha
    obtain ⟨b', hb', rfl⟩ := Option.map_eq_some_iff.mp hb
    exact storedTime_mono (h.order ha' hb')
  · exact h.pod
  · exact h.completed
  · exact h.evicted

/-- Times that were stored are stored again as they were. -/
theorem StatusLe.stored (h : StatusLe s s') (hs : s.stored = s) :
    StatusLe s s'.stored := by
  constructor
  · exact h.phase
  · intro a ha
    rw [AgentTaskStatus.stored_startedAt, h.startedAt ha]
    exact congrArg some (s.startedAt_of_stored hs ha)
  · intro a ha
    rw [AgentTaskStatus.stored_finishedAt, h.finishedAt ha]
    exact congrArg some (s.finishedAt_of_stored hs ha)

/-- A status that is not final has no end. -/
theorem Sound.finishedAt_none (h : Sound c ns s)
    (hterm : s.phase.terminal = false) : s.finishedAt = none := by
  rw [← Option.not_isSome_iff_eq_none, h.finished, hterm]
  decide

/-- No known phase ranks above the final ones. -/
theorem PhaseType.rank_le_of_known {p : PhaseType} (h : p.known = true) :
    p.rank ≤ 4 := by
  cases p with
  | checkpointing => cases h
  | other text => cases h
  | _ => decide

/-- The first write: no pod and no end yet. -/
theorem advances_initStatus (h : Sound c ns s) (hphase : s.phase = .empty) :
    Advances c ns s { s with phase := .pending, podName := "" } := by
  have hterm : s.phase.terminal = false := by rw [hphase]; rfl
  have hnone := h.finishedAt_none hterm
  constructor
  · constructor
    · rfl
    · exact iff_of_true rfl (.inr rfl)
    · exact iff_of_false (by rw [hnone]; exact Bool.noConfusion)
        Bool.noConfusion
    · exact h.started
    · exact h.order
    · intro hne
      exact absurd rfl hne
    · intro hc
      cases hc
    · intro hc
      cases hc
  · refine ⟨⟨?_, ?_⟩, id, id⟩
    · rw [hphase]
      exact Nat.zero_le _
    · intro hc
      rw [hterm] at hc
      cases hc

/-- The write that remembers a pod just made. -/
theorem advances_recordPod (h : Sound c ns s) (hphase : s.phase = .pending)
    {p : Pod} (hname : p.name ≠ "") (hgiven : ⟨ns, p.name⟩ ∈ c.podNames)
    (hp : c.pods ⟨ns, p.name⟩ = some p) (hpending : p.status.phase = .pending) :
    Advances c ns s
      { s with podName := p.name, phase := .provisioning } := by
  have hterm : s.phase.terminal = false := by rw [hphase]; rfl
  have hnone := h.finishedAt_none hterm
  constructor
  · constructor
    · rfl
    · refine iff_of_false hname ?_
      rintro (hc | hc) <;> cases hc
    · exact iff_of_false (by rw [hnone]; exact Bool.noConfusion)
        Bool.noConfusion
    · exact h.started
    · exact h.order
    · intro _
      refine ⟨hgiven, ?_⟩
      intro q hq
      have hpq : some p = some q := hp.symm.trans hq
      cases hpq
      simp only [phaseOf, hpending]
      exact phaseLe_refl _
    · intro hc
      cases hc
    · intro hc
      cases hc
  · refine ⟨⟨?_, ?_⟩, id, id⟩
    · rw [hphase]
      exact Nat.le_succ 1
    · intro hc
      rw [hterm] at hc
      cases hc

/-- The write for a pod that is gone, which it is for good. -/
theorem advances_podNotFound (h : Sound c ns s) (hpod : s.podName ≠ "")
    (hgone : c.pods ⟨ns, s.podName⟩ = none)
    (hterm : s.phase.terminal = false) :
    Advances c ns s { s with
      phase := .failed
      reason := "Pod not found"
      finishedAt := some c.clock } := by
  have hnone := h.finishedAt_none hterm
  constructor
  · constructor
    · rfl
    · refine iff_of_false hpod ?_
      rintro (hc | hc) <;> cases hc
    · exact iff_of_true rfl rfl
    · exact h.started
    · intro a b ha hb
      cases hb
      exact h.started ha
    · intro _
      refine ⟨(h.pod hpod).1, ?_⟩
      intro q hq
      rw [hgone] at hq
      cases hq
    · intro hc
      cases hc
    · intro hc
      cases hc
  · refine ⟨⟨s.phase.rank_le_of_known h.known, ?_⟩, id, ?_⟩
    · intro hc
      rw [hterm] at hc
      cases hc
    · intro a ha
      rw [hnone] at ha
      cases ha

/-- A pod's phase gives a known phase. -/
theorem phaseOf_known (pod : PodStatus) : (phaseOf pod).known = true := by
  obtain ⟨phase, reason⟩ := pod
  cases phase with
  | failed =>
      simp only [phaseOf]
      split <;> rfl
  | _ => rfl

/-- A running pod has not ended, and neither has a status behind it. -/
theorem Sound.finishedAt_of_running (h : Sound c ns s) {pod : PodStatus}
    (hphase : PhaseLe s.phase (phaseOf pod)) (hr : pod.phase = .running) :
    s.finishedAt = none := by
  refine h.finishedAt_none ?_
  by_contra hc
  have hfinal := hphase.final (eq_true_of_ne_false hc)
  rw [← hfinal] at hc
  simp [phaseOf, hr, PhaseType.terminal] at hc

/-- What a fresh read of its pod makes of a sound status is sound. -/
theorem Sound.syncStatus (h : Sound c ns s) (hpod : s.podName ≠ "")
    {p : Pod} (hp : c.pods ⟨ns, s.podName⟩ = some p)
    (hobs : ⟨⟨ns, s.podName⟩, p.status⟩ ∈ c.observed) :
    Sound c ns (syncStatus s p.status c.clock).1 := by
  obtain ⟨hgiven, hle⟩ := h.pod hpod
  have hphase : PhaseLe s.phase (phaseOf p.status) := hle hp
  constructor
  · rw [syncStatus_phase]
    exact phaseOf_known p.status
  · rw [syncStatus_podName, syncStatus_phase]
    refine iff_of_false hpod ?_
    rintro (hc | hc)
    · exact phaseOf_ne_empty _ hc
    · exact phaseOf_ne_pending _ hc
  · rw [syncStatus_phase, syncStatus_finishedAt]
    split
    next hterm => exact iff_of_true rfl hterm
    next hterm =>
      refine iff_of_false ?_ hterm
      rw [h.finished]
      intro hc
      exact hterm (hphase.final hc ▸ hc)
  · intro a ha
    rcases syncStatus_startedAt_cases ha with ha | ⟨-, rfl⟩
    · exact h.started ha
    · exact Nat.le_refl _
  · intro a b ha hb
    rcases syncStatus_startedAt_cases ha with ha | ⟨hr, -⟩
    · rcases syncStatus_finishedAt_cases hb with hb | ⟨-, rfl⟩
      · exact h.order ha hb
      · exact h.started ha
    · rcases syncStatus_finishedAt_cases hb with hb | ⟨hterm, -⟩
      · rw [h.finishedAt_of_running hphase hr] at hb
        cases hb
      · simp [phaseOf, hr, PhaseType.terminal] at hterm
  · rw [syncStatus_podName, syncStatus_phase]
    intro _
    refine ⟨hgiven, ?_⟩
    intro q hq
    rw [hp] at hq
    cases hq
    exact phaseLe_refl _
  · rw [syncStatus_podName, syncStatus_phase]
    intro hc
    exact ⟨_, hobs, rfl, succeeded_of_completed hc⟩
  · rw [syncStatus_podName, syncStatus_phase]
    intro hc
    exact ⟨_, hobs, rfl, failed_of_evicted hc⟩

/-- The write that copies what a fresh pod read shows. The pod is at least
as far as the status, so a terminal status is written back as it was. -/
theorem advances_syncStatus (h : Sound c ns s) (hpod : s.podName ≠ "")
    {p : Pod} (hp : c.pods ⟨ns, s.podName⟩ = some p)
    (hobs : ⟨⟨ns, s.podName⟩, p.status⟩ ∈ c.observed) :
    Advances c ns s (syncStatus s p.status c.clock).1 := by
  constructor
  · exact h.syncStatus hpod hp hobs
  · constructor
    · rw [syncStatus_phase]
      exact (h.pod hpod).2 hp
    · intro a ha
      rw [syncStatus_startedAt, ha]
      split <;> rfl
    · intro a ha
      rw [syncStatus_finishedAt, ha]
      split <;> rfl

end Writes

-- ============================================================= one effect

theorem later_refl (c : Cluster) : Later c c :=
  .of_same rfl rfl (List.Subset.refl _) rfl

namespace Lifecycle

variable {c c' : Cluster}

/-- What one step has to show: the invariant, and the two-state law. -/
def Steps (env : Env) (c c' : Cluster) : Prop :=
  Lifecycle env c' ∧ Carried StatusLe c c'

/-- A step that writes no status. -/
theorem moves (h : Lifecycle env c) (hw : WellMade env c')
    (hat : c'.agentTasks = c.agentTasks) (hv : c'.versions = c.versions)
    (hrv : c'.resourceVersion = c.resourceVersion) (hu : c'.uid = c.uid)
    (hl : Later c c') : Steps env c c' := by
  refine ⟨?_, .of_same statusLe_refl hat hu⟩
  constructor
  · exact hw
  · exact h.wholeSeconds.congr hat hv hrv hu
  · intro k t ht
    rw [hat] at ht
    exact (h.sound ht).later hl

/-- A status write over `c₁`, which is `c` moved on. -/
theorem writes (h : Lifecycle env c) {c₁ : Cluster} (hw : WellMade env c₁)
    (hat : c₁.agentTasks = c.agentTasks) (hv : c₁.versions = c.versions)
    (hrv : c₁.resourceVersion = c.resourceVersion) (hu : c₁.uid = c.uid)
    (hl : Later c c₁) {t : AgentTask} (ht : t ∈ c.versions)
    {s : AgentTaskStatus}
    (hadv : c.agentTasks t.key = some t →
      Advances c₁ t.nameSpace t.status s) :
    Steps env c (c₁.storeStatus t s).2 := by
  have hstored := h.wholeSeconds.stored ht
  have ht₁ : t ∈ c₁.versions := hv ▸ ht
  obtain ⟨h₁, -⟩ := h.moves hw hat hv hrv hu hl
  constructor
  · constructor
    · exact hw.storeStatus ht₁ s
    · exact h₁.wholeSeconds.storeStatus ht₁ s
    · intro k u hu'
      rcases hw.consistent.storeStatus_read ht₁ s with hs | ⟨hcur, -, hs⟩
      · rw [hs] at hu' ⊢
        exact h₁.sound hu'
      · rw [hs] at hu' ⊢
        have hsame : Later c₁
            (c₁.storeAgentTask { t with status := s.stored }) :=
          .of_same rfl rfl (List.Subset.refl _) rfl
        rcases stored_cases hu' with ⟨rfl, rfl⟩ | hu'
        · exact (hadv (hat ▸ hcur)).sound.stored.later hsame
        · exact (h₁.sound hu').later hsame
  · refine .storeStatus statusLe_refl h.wellMade.consistent hat hv hrv hu ht ?_
    intro hcur
    exact (hadv hcur).le.stored hstored

/-- Reconcile, effect by effect: the status it writes was computed from the
pod that was read, and the pod is now no further back. -/
theorem effect (h : Lifecycle env c) {t : AgentTask} (ht : t ∈ c.versions)
    (hfresh : fates.getPod.uncached = true)
    (he : Effect env fates t c c') : Steps env c c' := by
  have hw := h.wellMade.effect ht he
  have hsound : c.agentTasks t.key = some t →
      Sound c t.nameSpace t.status := fun hcur => h.sound hcur
  cases he with
  | idle => exact h.moves hw rfl rfl rfl rfl (later_refl c)
  | initStatus hphase =>
      refine h.writes h.wellMade rfl rfl rfl rfl (later_refl c) ht ?_
      intro hcur
      exact advances_initStatus (hsound hcur) hphase
  | prepared hun c₁ c₂ hc₁ hc₂ =>
      obtain ⟨f, g, rfl⟩ := prepared_frame hc₁ hc₂
      exact h.moves hw rfl rfl rfl rfl
        (.of_same rfl rfl (List.Subset.refl _) rfl)
  | podCreated hun c₁ hprep hfree =>
      obtain ⟨f, g, rfl⟩ := hprep.frame
      have hl := later_addPod t hfree
      exact h.moves hw rfl rfl rfl rfl ⟨hl.1, hl.2, hl.3, hl.4⟩
  | podRecorded hun c₁ hprep hfree =>
      have hw₁ := h.wellMade.prepared ht hprep
      obtain ⟨f, g, rfl⟩ := hprep.frame
      have hmade : Made env t (madePod env fates t) := made_madePod t
      have hw₂ := hw₁.addPod ht hmade
      have hl := later_addPod t hfree
      have hl' : Later c _ := ⟨hl.1, hl.2, hl.3, hl.4⟩
      refine h.writes hw₂ rfl rfl rfl rfl hl' ht ?_
      intro hcur
      exact advances_recordPod ((hsound hcur).later hl') hun.phase
        (madePod_name_ne t) (List.mem_cons_self ..) (Function.update_self ..)
        rfl
  | invalidState hphase hpending hpod =>
      refine h.writes h.wellMade rfl rfl rfl rfl (later_refl c) ht ?_
      intro hcur
      -- a stored status without a PodName is empty or Pending
      rcases (hsound hcur).podName.mp hpod with hc | hc
      · exact absurd hc hphase
      · exact absurd hc hpending
  | podNotFound hphase hpod hread hterm =>
      refine h.writes h.wellMade rfl rfl rfl rfl (later_refl c) ht ?_
      intro hcur
      exact advances_podNotFound (hsound hcur) hpod
        (ReadFate.read_notFound hfresh hread) hterm
  | observed pod hread =>
      exact h.moves hw rfl rfl rfl rfl
        (.of_same rfl rfl (List.subset_cons_self ..) rfl)
  | synced pod hphase hpod hread =>
      have hpods := ReadFate.read_ok hfresh hread
      have hkey := (h.wellMade.pod hpods).2.1
      have hl : Later c (c.observe pod) :=
        .of_same rfl rfl (List.subset_cons_self ..) rfl
      refine h.writes (h.wellMade.observe pod) rfl rfl rfl rfl hl ht ?_
      intro hcur
      refine advances_syncStatus ((hsound hcur).later hl) hpod hpods ?_
      rw [hkey]
      exact List.mem_cons_self ..

-- ============================================================= every run

/-- Changes to the pods that only advance or remove them. -/
theorem pods (h : Lifecycle env c) (hw : WellMade env c')
    (hf : SameTasks c c') (hclock : c.clock ≤ c'.clock)
    (hpods : ∀ {k p'}, c'.pods k = some p' →
      ∃ p, c.pods k = some p ∧ PhaseLe (phaseOf p.status) (phaseOf p'.status)) :
    Steps env c c' := by
  refine h.moves hw hf.agentTasks hf.versions hf.resourceVersion hf.uid ?_
  constructor
  · exact hclock
  · rw [hf.podNames]
    exact List.Subset.refl _
  · rw [hf.observed]
    exact List.Subset.refl _
  · intro k p' hp' _
    exact hpods hp'

/-- A pod that is there after another was removed was there before. -/
theorem removed {key : NamespacedName} {k : NamespacedName} {p' : Pod}
    (hp' : Function.update c.pods key none k = some p') :
    ∃ p, c.pods k = some p ∧
      PhaseLe (phaseOf p.status) (phaseOf p'.status) := by
  exact ⟨p', stored_of_removed hp', phaseLe_refl _⟩

/-- Storing a version whose status is sound already. -/
theorem storeAgentTask (h : Lifecycle env c) {u : Nat}
    {t : AgentTask} (hw : WellMade env ({ c with uid := u }.storeAgentTask t))
    (hwhole : WholeSeconds ({ c with uid := u }.storeAgentTask t))
    (hs : Sound c t.nameSpace t.status) :
    Lifecycle env ({ c with uid := u }.storeAgentTask t) := by
  have hsame : Later c ({ c with uid := u }.storeAgentTask t) :=
    .of_same rfl rfl (List.Subset.refl _) rfl
  constructor
  · exact hw
  · exact hwhole
  · intro k u hu
    rcases stored_cases hu with ⟨rfl, rfl⟩ | hu
    · exact hs.later hsame
    · exact (h.sound hu).later hsame

/-- Every action of the environment keeps the invariant. -/
theorem apply (h : Lifecycle env c) {a : Action} (hg : FollowsPods c a)
    (ha : Cluster.apply env a c = some c') : Lifecycle env c' := by
  have hw := h.wellMade.apply ha
  have hwhole := h.wholeSeconds.apply ha
  cases apply_step ha with
  | createTask => exact h.storeAgentTask hw hwhole (sound_zero _ _)
  | editSpec ht =>
      obtain ⟨-, rfl⟩ := h.wellMade.consistent.stored ht
      exact h.storeAgentTask hw hwhole (h.sound ht)
  | editStatus => cases hg
  | deleteTask =>
      constructor
      · exact hw
      · exact hwhole
      · intro k u hu
        exact (h.sound (stored_of_removed hu)).later
          (.of_same rfl rfl (List.Subset.refl _) rfl)
  | terminateTask ht =>
      obtain ⟨-, rfl⟩ := h.wellMade.consistent.stored ht
      exact h.storeAgentTask hw hwhole (h.sound ht)
  | unserved => exact h
  | reconcile hserve hread hdel he =>
      have hmem := (h.wellMade.consistent.read_mem hserve hread).1
      exact (h.effect hmem hg he).1
  | collectConfigMap | collectNetworkPolicy =>
      exact (h.pods hw (apply_sameTasks rfl ha) (Nat.le_refl _)
        fun hp => ⟨_, hp, phaseLe_refl _⟩).1
  | collectPod | deletePod =>
      exact (h.pods hw (apply_sameTasks rfl ha) (Nat.le_refl _) removed).1
  | @setPodStatus key status p hp =>
      refine (h.pods hw (apply_sameTasks rfl ha) (Nat.le_refl _) ?_).1
      intro k q hq
      rcases stored_cases hq with ⟨rfl, rfl⟩ | hq
      · exact ⟨p, hp, phaseLe_of_advances (hg p hp)⟩
      · exact ⟨q, hq, phaseLe_refl _⟩
  | setClock =>
      exact (h.pods hw (apply_sameTasks rfl ha) hg
        fun hp => ⟨_, hp, phaseLe_refl _⟩).1

end Lifecycle

-- ================================================================ the law

/-- In every state reached, a stored status is sound, and in every state
reached from there the same AgentTask's status is one it may become. -/
theorem status_lifecycle {c : Cluster} (h : Reachable env FollowsPods c)
    {key : NamespacedName} {t : AgentTask}
    (ht : c.agentTasks key = some t) :
    Sound c key.nameSpace t.status
      ∧ ∀ c' t', GuardedRun.Reaches (Cluster.apply env) FollowsPods c c' →
        c'.agentTasks key = some t' → t'.uid = t.uid →
          StatusLe t.status t'.status := by
  have hlife : Lifecycle env c :=
    h.invariant (fun _ _ _ hinv hg ha => hinv.apply hg ha) lifecycle_init
  refine ⟨hlife.sound ht, ?_⟩
  intro c' t' hrun ht' hu
  have hcarried : Carried StatusLe c c' := by
    refine hrun.relates (fun v a w hinv hg ha => ⟨hinv.apply hg ha, ?_⟩)
      (fun v => .of_same statusLe_refl rfl rfl)
      (fun v w x hvw hwx => hvw.trans statusLe_trans hwx) hlife
    refine Carried.apply statusLe_refl hinv.wellMade.consistent ha ?_ ?_
    · rintro k s rfl
      exact hg
    · rintro k fates u rfl _ hmem _ _ he
      exact (hinv.effect hmem hg he).2
  exact hcarried.status hlife.wellMade.consistent ht ht' hu

namespace Sample

/-- The demo task as it is stored: phase, StartedAt and UID. -/
def started (c : Cluster) : Option (PhaseType × Option Nat × Nat) :=
  (c.agentTasks key).map fun t => (t.status.phase, t.status.startedAt, t.uid)

/-- The pod of the demo task runs, after a pod was made in vain. -/
def runs : List Action := [
  .createTask key (spec "hi"),
  .reconcile key served,
  .reconcile key { served with updateStatus := .failed },
  .reconcile key { served with podSuffix := "q9d4z" },
  .setClock 3500000000,
  .setPodStatus ⟨"default", "demo-pod-q9d4z"⟩ ⟨.running, ""⟩,
  .reconcile key served]

/-- The pod ends while the task is read stale, and is gone later. -/
def ends : List Action := [
  .setClock 7000000000,
  .setPodStatus ⟨"default", "demo-pod-q9d4z"⟩ ⟨.failed, "Evicted"⟩,
  .reconcile key served,
  .deletePod ⟨"default", "demo-pod-q9d4z"⟩,
  .reconcile key served]

end Sample

/-- The sample's task runs and is evicted. -/
theorem status_lifecycle_demo :
    ∃ c c' t t', Reachable Sample.demo FollowsPods c
      ∧ GuardedRun.Reaches (Cluster.apply Sample.demo) FollowsPods c c'
      ∧ c.agentTasks Sample.key = some t ∧ c'.agentTasks Sample.key = some t'
      ∧ t.status.startedAt = some 3000000000 ∧ t'.status.phase = .evicted
      ∧ Sound c "default" t.status ∧ StatusLe t.status t'.status := by
  obtain ⟨c, hc, hf⟩ := reachable_of_run Sample.demo FollowsPods Sample.runs
    (fun c => decide (
      Sample.started c = some (.running, some 3000000000, 1)
        ∧ (GuardedRun.exec (Cluster.apply Sample.demo) Sample.ends c).map
            Sample.started = some (some (.evicted, some 3000000000, 1))
        ∧ GuardedRun.Meets (Cluster.apply Sample.demo) FollowsPods
            Sample.ends c))
    true (by decide +kernel) (by decide +kernel)
  obtain ⟨hnow, hlater, hmeets⟩ := of_decide_eq_true hf
  obtain ⟨c', hrun, hlater'⟩ :=
    GuardedRun.Reaches.of_exec_map hmeets hlater
  obtain ⟨t, ht, htp⟩ := Option.map_eq_some_iff.mp hnow
  obtain ⟨t', ht', htp'⟩ := Option.map_eq_some_iff.mp hlater'
  obtain ⟨-, hstart, huid⟩ := Prod.mk.inj htp |>.imp_right Prod.mk.inj
  obtain ⟨hphase, -, huid'⟩ := Prod.mk.inj htp' |>.imp_right Prod.mk.inj
  obtain ⟨hsound, hle⟩ := status_lifecycle hc ht
  exact ⟨c, c', t, t', hc, hrun, ht, ht', hstart, hphase, hsound,
    hle c' t' hrun ht' (huid'.trans huid.symm)⟩

end AgentAnvil.Operator
