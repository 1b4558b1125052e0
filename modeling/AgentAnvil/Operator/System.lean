/-
The whole system as one transition function: the users, the controller,
the kubelet, the garbage collector and the clock act on the cluster in any
order, one action at a time.

A Reconcile is one action. It reads the AgentTask once, at its start, and
writes it at most once, at its end and over the version it has read; a
user's edit in between therefore shows as a Reconcile that read an earlier
version, or whose status write failed.

`Effect` lists what a Reconcile that has read a task can do to the
cluster, one constructor for each place where it can stop, and `Step` what
an action can do. `reconcile_effect` and `apply_step` say that there is
nothing else: the invariants are proved from them and never unfold
`reconcile` or `apply`.
-/
import AgentAnvil.Lib.GuardedRun
import AgentAnvil.Operator.Reconcile

namespace AgentAnvil.Operator

variable (env : Env)

-- ============================================================ the actions

inductive Action where
  | createTask (key : NamespacedName) (spec : AgentTaskSpec)
  | editSpec (key : NamespacedName) (spec : AgentTaskSpec)
  /-- a status write by anyone but the controller -/
  | editStatus (key : NamespacedName) (status : AgentTaskStatus)
  /-- background deletion: the object is gone at once -/
  | deleteTask (key : NamespacedName)
  /-- foreground deletion: the object is marked first -/
  | terminateTask (key : NamespacedName)
  | reconcile (key : NamespacedName) (fates : CallFates)
  | collectConfigMap (key : NamespacedName)
  | collectNetworkPolicy (key : NamespacedName)
  | collectPod (key : NamespacedName)
  | setPodStatus (key : NamespacedName) (status : PodStatus)
  | deletePod (key : NamespacedName)
  | setClock (time : Nat)
  deriving DecidableEq

namespace Cluster

variable (c : Cluster)

/-- The owner a collected object refers to is gone or going: no AgentTask
of that name and UID, or one that is marked for deletion. -/
def ownerGone (ns : String) (owner : Option OwnerReference) : Bool :=
  match owner with
  | none => false
  | some o =>
      match c.agentTasks ⟨ns, o.name⟩ with
      | none => true
      | some t => decide (t.uid ≠ o.uid) || t.deletionTimestamp.isSome

/-- A task the lagging cache may serve for `key`: nothing, or some version
that was stored under it. -/
def mayServe (key : NamespacedName) : ReadFate AgentTask → Bool
  | .cached (some t) => decide (t ∈ c.versions) && decide (t.key = key)
  | _ => true

/-- One action; `none` when it is not enabled. -/
def apply (a : Action) (c : Cluster) : Option Cluster :=
  match a with
  | .createTask key spec =>
      match c.agentTasks key with
      | some _ => none
      | none =>
          some ({ c with uid := c.uid + 1 }.storeAgentTask
            { name := key.name
              nameSpace := key.nameSpace
              uid := c.uid + 1
              resourceVersion := 0
              deletionTimestamp := none
              spec := spec
              status := .zero })
  | .editSpec key spec =>
      (c.agentTasks key).map fun t => c.storeAgentTask { t with spec := spec }
  | .editStatus key status =>
      (c.agentTasks key).map fun t =>
        c.storeAgentTask { t with status := status.stored }
  | .deleteTask key =>
      (c.agentTasks key).map fun _ =>
        { c with agentTasks := Function.update c.agentTasks key none }
  | .terminateTask key =>
      (c.agentTasks key).map fun t =>
        c.storeAgentTask { t with deletionTimestamp := some c.clock }
  | .reconcile key fates =>
      if c.mayServe key fates.getAgentTask then
        some (Operator.reconcile env fates key c).2
      else none
  | .collectConfigMap key =>
      match c.configMaps key with
      | some cm =>
          if c.ownerGone key.nameSpace cm.owner then
            some { c with
              configMaps := Function.update c.configMaps key none }
          else none
      | none => none
  | .collectNetworkPolicy key =>
      match c.networkPolicies key with
      | some np =>
          if c.ownerGone key.nameSpace np.owner then
            some { c with
              networkPolicies := Function.update c.networkPolicies key none }
          else none
      | none => none
  | .collectPod key =>
      match c.pods key with
      | some p =>
          if c.ownerGone key.nameSpace p.owner then
            some { c with pods := Function.update c.pods key none }
          else none
      | none => none
  | .setPodStatus key status =>
      (c.pods key).map fun p =>
        { c with
          pods := Function.update c.pods key (some { p with status }) }
  | .deletePod key =>
      (c.pods key).map fun _ =>
        { c with pods := Function.update c.pods key none }
  | .setClock time => some { c with clock := time }

end Cluster

/-- The actions of the collector, the kubelet and the clock, which touch no
AgentTask. -/
def Action.leavesTasks : Action → Bool
  | .collectConfigMap _ | .collectNetworkPolicy _ | .collectPod _ => true
  | .setPodStatus _ _ | .deletePod _ | .setClock _ => true
  | _ => false

/-- Two clusters with the same AgentTasks and the same history. -/
structure SameTasks (c c' : Cluster) : Prop where
  agentTasks : c'.agentTasks = c.agentTasks
  versions : c'.versions = c.versions
  resourceVersion : c'.resourceVersion = c.resourceVersion
  uid : c'.uid = c.uid
  podNames : c'.podNames = c.podNames
  created : c'.created = c.created
  observed : c'.observed = c.observed

/-- Runs from the empty cluster whose every action meets the guard. -/
abbrev Reachable (guard : Cluster → Action → Prop) : Cluster → Prop :=
  GuardedRun.Reaches (Cluster.apply env) guard Cluster.init

/-- The guard that lets everything happen. -/
def anything (_ : Cluster) (_ : Action) : Prop := True

instance (c : Cluster) (a : Action) : Decidable (anything c a) :=
  inferInstanceAs (Decidable True)

/-- An explicit run that meets the guard, and something computed from the
cluster it ends in. -/
theorem reachable_of_run {α : Type} (guard : Cluster → Action → Prop)
    (actions : List Action) (f : Cluster → α) (x : α)
    (hm : GuardedRun.Meets (Cluster.apply env) guard actions Cluster.init)
    (h : (GuardedRun.exec (Cluster.apply env) actions Cluster.init).map f
      = some x) :
    ∃ c, Reachable env guard c ∧ f c = x :=
  GuardedRun.Reaches.of_exec_map hm h

-- ===================================================== a small example

namespace Sample

/-- The text the operator writes for `spec p`. -/
def taskYaml (prompt : String) : String :=
  "model:\n  name: echo\n  provider: mock\nprompt: " ++ prompt
    ++ "\nsystemPrompt: \"\"\ntools: []\n"

def demo : Env where
  yamlMarshal spec := some (taskYaml spec.prompt).toByteArray.data.toList
  sdkImage := ""

def spec (prompt : String) : AgentTaskSpec where
  prompt := prompt
  systemPrompt := ""
  model := some
    { provider := "mock", name := "echo", apiKeySecretRef := none
      params := [] }
  tools := []
  workspace := none
  timeoutSeconds := none
  maxSteps := none
  resources := none
  checkpointPolicy := none
  replay := none

def key : NamespacedName := ⟨"default", "demo"⟩

/-- Every call is served. -/
def served : CallFates where
  getAgentTask := .fresh
  getConfigMap := .fresh
  createConfigMap := .served
  getNetworkPolicy := .fresh
  createNetworkPolicy := .served
  createPod := .served
  podSuffix := "x7k2p"
  getPod := .fresh
  updateStatus := .served

end Sample

-- =================================================== fates of the calls

/-- A call that is answered was served. -/
theorem CallFate.send_ok {α : Type} {fate : CallFate} {c c' : Cluster} {a : α}
    {answer : Except ApiError α × Cluster}
    (h : fate.send c answer = (.ok a, c')) :
    fate = .served ∧ answer = (.ok a, c') := by
  cases fate with
  | served => exact ⟨rfl, h⟩
  | failed => cases h
  | lost => cases h

/-- A write leaves the cluster alone or does what the server does. -/
theorem CallFate.send_snd {α : Type} (fate : CallFate) (c : Cluster)
    (answer : Except ApiError α × Cluster) :
    fate = .failed ∧ (fate.send c answer).2 = c
      ∨ fate ≠ .failed ∧ (fate.send c answer).2 = answer.2 := by
  cases fate with
  | served => exact .inr ⟨by decide, rfl⟩
  | failed => exact .inl ⟨rfl, rfl⟩
  | lost => exact .inr ⟨by decide, rfl⟩

/-- A status write is refused and changes nothing, or it is sent, answered or
not. -/
theorem updateStatus_snd (fates : CallFates) (c : Cluster) (t : AgentTask)
    (s : AgentTaskStatus) :
    fates.updateStatus = .failed ∧ (updateStatus fates c t s).2 = c
      ∨ fates.updateStatus ≠ .failed
        ∧ (updateStatus fates c t s).2 = (c.storeStatus t s).2 :=
  CallFate.send_snd ..

/-- A create under a free name goes through. -/
theorem Cluster.createPod_of_free {c : Cluster} {t : AgentTask} {pod : Pod}
    {suffix : String}
    (hfree : (Cluster.namePod pod suffix).key ∉ c.podNames) :
    c.createPod t pod suffix
      = (.ok (Cluster.namePod pod suffix),
        c.addPod t (Cluster.namePod pod suffix)) := by
  simp only [Cluster.createPod]
  rw [if_neg hfree]

/-- Sending a pod create: nothing happens, or the pod is made and the
answer lost, or the pod is made and answered. -/
theorem sendCreatePod_cases (fate : CallFate) (c : Cluster) (t : AgentTask)
    (pod : Pod) (suffix : String) :
    (∃ err, fate.send c (c.createPod t pod suffix) = (.error err, c))
      ∨ ((Cluster.namePod pod suffix).key ∉ c.podNames ∧ fate = .lost
        ∧ ∃ err, fate.send c (c.createPod t pod suffix)
          = (.error err, c.addPod t (Cluster.namePod pod suffix)))
      ∨ ((Cluster.namePod pod suffix).key ∉ c.podNames ∧ fate = .served
        ∧ fate.send c (c.createPod t pod suffix)
          = (.ok (Cluster.namePod pod suffix),
            c.addPod t (Cluster.namePod pod suffix))) := by
  by_cases hfree : (Cluster.namePod pod suffix).key ∈ c.podNames
  · -- a taken name: refused by the server, whatever the fate
    have htaken : c.createPod t pod suffix = (.error .alreadyExists, c) := by
      simp only [Cluster.createPod]
      rw [if_pos hfree]
    rw [htaken]
    left
    cases fate with
    | served => exact ⟨_, rfl⟩
    | failed => exact ⟨_, rfl⟩
    | lost => exact ⟨_, rfl⟩
  · rw [Cluster.createPod_of_free hfree]
    cases fate with
    | failed => exact .inl ⟨_, rfl⟩
    | lost => exact .inr (.inl ⟨hfree, rfl, _, rfl⟩)
    | served => exact .inr (.inr ⟨hfree, rfl, rfl⟩)

variable {env} {fates : CallFates}

-- ================================================= the ensure functions

section Ensure

variable (env) (fates)

/-- The ConfigMap step leaves the cluster alone or adds the task's own
ConfigMap under a name that was free. -/
theorem ensureConfigMap_snd (t : AgentTask) (c : Cluster) :
    (ensureConfigMapForPod env fates t c).2 = c
      ∨ ∃ cm, buildConfigMapForAgentTask env t = some cm
        ∧ c.configMaps ⟨cm.nameSpace, cm.name⟩ = none
        ∧ (ensureConfigMapForPod env fates t c).2 =
          { c with
            configMaps := Function.update c.configMaps
              ⟨cm.nameSpace, cm.name⟩
              (some { cm with owner := some t.ownerReference }) } := by
  simp only [ensureConfigMapForPod]
  split
  · exact .inl rfl
  · split
    · split
      · exact .inl rfl
      next cm hcm =>
        rcases CallFate.send_snd fates.createConfigMap c
            (c.createConfigMap
              { cm with owner := some t.ownerReference }) with ⟨-, h⟩ | ⟨-, h⟩
        · exact .inl h
        · rw [h]
          simp only [Cluster.createConfigMap]
          split
          · exact .inl rfl
          next hfree => exact .inr ⟨cm, hcm, hfree, rfl⟩
    · exact .inl rfl

/-- The policy step leaves the cluster alone or adds the task's own policy
under a name that was free. -/
theorem ensureNetworkPolicy_snd (t : AgentTask) (c : Cluster) :
    (ensureNetworkPolicyForPod fates t c).2 = c
      ∨ c.networkPolicies ⟨t.nameSpace, t.name ++ "-network-policy"⟩ = none
        ∧ (ensureNetworkPolicyForPod fates t c).2 =
          { c with
            networkPolicies := Function.update c.networkPolicies
              ⟨t.nameSpace, t.name ++ "-network-policy"⟩
              (some { buildNetworkPolicy t.nameSpace t.name with
                owner := some t.ownerReference }) } := by
  simp only [ensureNetworkPolicyForPod]
  split
  · exact .inl rfl
  · split
    · rcases CallFate.send_snd fates.createNetworkPolicy c
          (c.createNetworkPolicy
            { buildNetworkPolicy t.nameSpace t.name with
              owner := some t.ownerReference }) with ⟨-, h⟩ | ⟨-, h⟩
      · exact .inl h
      · rw [h]
        simp only [Cluster.createNetworkPolicy]
        split
        · exact .inl rfl
        next hfree => exact .inr ⟨hfree, rfl⟩
    · exact .inl rfl

/-- The ConfigMap step touches nothing but ConfigMaps. -/
theorem ensureConfigMap_frame (t : AgentTask) (c : Cluster) :
    ∃ f, (ensureConfigMapForPod env fates t c).2
      = { c with configMaps := f } := by
  rcases ensureConfigMap_snd env fates t c
    with h | ⟨cm, -, -, h⟩
  · exact ⟨c.configMaps, h⟩
  · exact ⟨_, h⟩

/-- The policy step touches nothing but policies. -/
theorem ensureNetworkPolicy_frame (t : AgentTask) (c : Cluster) :
    ∃ f, (ensureNetworkPolicyForPod fates t c).2
      = { c with networkPolicies := f } := by
  rcases ensureNetworkPolicy_snd fates t c with h | ⟨-, h⟩
  · exact ⟨c.networkPolicies, h⟩
  · exact ⟨_, h⟩

end Ensure

-- ================================================ what a Reconcile can do

/-- The pod a Reconcile of `t` makes, as the server stores it. -/
def madePod (env : Env) (fates : CallFates) (t : AgentTask) : Pod :=
  Cluster.namePod (newPod env t) fates.podSuffix

/-- A pod name the server generates is never empty. -/
theorem madePod_name_ne (t : AgentTask) : (madePod env fates t).name ≠ "" := by
  intro h
  have hl := congrArg String.toList h
  simp [madePod, Cluster.namePod, newPod, buildPodForAgentTask] at hl

/-- Both ensure functions have returned without error, leaving `c'`. -/
def Prepared (env : Env) (fates : CallFates) (t : AgentTask)
    (c c' : Cluster) : Prop :=
  ∃ c₁, ensureConfigMapForPod env fates t c = (.ok (), c₁)
    ∧ ensureNetworkPolicyForPod fates t c₁ = (.ok (), c')

/-- Preparing a pod touches nothing but ConfigMaps and policies. -/
theorem Prepared.frame {t : AgentTask} {c c' : Cluster}
    (h : Prepared env fates t c c') :
    ∃ f g, c' = { c with configMaps := f, networkPolicies := g } := by
  obtain ⟨c₁, h₁, h₂⟩ := h
  obtain ⟨f, hf⟩ := ensureConfigMap_frame env fates t c
  obtain ⟨g, hg⟩ := ensureNetworkPolicy_frame fates t c₁
  rw [h₁] at hf
  rw [h₂] at hg
  simp only at hf hg
  exact ⟨f, g, by rw [hg, hf]⟩

/-- Stopping in one of the ensure functions touches nothing else either. -/
theorem prepared_frame {t : AgentTask} {c c₁ c₂ : Cluster}
    (h₁ : c₁ = (ensureConfigMapForPod env fates t c).2)
    (h₂ : c₂ = c₁ ∨ c₂ = (ensureNetworkPolicyForPod fates t c₁).2) :
    ∃ f g, c₂ = { c with configMaps := f, networkPolicies := g } := by
  obtain ⟨f, hf⟩ := ensureConfigMap_frame env fates t c
  obtain ⟨g, hg⟩ := ensureNetworkPolicy_frame fates t c₁
  rw [hf] at h₁
  rw [h₁] at hg
  rcases h₂ with h₂ | h₂
  · exact ⟨f, c.networkPolicies, by rw [h₂, h₁]⟩
  · exact ⟨f, g, by rw [h₂, h₁, hg]⟩

/-- The read task is one the Pending branch takes. -/
structure Unstarted (t : AgentTask) : Prop where
  phase : t.status.phase = .pending
  podName : t.status.podName = ""

instance (t : AgentTask) : Decidable (Unstarted t) :=
  decidable_of_iff (t.status.phase = .pending ∧ t.status.podName = "")
    ⟨fun h => ⟨h.1, h.2⟩, fun h => ⟨h.1, h.2⟩⟩

/-- What a Reconcile that has read `t` can do to the cluster, one
constructor for each place where it can stop. -/
inductive Effect (env : Env) (fates : CallFates) (t : AgentTask)
    (c : Cluster) : Cluster → Prop
  | idle : Effect env fates t c c
  | initStatus (hphase : t.status.phase = .empty)
      (hwrite : fates.updateStatus ≠ .failed) :
      Effect env fates t c
        (c.storeStatus t { t.status with
          phase := .pending, podName := "" }).2
  /-- stopped in or after one of the ensure functions, before a pod
  exists -/
  | prepared (hun : Unstarted t) (c₁ c₂ : Cluster)
      (hc₁ : c₁ = (ensureConfigMapForPod env fates t c).2)
      (hc₂ : c₂ = c₁ ∨ c₂ = (ensureNetworkPolicyForPod fates t c₁).2) :
      Effect env fates t c c₂
  /-- the pod exists and no status write was sent or took effect -/
  | podCreated (hun : Unstarted t) (c₁ : Cluster)
      (hprep : Prepared env fates t c c₁)
      (hfree : (madePod env fates t).key ∉ c₁.podNames)
      (hcreate : fates.createPod ≠ .failed)
      (hlost : fates.createPod = .lost ∨ fates.updateStatus = .failed) :
      Effect env fates t c (c₁.addPod t (madePod env fates t))
  /-- the pod exists and the status that names it was sent -/
  | podRecorded (hun : Unstarted t) (c₁ : Cluster)
      (hprep : Prepared env fates t c c₁)
      (hfree : (madePod env fates t).key ∉ c₁.podNames)
      (hcreate : fates.createPod = .served)
      (hwrite : fates.updateStatus ≠ .failed) :
      Effect env fates t c
        ((c₁.addPod t (madePod env fates t)).storeStatus t
          { t.status with
            podName := (madePod env fates t).name
            phase := .provisioning }).2
  | invalidState (hphase : t.status.phase ≠ .empty)
      (hpending : t.status.phase ≠ .pending) (hpod : t.status.podName = "")
      (hwrite : fates.updateStatus ≠ .failed) :
      Effect env fates t c
        (c.storeStatus t { t.status with
          phase := .failed
          reason := "Invalid state"
          finishedAt := some c.clock }).2
  | podNotFound (hphase : t.status.phase ≠ .empty)
      (hpod : t.status.podName ≠ "")
      (hread : fates.getPod.read (c.pods ⟨t.nameSpace, t.status.podName⟩)
        = .error .notFound)
      (hterm : t.status.phase.terminal = false)
      (hwrite : fates.updateStatus ≠ .failed) :
      Effect env fates t c
        (c.storeStatus t { t.status with
          phase := .failed
          reason := "Pod not found"
          finishedAt := some c.clock }).2
  /-- the pod was read and nothing was written -/
  | observed (pod : Pod)
      (hread : fates.getPod.read (c.pods ⟨t.nameSpace, t.status.podName⟩)
        = .ok pod) :
      Effect env fates t c (c.observe pod)
  | synced (pod : Pod) (hphase : t.status.phase ≠ .empty)
      (hpod : t.status.podName ≠ "")
      (hread : fates.getPod.read (c.pods ⟨t.nameSpace, t.status.podName⟩)
        = .ok pod)
      (hcm : configMapUnreadable pod = false)
      (hwrite : fates.updateStatus ≠ .failed) :
      Effect env fates t c
        ((c.observe pod).storeStatus t
          (syncStatus t.status pod.status c.clock).1).2

/-- The Pending branch, as effects. -/
theorem createPodForTask_effect {t : AgentTask} {c : Cluster}
    (hun : Unstarted t) :
    Effect env fates t c (createPodForTask env fates t c).2 := by
  simp only [createPodForTask]
  split
  next err c₁ h₁ => exact .prepared hun _ _ rfl (.inl (by rw [h₁]))
  next c₁ h₁ =>
    split
    next err c₂ h₂ =>
      exact .prepared hun _ _ rfl (.inr (by rw [h₁, h₂]))
    next c₂ h₂ =>
      have hprep : Prepared env fates t c c₂ := ⟨c₁, h₁, h₂⟩
      rcases sendCreatePod_cases fates.createPod c₂ t (newPod env t)
          fates.podSuffix with
        ⟨err, h⟩ | ⟨hfree, hlost, err, h⟩ | ⟨hfree, hserved, h⟩
      · rw [h]
        exact .prepared hun c₁ c₂ (by rw [h₁]) (.inr (by rw [h₂]))
      · rw [h]
        exact .podCreated hun c₂ hprep hfree (by rw [hlost]; decide)
          (.inl hlost)
      · rw [h]
        rcases updateStatus_snd fates (c₂.addPod t (madePod env fates t)) t
            { t.status with
              podName := (madePod env fates t).name
              phase := .provisioning } with ⟨hw, h⟩ | ⟨hw, h⟩
        · rw [← madePod, h]
          exact .podCreated hun c₂ hprep hfree (by rw [hserved]; decide)
            (.inr hw)
        · rw [← madePod, h]
          exact .podRecorded hun c₂ hprep hfree hserved hw

/-- The branch that follows a pod, as effects. -/
theorem followPod_effect {t : AgentTask} {c : Cluster}
    (hphase : t.status.phase ≠ .empty) (hpod : t.status.podName ≠ "") :
    Effect env fates t c (followPod fates t c).2 := by
  simp only [followPod]
  split
  next err hread =>
    split
    next herr =>
      subst herr
      split
      next => exact .idle
      next hterm =>
        rcases updateStatus_snd fates c t { t.status with
            phase := .failed
            reason := "Pod not found"
            finishedAt := some c.clock } with ⟨-, h⟩ | ⟨hw, h⟩
        · rw [h]
          exact .idle
        · rw [h]
          exact .podNotFound hphase hpod hread (by simpa using hterm) hw
    next => exact .idle
  next pod hread =>
    split
    next => exact .observed pod hread
    next hcm =>
      split
      next =>
        rcases updateStatus_snd fates (c.observe pod) t
            (syncStatus t.status pod.status (c.observe pod).clock).1
          with ⟨-, h⟩ | ⟨hw, h⟩
        · rw [h]
          exact .observed pod hread
        · rw [h]
          exact .synced pod hphase hpod hread (by simpa using hcm) hw
      next => exact .observed pod hread

/-- What a Reconcile does: nothing, or one of the effects on behalf of
the task it has read, which is not marked for deletion. -/
theorem reconcile_effect (env : Env) (fates : CallFates)
    (req : NamespacedName) (c : Cluster) :
    (reconcile env fates req c).2 = c
      ∨ ∃ t, fates.getAgentTask.read (c.agentTasks req) = .ok t
        ∧ t.deletionTimestamp = none
        ∧ Effect env fates t c (reconcile env fates req c).2 := by
  simp only [reconcile]
  split
  next => exact .inl rfl
  next t hread =>
    split
    next => exact .inl rfl
    next hdel =>
      refine .inr ⟨t, hread, by simpa using hdel, ?_⟩
      split
      next hphase =>
        rcases updateStatus_snd fates c t { t.status with
            phase := .pending, podName := "" } with ⟨-, h⟩ | ⟨hw, h⟩
        · rw [h]
          exact .idle
        · rw [h]
          exact .initStatus hphase hw
      next hphase =>
        split
        next hpod =>
          split
          next hpending => exact createPodForTask_effect ⟨hpending, hpod⟩
          next hpending =>
            rcases updateStatus_snd fates c t { t.status with
                phase := .failed
                reason := "Invalid state"
                finishedAt := some c.clock } with ⟨-, h⟩ | ⟨hw, h⟩
            · rw [h]
              exact .idle
            · rw [h]
              exact .invalidState hphase hpending hpod hw
        next hpod => exact followPod_effect hphase hpod

-- ================================================ what an action can do

/-- What an action can do to the cluster. A Reconcile does nothing
(`unserved`), or has one of the effects on behalf of the task it has
read. -/
inductive Step (env : Env) (c : Cluster) : Action → Cluster → Prop
  | createTask {key spec} (hfree : c.agentTasks key = none) :
      Step env c (.createTask key spec)
        ({ c with uid := c.uid + 1 }.storeAgentTask
          { name := key.name
            nameSpace := key.nameSpace
            uid := c.uid + 1
            resourceVersion := 0
            deletionTimestamp := none
            spec := spec
            status := .zero })
  | editSpec {key spec t} (ht : c.agentTasks key = some t) :
      Step env c (.editSpec key spec) (c.storeAgentTask { t with spec })
  | editStatus {key status t} (ht : c.agentTasks key = some t) :
      Step env c (.editStatus key status)
        (c.storeAgentTask { t with status := status.stored })
  | deleteTask {key t} (ht : c.agentTasks key = some t) :
      Step env c (.deleteTask key)
        { c with agentTasks := Function.update c.agentTasks key none }
  | terminateTask {key t} (ht : c.agentTasks key = some t) :
      Step env c (.terminateTask key)
        (c.storeAgentTask { t with deletionTimestamp := some c.clock })
  | unserved {key fates} : Step env c (.reconcile key fates) c
  | reconcile {key fates t c'}
      (hserve : c.mayServe key fates.getAgentTask = true)
      (hread : fates.getAgentTask.read (c.agentTasks key) = .ok t)
      (hdel : t.deletionTimestamp = none) (he : Effect env fates t c c') :
      Step env c (.reconcile key fates) c'
  | collectConfigMap {key cm} (hcm : c.configMaps key = some cm)
      (hgone : c.ownerGone key.nameSpace cm.owner = true) :
      Step env c (.collectConfigMap key)
        { c with configMaps := Function.update c.configMaps key none }
  | collectNetworkPolicy {key np} (hnp : c.networkPolicies key = some np)
      (hgone : c.ownerGone key.nameSpace np.owner = true) :
      Step env c (.collectNetworkPolicy key)
        { c with
          networkPolicies := Function.update c.networkPolicies key none }
  | collectPod {key p} (hp : c.pods key = some p)
      (hgone : c.ownerGone key.nameSpace p.owner = true) :
      Step env c (.collectPod key)
        { c with pods := Function.update c.pods key none }
  | setPodStatus {key status p} (hp : c.pods key = some p) :
      Step env c (.setPodStatus key status)
        { c with
          pods := Function.update c.pods key (some { p with status }) }
  | deletePod {key p} (hp : c.pods key = some p) :
      Step env c (.deletePod key)
        { c with pods := Function.update c.pods key none }
  | setClock {time} :
      Step env c (.setClock time) { c with clock := time }

/-- A Reconcile is served what it may be, and then does nothing or has an
effect. -/
theorem reconcile_step {key : NamespacedName} {fates : CallFates}
    {c c' : Cluster}
    (ha : Cluster.apply env (.reconcile key fates) c = some c') :
    Step env c (.reconcile key fates) c' := by
  simp only [Cluster.apply] at ha
  obtain ⟨hserve, ha⟩ := Option.ite_none_right_eq_some.mp ha
  cases ha
  rcases reconcile_effect env fates key c with hsame | ⟨t, hread, hdel, he⟩
  · rw [hsame]
    exact .unserved
  · exact .reconcile hserve hread hdel he

-- The collector takes what is there and whose owner is gone.

theorem collectConfigMap_step {key : NamespacedName} {c c' : Cluster}
    (ha : Cluster.apply env (.collectConfigMap key) c = some c') :
    Step env c (.collectConfigMap key) c' := by
  simp only [Cluster.apply] at ha
  split at ha
  next cm hcm =>
    obtain ⟨hgone, ha⟩ := Option.ite_none_right_eq_some.mp ha
    cases ha
    exact .collectConfigMap hcm hgone
  next => cases ha

theorem collectNetworkPolicy_step {key : NamespacedName} {c c' : Cluster}
    (ha : Cluster.apply env (.collectNetworkPolicy key) c = some c') :
    Step env c (.collectNetworkPolicy key) c' := by
  simp only [Cluster.apply] at ha
  split at ha
  next np hnp =>
    obtain ⟨hgone, ha⟩ := Option.ite_none_right_eq_some.mp ha
    cases ha
    exact .collectNetworkPolicy hnp hgone
  next => cases ha

theorem collectPod_step {key : NamespacedName} {c c' : Cluster}
    (ha : Cluster.apply env (.collectPod key) c = some c') :
    Step env c (.collectPod key) c' := by
  simp only [Cluster.apply] at ha
  split at ha
  next p hp =>
    obtain ⟨hgone, ha⟩ := Option.ite_none_right_eq_some.mp ha
    cases ha
    exact .collectPod hp hgone
  next => cases ha

/-- Every action that can be taken is a step. -/
theorem apply_step {a : Action} {c c' : Cluster}
    (ha : Cluster.apply env a c = some c') : Step env c a c' := by
  cases a with
  | createTask key spec =>
      simp only [Cluster.apply] at ha
      split at ha
      next => cases ha
      next hfree =>
        cases ha
        exact .createTask hfree
  | editSpec key spec =>
      obtain ⟨t, ht, rfl⟩ := Option.map_eq_some_iff.mp ha
      exact .editSpec ht
  | editStatus key status =>
      obtain ⟨t, ht, rfl⟩ := Option.map_eq_some_iff.mp ha
      exact .editStatus ht
  | deleteTask key =>
      obtain ⟨t, ht, rfl⟩ := Option.map_eq_some_iff.mp ha
      exact .deleteTask ht
  | terminateTask key =>
      obtain ⟨t, ht, rfl⟩ := Option.map_eq_some_iff.mp ha
      exact .terminateTask ht
  | reconcile key fates => exact reconcile_step ha
  | collectConfigMap key => exact collectConfigMap_step ha
  | collectNetworkPolicy key => exact collectNetworkPolicy_step ha
  | collectPod key => exact collectPod_step ha
  | setPodStatus key status =>
      obtain ⟨p, hp, rfl⟩ := Option.map_eq_some_iff.mp ha
      exact .setPodStatus hp
  | deletePod key =>
      obtain ⟨p, hp, rfl⟩ := Option.map_eq_some_iff.mp ha
      exact .deletePod hp
  | setClock time =>
      cases ha
      exact .setClock

/-- The other actions leave the tasks and their history. -/
theorem apply_sameTasks {a : Action} {c c' : Cluster}
    (hl : a.leavesTasks = true) (ha : Cluster.apply env a c = some c') :
    SameTasks c c' := by
  cases apply_step ha with
  | collectConfigMap | collectNetworkPolicy | collectPod
  | setPodStatus | deletePod | setClock =>
      exact ⟨rfl, rfl, rfl, rfl, rfl, rfl, rfl⟩
  | createTask | editSpec | editStatus | deleteTask | terminateTask
  | unserved | reconcile => cases hl

end AgentAnvil.Operator
