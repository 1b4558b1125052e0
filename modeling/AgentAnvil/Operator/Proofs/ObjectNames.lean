/-
The names of what the controller makes for a task.

A ConfigMap name is 71 characters longer than the name of its task, and a
NetworkPolicy name 15; both stay subdomains for as long as they are short
enough. The task's name itself is the value of a label, and there the limit
is 63 characters: a task of a longer name gets no pod, however often it is
reconciled (`names_admissible_iff`).
-/
import AgentAnvil.Lib.Dns1123
import AgentAnvil.Operator.Proofs.Settling

namespace AgentAnvil.Operator

open Dns1123

-- ==================================================== statement vocabulary

/-- What is derived from a task before its pod is created has names that
the API server admits. -/
structure NamesAdmissible (env : Env) (t : AgentTask) : Prop where
  configMap : IsSubdomain (buildConfigMapName env t)
  networkPolicy : IsSubdomain (buildNetworkPolicy t.nameSpace t.name).name
  selector : ∀ kv ∈ (buildNetworkPolicy t.nameSpace t.name).podSelector,
    IsLabelValue kv.2
  labels : ∀ kv ∈ (buildPodForAgentTask env t).labels, IsLabelValue kv.2

def servedIf (p : Prop) [Decidable p] : CallFate :=
  if p then .served else .failed

/-- Every call is served, but for the creation of an object of the task
that the server does not admit for its names. -/
def validated (env : Env) (t : AgentTask) (podSuffix : String) : CallFates :=
  { served podSuffix with
    createConfigMap := servedIf (IsSubdomain (buildConfigMapName env t))
    createNetworkPolicy := servedIf
      (IsSubdomain (buildNetworkPolicy t.nameSpace t.name).name ∧
        ∀ kv ∈ (buildNetworkPolicy t.nameSpace t.name).podSelector,
          IsLabelValue kv.2)
    createPod := servedIf
      (∀ kv ∈ (buildPodForAgentTask env t).labels, IsLabelValue kv.2) }

/-- A task that is to get its pod. -/
structure AwaitsPod (t : AgentTask) (c : Cluster) : Prop where
  stored : c.agentTasks t.key = some t
  kept : t.deletionTimestamp = none
  pending : t.status.phase = .pending
  podless : t.status.podName = ""

/-- A Reconcile of a task moves it on to Provisioning. -/
def LeavesPending (env : Env) (t : AgentTask) (podSuffix : String)
    (c : Cluster) : Prop :=
  ((reconcile env (validated env t podSuffix) t.key c).2.agentTasks
    t.key).map (fun t => t.status.phase) = some .provisioning

-- ============================================================== the names

section

variable {env : Env} {t : AgentTask} {specBytes : Bytes}

/-- A hash is of characters that may stand in a label. -/
theorem hexdigest_labelChars (bytes : Bytes) :
    (Sha256.hexdigest bytes).toList.all isLabelChar = true := by
  have hdigit : ∀ n < 16, isLabelChar (Sha256.hexDigit n) = true := by
    decide
  rw [List.all_eq_true]
  intro c hc
  rw [Sha256.hexdigest, String.toList_ofList] at hc
  obtain ⟨b, -, hb⟩ := List.mem_flatMap.mp hc
  have hbyte := b.toNat_lt
  simp only [Sha256.hexByte, List.mem_cons, List.not_mem_nil, or_false] at hb
  rcases hb with rfl | rfl
  · exact hdigit _ (by omega)
  · exact hdigit _ (by omega)

/-- The policy's name adds a suffix that fits. -/
theorem networkPolicy_admissible (hname : IsSubdomain t.name)
    (hlength : t.name.toList.length ≤ 63) :
    IsSubdomain (buildNetworkPolicy t.nameSpace t.name).name := by
  have hsuffix : "-network-policy".toList.length = 15 := by
    decide
  refine ⟨?_, ?_⟩
  · show (t.name ++ "-network-policy").toList.length ≤ 253
    rw [String.toList_append, List.length_append, hsuffix]
    omega
  · show SubdomainText (t.name ++ "-network-policy").toList
    rw [String.toList_append]
    exact subdomainText_append hname.2 (by decide) (by decide)

/-- The ConfigMap's name adds a hash, which fits as well. -/
theorem configMap_admissible (hname : IsSubdomain t.name)
    (hlength : t.name.toList.length ≤ 63)
    (hspec : env.yamlMarshal t.spec = some specBytes) :
    IsSubdomain (buildConfigMapName env t) := by
  have htext : (buildConfigMapName env t).toList
      = t.name.toList
        ++ ((calculateSpecHash specBytes).toList ++ "-config".toList) := by
    rw [buildConfigMapName_eq hspec, String.toList_append,
      String.toList_append, List.append_assoc]
  have hsuffix : "-config".toList.length = 7 := by
    decide
  refine ⟨?_, ?_⟩
  · rw [htext, List.length_append, List.length_append,
      calculateSpecHash_length, hsuffix]
    omega
  · rw [htext]
    refine subdomainText_append hname.2 ?_ ?_
    · rw [List.all_append, calculateSpecHash, hexdigest_labelChars]
      decide
    · rw [List.getLast?_append_of_ne_nil _ (by decide)]
      decide

/-- The names are admissible up to 63 characters, if the spec has a
text. -/
theorem namesAdmissible_iff (hname : IsSubdomain t.name) :
    NamesAdmissible env t
      ↔ t.name.toList.length ≤ 63 ∧ env.yamlMarshal t.spec ≠ none := by
  constructor
  · intro h
    refine ⟨(isLabelValue_iff hname).mp
      (h.labels ("agenttask", t.name) (List.mem_singleton_self _)), ?_⟩
    intro hspec
    have hempty : ¬ IsSubdomain "" := by
      decide
    have hconfigMap := h.configMap
    unfold buildConfigMapName at hconfigMap
    rw [hspec] at hconfigMap
    exact hempty hconfigMap
  · rintro ⟨hlength, hspec⟩
    obtain ⟨specBytes, hspec⟩ := Option.ne_none_iff_exists'.mp hspec
    have hvalue := (isLabelValue_iff hname).mpr hlength
    refine ⟨configMap_admissible hname hlength hspec,
      networkPolicy_admissible hname hlength, ?_, ?_⟩
    · intro kv hkv
      rw [List.mem_singleton.mp hkv]
      exact hvalue
    · intro kv hkv
      rw [List.mem_singleton.mp hkv]
      exact hvalue

end

-- ============================================================ the Reconcile

section

variable {env : Env} {t : AgentTask} {c : Cluster} {suffix : String}

/-- The server refuses nothing of a task whose names are admissible. -/
theorem validated_eq (h : NamesAdmissible env t) :
    validated env t suffix = served suffix := by
  unfold validated servedIf
  rw [if_pos h.configMap, if_pos ⟨h.networkPolicy, h.selector⟩,
    if_pos h.labels]
  rfl

/-- It refuses the pod of a task whose name is no label value. -/
theorem validated_refuses (h : ¬ IsLabelValue t.name) :
    (validated env t suffix).createPod = .failed := by
  refine if_neg fun hlabels => h ?_
  exact hlabels ("agenttask", t.name) (List.mem_singleton_self _)

/-- A task that awaits its pod is handled by the Pending branch. -/
theorem AwaitsPod.reconcile (h : AwaitsPod t c) :
    reconcile env (validated env t suffix) t.key c
      = createPodForTask env (validated env t suffix) t c := by
  simp [Operator.reconcile, validated, served, ReadFate.read, h.stored,
    h.kept, h.pending, h.podless]

theorem ensureConfigMap_served (hpod : t.status.podName = "") :
    (ensureConfigMapForPod env (served suffix) t c).1 = .ok () := by
  cases hread : c.configMaps ⟨t.nameSpace, buildConfigMapName env t⟩ with
  | some cm =>
      simp only [ensureConfigMapForPod, served, ReadFate.read, hread]
  | none =>
      simp only [ensureConfigMapForPod, served, ReadFate.read, hread, hpod,
        and_self, if_true, buildConfigMapForAgentTask]
      cases env.yamlMarshal t.spec with
      | none => rfl
      | some yamlBytes =>
          simp only [CallFate.send, Cluster.createConfigMap, hread]

theorem ensureNetworkPolicy_served :
    (ensureNetworkPolicyForPod (served suffix) t c).1 = .ok () := by
  cases hread : c.networkPolicies
      ⟨(buildNetworkPolicy t.nameSpace t.name).nameSpace,
        (buildNetworkPolicy t.nameSpace t.name).name⟩ with
  | some np =>
      simp only [ensureNetworkPolicyForPod, served, ReadFate.read, hread]
  | none =>
      simp only [ensureNetworkPolicyForPod, served, ReadFate.read, hread,
        if_true, CallFate.send, Cluster.createNetworkPolicy]

/-- A pod that is made is recorded in the status. -/
theorem createPodForTask_made {fates : CallFates} {c' : Cluster}
    (hprepared : Prepared env fates t c c')
    (hserved : fates.createPod = .served)
    (hfresh : (madePod env fates t).key ∉ c'.podNames) :
    createPodForTask env fates t c
      = updateStatus fates (c'.addPod t (madePod env fates t)) t
          { t.status with
            podName := (madePod env fates t).name
            phase := .provisioning } := by
  obtain ⟨c₁, hcm, hnp⟩ := hprepared
  simp only [createPodForTask, hcm, hnp, hserved]
  rw [Cluster.createPod_of_free hfresh]
  rfl

/-- Where every call is served, a task gets its pod. -/
theorem createPodForTask_leaves (h : AwaitsPod t c)
    (hfresh : (madePod env (served suffix) t).key ∉ c.podNames) :
    ((createPodForTask env (served suffix) t c).2.agentTasks t.key).map
        (fun t => t.status.phase) = some .provisioning := by
  have hprepared : ∃ c', Prepared env (served suffix) t c c' :=
    ⟨_, _, Prod.ext (ensureConfigMap_served h.podless) rfl,
      Prod.ext ensureNetworkPolicy_served rfl⟩
  obtain ⟨c', hprepared⟩ := hprepared
  obtain ⟨f, g, hframe⟩ := hprepared.frame
  have hstored : c'.agentTasks t.key = some t := by
    rw [hframe]
    exact h.stored
  rw [createPodForTask_made hprepared rfl (by rw [hframe]; exact hfresh)]
  obtain ⟨⟨⟨v, hwrote⟩, -, -, -⟩, -⟩ := updateStatus_served suffix
    (show (c'.addPod t (madePod env (served suffix) t)).agentTasks t.key
      = some t from hstored)
    { t.status with
      podName := (madePod env (served suffix) t).name
      phase := .provisioning }
  rw [hwrote, Function.update_self]
  rfl

/-- Where the pod is refused, the stored task stays as it is. -/
theorem createPodForTask_refused {fates : CallFates}
    (hrefused : fates.createPod = .failed) :
    (createPodForTask env fates t c).2.agentTasks = c.agentTasks := by
  obtain ⟨f, hf⟩ := ensureConfigMap_frame env fates t c
  rcases hcm : ensureConfigMapForPod env fates t c with ⟨r₁, c₁⟩
  rw [hcm] at hf
  obtain ⟨g, hg⟩ := ensureNetworkPolicy_frame fates t c₁
  rcases hnp : ensureNetworkPolicyForPod fates t c₁ with ⟨r₂, c₂⟩
  rw [hnp] at hg
  simp only at hf hg
  simp only [createPodForTask, hcm]
  cases r₁ with
  | error err => rw [hf]
  | ok _ =>
      simp only [hnp, hrefused, CallFate.send]
      cases r₂ with
      | error err => rw [hg, hf]
      | ok _ => rw [hg, hf]

end

/-- The names that are derived from a task are admissible, and it leaves
Pending, if and only if its own name has at most 63 characters and its spec
has a text. A task of a longer name stays as it is. -/
theorem names_admissible_iff {env : Env} {t : AgentTask} {c : Cluster}
    {suffix : String} (hname : IsSubdomain t.name) (hawaits : AwaitsPod t c)
    (hfresh : (madePod env (served suffix) t).key ∉ c.podNames) :
    (NamesAdmissible env t ∧ LeavesPending env t suffix c
      ↔ t.name.toList.length ≤ 63 ∧ env.yamlMarshal t.spec ≠ none) ∧
    (63 < t.name.toList.length →
      (reconcile env (validated env t suffix) t.key c).2.agentTasks
        = c.agentTasks) := by
  constructor
  · rw [← namesAdmissible_iff hname]
    refine and_iff_left_of_imp fun h => ?_
    unfold LeavesPending
    rw [hawaits.reconcile, validated_eq h]
    exact createPodForTask_leaves hawaits hfresh
  · intro hlength
    rw [hawaits.reconcile]
    exact createPodForTask_refused (validated_refuses fun hvalue =>
      Nat.not_le.mpr hlength hvalue.1)

-- ================================================================ examples

namespace Sample

/-- A cluster with one task of this name, which awaits its pod. -/
def awaiting (name : String) : AgentTask :=
  { task pendingStatus with name }

def clusterAwaiting (name : String) : Cluster :=
  { Cluster.init with
    agentTasks := Function.update Cluster.init.agentTasks
      (awaiting name).key (some (awaiting name)) }

theorem awaiting_awaitsPod (name : String) :
    AwaitsPod (awaiting name) (clusterAwaiting name) :=
  ⟨Function.update_self .., rfl, rfl, rfl⟩

/-- One character more than a label value may have. -/
def longName : String := String.ofList (List.replicate 64 'a')

end Sample

open Sample in
/-- A short name. -/
theorem names_admissible_demo :
    (NamesAdmissible demo (awaiting "demo") ∧
        LeavesPending demo (awaiting "demo") "x7k2p" (clusterAwaiting "demo")
      ↔ "demo".toList.length ≤ 63 ∧
          demo.yamlMarshal (awaiting "demo").spec ≠ none) ∧
    (63 < "demo".toList.length →
      (reconcile demo (validated demo (awaiting "demo") "x7k2p")
        (awaiting "demo").key (clusterAwaiting "demo")).2.agentTasks
        = (clusterAwaiting "demo").agentTasks) := by
  have hname : IsSubdomain (awaiting "demo").name := by
    decide
  exact names_admissible_iff hname (awaiting_awaitsPod "demo")
    List.not_mem_nil

open Sample in
/-- A task that the server admits and whose pod it refuses. -/
theorem long_name_stays_pending :
    IsSubdomain (awaiting longName).name ∧
      ¬ NamesAdmissible demo (awaiting longName) ∧
      ¬ LeavesPending demo (awaiting longName) "x7k2p"
        (clusterAwaiting longName) := by
  have hname : IsSubdomain (awaiting longName).name := by
    decide +kernel
  have hlong : ¬ IsLabelValue (awaiting longName).name := by
    decide +kernel
  have hrefused : (validated demo (awaiting longName) "x7k2p").createPod
      = .failed :=
    validated_refuses hlong
  refine ⟨hname, ?_, ?_⟩
  · intro hadmissible
    exact hlong (hadmissible.labels ("agenttask", longName)
      (List.mem_singleton_self _))
  · intro hleaves
    have hawaits := awaiting_awaitsPod longName
    unfold LeavesPending at hleaves
    rw [hawaits.reconcile, createPodForTask_refused hrefused,
      hawaits.stored] at hleaves
    cases hleaves

end AgentAnvil.Operator
