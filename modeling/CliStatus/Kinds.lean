import CliStatus.Dispatch

/-!
# Readiness of each kind through `IsReady`

What `IsReady` reports for a Deployment, a StatefulSet, a ReplicaSet, a DaemonSet, a Pod, a Job,
a PodDisruptionBudget, a Service, a PersistentVolumeClaim and a kind without a dedicated evaluator,
from the dispatch table and the evaluators' own lemmas. The StatefulSet partition check computes
`spec.replicas - partition` in Go `int`, which wraps: the verdict is the exact one whenever the
difference fits, and the last theorem evaluates the code where it does not.

The evaluators see the entries of `status.conditions` through `GetConditions`, which returns none
of them when one element of the list is not a map. Next to the Deployment, ReplicaSet, Pod and
Job results stands an object of that kind whose entries would decide otherwise.
-/

namespace CliStatus

/-- Objects that declare a group and kind and nothing else. -/
def kindObject (apiVersion kind : String) : Unstructured :=
  ⟨[("apiVersion", .str apiVersion), ("kind", .str kind)]⟩

/-- A `status.conditions` entry with a type, a status and a reason. -/
def conditionValue (type status reason : String) : Value :=
  .map [("type", .str type), ("status", .str status), ("reason", .str reason)]

/-- An object whose `status` holds the given fields and a `conditions` list of any decoded values. -/
def statusObject (apiVersion kind : String) (status : Object) (conditions : List Value) : Unstructured :=
  ⟨[("apiVersion", .str apiVersion), ("kind", .str kind),
    ("status", .map (status ++ [("conditions", .list conditions)]))]⟩

theorem isReady_deployment (u : Unstructured) (hg : u.groupVersionKind.group = "apps")
    (hk : u.groupVersionKind.kind = "Deployment") :
    let obj := u.object
    ∃ c, isReady u = ([c], none) ∧ c.type = .ready ∧
      (c.status = "True" ↔
        getIntField obj ".status.observedGeneration" (-1) = getIntField obj ".metadata.generation" (-1) ∧
        (¬∃ c ∈ getConditions obj, getStringField c ".type" "" = "Progressing" ∧
          getStringField c ".reason" "" = "ProgressDeadlineExceeded") ∧
        getIntField obj ".spec.replicas" 1 ≤ getIntField obj ".status.updatedReplicas" 0 ∧
        getIntField obj ".status.replicas" 0 ≤ getIntField obj ".status.updatedReplicas" 0 ∧
        getIntField obj ".status.updatedReplicas" 0 ≤ getIntField obj ".status.availableReplicas" 0 ∧
        getIntField obj ".spec.replicas" 1 ≤ getIntField obj ".status.readyReplicas" 0 ∧
        getIntField obj ".spec.replicas" 1 ≤ getIntField obj ".status.replicas" 0 ∧
        (∃ c ∈ getConditions obj, getStringField c ".type" "" = "Progressing" ∧
          getStringField c ".status" "" = "True" ∧ getStringField c ".reason" "" = "NewReplicaSetAvailable") ∧
        (∃ c ∈ getConditions obj, getStringField c ".type" "" = "Available" ∧
          getStringField c ".status" "" = "True")) := by
  rw [isReady_of_getLegacyReadyFn (getLegacyReadyFn_of_groupVersionKind hg hk)]
  exact deploymentConditions_verdict u

theorem isReady_deployment_kindObject :
    let u := kindObject "apps/v1" "Deployment"
    (u.groupVersionKind.group = "apps" ∧ u.groupVersionKind.kind = "Deployment") ∧
    let obj := u.object
    ∃ c, isReady u = ([c], none) ∧ c.type = .ready ∧
      (c.status = "True" ↔
        getIntField obj ".status.observedGeneration" (-1) = getIntField obj ".metadata.generation" (-1) ∧
        (¬∃ c ∈ getConditions obj, getStringField c ".type" "" = "Progressing" ∧
          getStringField c ".reason" "" = "ProgressDeadlineExceeded") ∧
        getIntField obj ".spec.replicas" 1 ≤ getIntField obj ".status.updatedReplicas" 0 ∧
        getIntField obj ".status.replicas" 0 ≤ getIntField obj ".status.updatedReplicas" 0 ∧
        getIntField obj ".status.updatedReplicas" 0 ≤ getIntField obj ".status.availableReplicas" 0 ∧
        getIntField obj ".spec.replicas" 1 ≤ getIntField obj ".status.readyReplicas" 0 ∧
        getIntField obj ".spec.replicas" 1 ≤ getIntField obj ".status.replicas" 0 ∧
        (∃ c ∈ getConditions obj, getStringField c ".type" "" = "Progressing" ∧
          getStringField c ".status" "" = "True" ∧ getStringField c ".reason" "" = "NewReplicaSetAvailable") ∧
        (∃ c ∈ getConditions obj, getStringField c ".type" "" = "Available" ∧
          getStringField c ".status" "" = "True")) :=
  ⟨⟨by decide, by decide⟩, isReady_deployment _ (by decide) (by decide)⟩

/-- The two entries a ready Deployment needs stand in `status.conditions`, but a `null` element
after them makes `GetConditions` drop the whole list, so the Deployment is not progressing. -/
theorem isReady_deployment_nullElement :
    let u := statusObject "apps/v1" "Deployment"
      [("replicas", .int 1), ("updatedReplicas", .int 1), ("availableReplicas", .int 1), ("readyReplicas", .int 1)]
      [conditionValue "Progressing" "True" "NewReplicaSetAvailable", conditionValue "Available" "True" "", .null]
    getConditions u.object = [] ∧
      isReady u = ([⟨.ready, "False", "New ReplicaSet is not available"⟩], none) :=
  ⟨rfl, rfl⟩

theorem isReady_replicaSet (u : Unstructured) (hg : u.groupVersionKind.group = "apps")
    (hk : u.groupVersionKind.kind = "ReplicaSet") :
    let obj := u.object
    ∃ c, isReady u = ([c], none) ∧ c.type = .ready ∧
      (c.status = "True" ↔
        getIntField obj ".status.observedGeneration" (-1) = getIntField obj ".metadata.generation" (-1) ∧
        (¬∃ c ∈ getConditions obj, getStringField c ".type" "" = "ReplicaFailure" ∧
          getStringField c ".status" "" = "True") ∧
        ¬(getIntField obj ".spec.replicas" 1 = 0 ∧ getIntField obj ".status.labelledReplicas" 0 = 0 ∧
          getIntField obj ".status.availableReplicas" 0 = 0 ∧ getIntField obj ".status.readyReplicas" 0 = 0) ∧
        getIntField obj ".spec.replicas" 1 ≤ getIntField obj ".status.labelledReplicas" 0 ∧
        getIntField obj ".spec.replicas" 1 ≤ getIntField obj ".status.availableReplicas" 0 ∧
        getIntField obj ".spec.replicas" 1 ≤ getIntField obj ".status.readyReplicas" 0) := by
  rw [isReady_of_getLegacyReadyFn (getLegacyReadyFn_of_groupVersionKind hg hk)]
  exact replicasetConditions_verdict u

theorem isReady_replicaSet_kindObject :
    let u := kindObject "apps/v1" "ReplicaSet"
    (u.groupVersionKind.group = "apps" ∧ u.groupVersionKind.kind = "ReplicaSet") ∧
    let obj := u.object
    ∃ c, isReady u = ([c], none) ∧ c.type = .ready ∧
      (c.status = "True" ↔
        getIntField obj ".status.observedGeneration" (-1) = getIntField obj ".metadata.generation" (-1) ∧
        (¬∃ c ∈ getConditions obj, getStringField c ".type" "" = "ReplicaFailure" ∧
          getStringField c ".status" "" = "True") ∧
        ¬(getIntField obj ".spec.replicas" 1 = 0 ∧ getIntField obj ".status.labelledReplicas" 0 = 0 ∧
          getIntField obj ".status.availableReplicas" 0 = 0 ∧ getIntField obj ".status.readyReplicas" 0 = 0) ∧
        getIntField obj ".spec.replicas" 1 ≤ getIntField obj ".status.labelledReplicas" 0 ∧
        getIntField obj ".spec.replicas" 1 ≤ getIntField obj ".status.availableReplicas" 0 ∧
        getIntField obj ".spec.replicas" 1 ≤ getIntField obj ".status.readyReplicas" 0) :=
  ⟨⟨by decide, by decide⟩, isReady_replicaSet _ (by decide) (by decide)⟩

/-- A `ReplicaFailure=True` entry followed by an element that is not a map: `GetConditions` drops
the list and the failure is not seen. -/
theorem isReady_replicaSet_stringElement :
    let u := statusObject "apps/v1" "ReplicaSet"
      [("replicas", .int 1), ("labelledReplicas", .int 1), ("availableReplicas", .int 1), ("readyReplicas", .int 1)]
      [conditionValue "ReplicaFailure" "True" "FailedCreate", .str "x"]
    getConditions u.object = [] ∧
      isReady u = ([⟨.ready, "True", "ReplicaSet is available. Replicas: 1"⟩], none) :=
  ⟨rfl, rfl⟩

theorem isReady_generic (u : Unstructured) (h : getLegacyReadyFn u = none) :
    let obj := u.object
    let g := getIntField obj ".metadata.generation" (-1)
    let o := getIntField obj ".status.observedGeneration" g
    let R := (getConditions obj).filter (fun c => getStringField c "type" "" = "Ready")
    isReady u =
      (if o ≠ g then [⟨.ready, "False", generationMismatch⟩]
        else if R.isEmpty then [⟨.ready, "True", "No Ready condition found"⟩]
        else R.map (fun c => ⟨.ready, if getStringField c "status" "" = "False" then "False" else "True",
          getStringField c "reason" ""⟩), none) := by
  rw [isReady_of_getLegacyReadyFn_none h]
  exact readyConditionReader_eq u

theorem isReady_generic_kindObject :
    let u := kindObject "example.com/v1" "Widget"
    getLegacyReadyFn u = none ∧
    let obj := u.object
    let g := getIntField obj ".metadata.generation" (-1)
    let o := getIntField obj ".status.observedGeneration" g
    let R := (getConditions obj).filter (fun c => getStringField c "type" "" = "Ready")
    isReady u =
      (if o ≠ g then [⟨.ready, "False", generationMismatch⟩]
        else if R.isEmpty then [⟨.ready, "True", "No Ready condition found"⟩]
        else R.map (fun c => ⟨.ready, if getStringField c "status" "" = "False" then "False" else "True",
          getStringField c "reason" ""⟩), none) :=
  ⟨rfl, isReady_generic _ rfl⟩

theorem isReady_pod (u : Unstructured) (hg : u.groupVersionKind.group = "")
    (hk : u.groupVersionKind.kind = "Pod") :
    let p := getStringField u.object ".status.phase" "unknown"
    let R := (getConditions u.object).filter (fun c => getStringField c ".type" "" = "Ready")
    (R = [] → isReady u = ([⟨.ready, "False", "Phase: " ++ p⟩], none)) ∧
    ∀ c, R = [c] →
      let s := getStringField c "status" ""
      let r := getStringField c "reason" ""
      isReady u =
        ((if s ≠ "True" ∧ r = "PodCompleted" then
            [if p = "Succeeded" then ⟨.completed, "True", "Pod Succeeded"⟩
              else ⟨.failed, "True", s!"Pod phase: {p}"⟩] else []) ++
          [⟨.ready, if s = "True" ∨ r = "PodCompleted" then "True" else "False",
            if r = "" then "Phase: " ++ p else "Phase: " ++ p ++ ", " ++ r⟩], none) := by
  rw [isReady_of_getLegacyReadyFn (getLegacyReadyFn_of_groupVersionKind hg hk)]
  exact ⟨podConditions_of_filter_eq_nil u, fun c hc => podConditions_of_filter_eq_single u hc⟩

theorem isReady_pod_kindObject :
    let u := kindObject "v1" "Pod"
    (u.groupVersionKind.group = "" ∧ u.groupVersionKind.kind = "Pod") ∧
    let p := getStringField u.object ".status.phase" "unknown"
    let R := (getConditions u.object).filter (fun c => getStringField c ".type" "" = "Ready")
    (R = [] → isReady u = ([⟨.ready, "False", "Phase: " ++ p⟩], none)) ∧
    ∀ c, R = [c] →
      let s := getStringField c "status" ""
      let r := getStringField c "reason" ""
      isReady u =
        ((if s ≠ "True" ∧ r = "PodCompleted" then
            [if p = "Succeeded" then ⟨.completed, "True", "Pod Succeeded"⟩
              else ⟨.failed, "True", s!"Pod phase: {p}"⟩] else []) ++
          [⟨.ready, if s = "True" ∨ r = "PodCompleted" then "True" else "False",
            if r = "" then "Phase: " ++ p else "Phase: " ++ p ++ ", " ++ r⟩], none) :=
  ⟨⟨by decide, by decide⟩, isReady_pod _ (by decide) (by decide)⟩

/-- A running pod whose one `Ready` entry is `True`, followed by an element that is not a map:
`GetConditions` drops the list and the pod is reported not ready. -/
theorem isReady_pod_stringElement :
    let u := statusObject "v1" "Pod" [("phase", .str "Running")] [conditionValue "Ready" "True" "", .str "x"]
    getConditions u.object = [] ∧ isReady u = ([⟨.ready, "False", "Phase: Running"⟩], none) :=
  ⟨rfl, rfl⟩

/-- A Pod with any number of `Ready` entries: the last one decides the status and reason of the
`Ready` condition, and every entry that reports a completed pod adds a terminal condition before
it. -/
theorem isReady_pod_lastReady (u : Unstructured) (hg : u.groupVersionKind.group = "")
    (hk : u.groupVersionKind.kind = "Pod") (pre : List Object) (c : Object)
    (hR : (getConditions u.object).filter (fun d => getStringField d ".type" "" = "Ready") = pre ++ [c]) :
    let p := getStringField u.object ".status.phase" "unknown"
    let s := getStringField c "status" ""
    let r := getStringField c "reason" ""
    isReady u =
      (((getConditions u.object).filter fun d => getStringField d ".type" "" = "Ready" ∧
          getStringField d "status" "" ≠ "True" ∧ getStringField d "reason" "" = "PodCompleted").map
          (fun _ => if p = "Succeeded" then ⟨.completed, "True", "Pod Succeeded"⟩
            else ⟨.failed, "True", s!"Pod phase: {p}"⟩) ++
        [⟨.ready, if s = "True" ∨ r = "PodCompleted" then "True" else "False",
          if r = "" then "Phase: " ++ p else "Phase: " ++ p ++ ", " ++ r⟩], none) := by
  rw [isReady_of_getLegacyReadyFn (getLegacyReadyFn_of_groupVersionKind hg hk)]
  exact podConditions_of_filter_eq_append u hR

theorem isReady_pod_lastReady_twoEntries :
    let e := fun (s r : String) => ([("type", .str "Ready"), ("status", .str s), ("reason", .str r)] : Object)
    let u : Unstructured := ⟨[("apiVersion", .str "v1"), ("kind", .str "Pod"), ("status", .map
      [("phase", .str "Succeeded"), ("conditions", .list [.map (e "False" "PodCompleted"), .map (e "True" "")])])]⟩
    (u.groupVersionKind.group = "" ∧ u.groupVersionKind.kind = "Pod" ∧
      (getConditions u.object).filter (fun d => getStringField d ".type" "" = "Ready") =
        [e "False" "PodCompleted"] ++ [e "True" ""]) ∧
    isReady u = ([⟨.completed, "True", "Pod Succeeded"⟩, ⟨.ready, "True", "Phase: Succeeded"⟩], none) := by
  intro e u
  have hg : u.groupVersionKind.group = "" := by decide
  have hk : u.groupVersionKind.kind = "Pod" := by decide
  have hR : (getConditions u.object).filter (fun d => getStringField d ".type" "" = "Ready") =
      [e "False" "PodCompleted"] ++ [e "True" ""] := rfl
  exact ⟨⟨hg, hk, hR⟩, (isReady_pod_lastReady u hg hk _ _ hR).trans rfl⟩

theorem isReady_job (u : Unstructured) (hg : u.groupVersionKind.group = "batch")
    (hk : u.groupVersionKind.kind = "Job") :
    let obj := u.object
    let finished := fun c => (getStringField c ".type" "" = "Complete" ∨
      getStringField c ".type" "" = "Failed") ∧ getStringField c ".status" "" = "True"
    (∀ pre c post, getConditions obj = pre ++ c :: post → (∀ d ∈ pre, ¬finished d) → finished c →
      ∃ m, isReady u = ([⟨.ready, "True", m⟩,
        ⟨if getStringField c ".type" "" = "Complete" then .completed else .failed, "True", m⟩], none)) ∧
    ((∀ c ∈ getConditions obj, ¬finished c) →
      ∃ m, isReady u =
        ([⟨.ready, if getStringField obj ".status.startTime" "" = "" then "False" else "True", m⟩], none)) := by
  rw [isReady_of_getLegacyReadyFn (getLegacyReadyFn_of_groupVersionKind hg hk)]
  dsimp only [jobConditions, Unstructured.unstructuredContent]
  rw [jobScan_eq]
  refine ⟨fun pre c post hcs hpre hc => ?_, fun hnone => ?_⟩
  · have hfind : (getConditions u.object).find? isJobFinishedEntry = some c := by
      rw [hcs, List.find?_append, List.find?_eq_none.2 (by simpa [isJobFinishedEntry] using hpre),
        List.find?_cons_of_pos _ (by simpa [isJobFinishedEntry] using hc)]
      rfl
    rw [hfind, Option.map_some', jobFinished]
    split_ifs <;> exact ⟨_, rfl⟩
  · rw [List.find?_eq_none.2 (by simpa [isJobFinishedEntry] using hnone), Option.map_none']
    split_ifs <;> exact ⟨_, rfl⟩

theorem isReady_job_kindObject :
    let u := kindObject "batch/v1" "Job"
    (u.groupVersionKind.group = "batch" ∧ u.groupVersionKind.kind = "Job") ∧
    let obj := u.object
    let finished := fun c => (getStringField c ".type" "" = "Complete" ∨
      getStringField c ".type" "" = "Failed") ∧ getStringField c ".status" "" = "True"
    (∀ pre c post, getConditions obj = pre ++ c :: post → (∀ d ∈ pre, ¬finished d) → finished c →
      ∃ m, isReady u = ([⟨.ready, "True", m⟩,
        ⟨if getStringField c ".type" "" = "Complete" then .completed else .failed, "True", m⟩], none)) ∧
    ((∀ c ∈ getConditions obj, ¬finished c) →
      ∃ m, isReady u =
        ([⟨.ready, if getStringField obj ".status.startTime" "" = "" then "False" else "True", m⟩], none)) :=
  ⟨⟨by decide, by decide⟩, isReady_job _ (by decide) (by decide)⟩

/-- A `Complete=True` entry followed by an element that is not a map: `GetConditions` drops the
list, and a job without `status.startTime` is reported not started. -/
theorem isReady_job_stringElement :
    let u := statusObject "batch/v1" "Job" [("succeeded", .int 1)] [conditionValue "Complete" "True" "", .str "x"]
    getConditions u.object = [] ∧ isReady u = ([⟨.ready, "False", "Job not started"⟩], none) :=
  ⟨rfl, rfl⟩

/-- A DaemonSet is ready when its generation is observed, `status.desiredNumberScheduled` is set,
and the scheduled, updated, available and ready counts each reach it. -/
theorem isReady_daemonSet (u : Unstructured) (hg : u.groupVersionKind.group = "apps")
    (hk : u.groupVersionKind.kind = "DaemonSet") :
    let obj := u.object
    ∃ c, isReady u = ([c], none) ∧ c.type = .ready ∧
      (c.status = "True" ↔
        getIntField obj ".status.observedGeneration" (-1) = getIntField obj ".metadata.generation" (-1) ∧
        getIntField obj ".status.desiredNumberScheduled" (-1) ≠ -1 ∧
        getIntField obj ".status.desiredNumberScheduled" (-1) ≤ getIntField obj ".status.currentNumberScheduled" 0 ∧
        getIntField obj ".status.desiredNumberScheduled" (-1) ≤ getIntField obj ".status.updatedNumberScheduled" 0 ∧
        getIntField obj ".status.desiredNumberScheduled" (-1) ≤ getIntField obj ".status.numberAvailable" 0 ∧
        getIntField obj ".status.desiredNumberScheduled" (-1) ≤ getIntField obj ".status.numberReady" 0) := by
  rw [isReady_of_getLegacyReadyFn (getLegacyReadyFn_of_groupVersionKind hg hk)]
  exact daemonsetConditions_verdict u

theorem isReady_daemonSet_kindObject :
    let u := kindObject "apps/v1" "DaemonSet"
    (u.groupVersionKind.group = "apps" ∧ u.groupVersionKind.kind = "DaemonSet") ∧
    let obj := u.object
    ∃ c, isReady u = ([c], none) ∧ c.type = .ready ∧
      (c.status = "True" ↔
        getIntField obj ".status.observedGeneration" (-1) = getIntField obj ".metadata.generation" (-1) ∧
        getIntField obj ".status.desiredNumberScheduled" (-1) ≠ -1 ∧
        getIntField obj ".status.desiredNumberScheduled" (-1) ≤ getIntField obj ".status.currentNumberScheduled" 0 ∧
        getIntField obj ".status.desiredNumberScheduled" (-1) ≤ getIntField obj ".status.updatedNumberScheduled" 0 ∧
        getIntField obj ".status.desiredNumberScheduled" (-1) ≤ getIntField obj ".status.numberAvailable" 0 ∧
        getIntField obj ".status.desiredNumberScheduled" (-1) ≤ getIntField obj ".status.numberReady" 0) :=
  ⟨⟨by decide, by decide⟩, isReady_daemonSet _ (by decide) (by decide)⟩

/-- A PodDisruptionBudget is ready when `status.desiredHealthy` is set and `status.currentHealthy`
reaches it; its generation is not checked. -/
theorem isReady_podDisruptionBudget (u : Unstructured) (hg : u.groupVersionKind.group = "policy")
    (hk : u.groupVersionKind.kind = "PodDisruptionBudget") :
    ∃ c, isReady u = ([c], none) ∧ c.type = .ready ∧
      (c.status = "True" ↔ getIntField u.object ".status.desiredHealthy" (-1) ≠ -1 ∧
        getIntField u.object ".status.desiredHealthy" (-1) ≤ getIntField u.object ".status.currentHealthy" 0) := by
  rw [isReady_of_getLegacyReadyFn (getLegacyReadyFn_of_groupVersionKind hg hk)]
  exact pdbConditions_verdict u

theorem isReady_podDisruptionBudget_kindObject :
    let u := kindObject "policy/v1beta1" "PodDisruptionBudget"
    (u.groupVersionKind.group = "policy" ∧ u.groupVersionKind.kind = "PodDisruptionBudget") ∧
    ∃ c, isReady u = ([c], none) ∧ c.type = .ready ∧
      (c.status = "True" ↔ getIntField u.object ".status.desiredHealthy" (-1) ≠ -1 ∧
        getIntField u.object ".status.desiredHealthy" (-1) ≤ getIntField u.object ".status.currentHealthy" 0) :=
  ⟨⟨by decide, by decide⟩, isReady_podDisruptionBudget _ (by decide) (by decide)⟩

/-- A Service is ready unless it is of type `LoadBalancer` with no `spec.clusterIP`; a Service
without a type counts as `ClusterIP`. -/
theorem isReady_service (u : Unstructured) (hg : u.groupVersionKind.group = "")
    (hk : u.groupVersionKind.kind = "Service") :
    ∃ c, isReady u = ([c], none) ∧ c.type = .ready ∧
      (c.status = "True" ↔ (getStringField u.object ".spec.type" "ClusterIP" = "LoadBalancer" →
        getStringField u.object ".spec.clusterIP" "" ≠ "")) := by
  rw [isReady_of_getLegacyReadyFn (getLegacyReadyFn_of_groupVersionKind hg hk)]
  exact serviceConditions_verdict u

theorem isReady_service_kindObject :
    let u := kindObject "v1" "Service"
    (u.groupVersionKind.group = "" ∧ u.groupVersionKind.kind = "Service") ∧
    ∃ c, isReady u = ([c], none) ∧ c.type = .ready ∧
      (c.status = "True" ↔ (getStringField u.object ".spec.type" "ClusterIP" = "LoadBalancer" →
        getStringField u.object ".spec.clusterIP" "" ≠ "")) :=
  ⟨⟨by decide, by decide⟩, isReady_service _ (by decide) (by decide)⟩

/-- A PersistentVolumeClaim is ready exactly when its phase is `Bound`. -/
theorem isReady_persistentVolumeClaim (u : Unstructured) (hg : u.groupVersionKind.group = "")
    (hk : u.groupVersionKind.kind = "PersistentVolumeClaim") :
    ∃ c, isReady u = ([c], none) ∧ c.type = .ready ∧
      (c.status = "True" ↔ getStringField u.object ".status.phase" "unknown" = "Bound") := by
  rw [isReady_of_getLegacyReadyFn (getLegacyReadyFn_of_groupVersionKind hg hk)]
  exact pvcConditions_verdict u

theorem isReady_persistentVolumeClaim_kindObject :
    let u := kindObject "v1" "PersistentVolumeClaim"
    (u.groupVersionKind.group = "" ∧ u.groupVersionKind.kind = "PersistentVolumeClaim") ∧
    ∃ c, isReady u = ([c], none) ∧ c.type = .ready ∧
      (c.status = "True" ↔ getStringField u.object ".status.phase" "unknown" = "Bound") :=
  ⟨⟨by decide, by decide⟩, isReady_persistentVolumeClaim _ (by decide) (by decide)⟩

/-- What the code decides for a StatefulSet: the partition branch compares against
`spec.replicas - partition` computed in Go `int`. -/
theorem isReady_statefulSet (u : Unstructured) (hg : u.groupVersionKind.group = "apps")
    (hk : u.groupVersionKind.kind = "StatefulSet") :
    let obj := u.object
    ∃ c, isReady u = ([c], none) ∧ c.type = .ready ∧
      (c.status = "True" ↔
        getStringField obj ".spec.updateStrategy.type" "" = "ondelete" ∨
        (getIntField obj ".status.observedGeneration" (-1) = getIntField obj ".metadata.generation" (-1) ∧
         getIntField obj ".spec.replicas" 1 ≤ getIntField obj ".status.replicas" 0 ∧
         getIntField obj ".spec.replicas" 1 ≤ getIntField obj ".status.readyReplicas" 0 ∧
         (getIntField obj ".spec.updateStrategy.rollingUpdate.partition" (-1) ≠ -1 →
           ¬getIntField obj ".status.updatedReplicas" 0 <
             getIntField obj ".spec.replicas" 1 - getIntField obj ".spec.updateStrategy.rollingUpdate.partition" (-1)) ∧
         (getIntField obj ".spec.updateStrategy.rollingUpdate.partition" (-1) = -1 →
           getIntField obj ".spec.replicas" 1 ≤ getIntField obj ".status.currentReplicas" 0 ∧
           getStringField obj ".status.currentRevision" "" = getStringField obj ".status.updatedRevision" ""))) := by
  rw [isReady_of_getLegacyReadyFn (getLegacyReadyFn_of_groupVersionKind hg hk)]
  exact stsConditions_verdict u

/-- Wrapping never changes the StatefulSet verdict when `spec.replicas - partition` fits in an
`int`: there the partition check compares `status.updatedReplicas` with the exact difference. -/
theorem isReady_statefulSet_exact (u : Unstructured) (hg : u.groupVersionKind.group = "apps")
    (hk : u.groupVersionKind.kind = "StatefulSet")
    (hlo : -9223372036854775808 ≤ (getIntField u.object ".spec.replicas" 1).val -
      (getIntField u.object ".spec.updateStrategy.rollingUpdate.partition" (-1)).val)
    (hhi : (getIntField u.object ".spec.replicas" 1).val -
      (getIntField u.object ".spec.updateStrategy.rollingUpdate.partition" (-1)).val < 9223372036854775808) :
    let obj := u.object
    ∃ c, isReady u = ([c], none) ∧ c.type = .ready ∧
      (c.status = "True" ↔
        getStringField obj ".spec.updateStrategy.type" "" = "ondelete" ∨
        (getIntField obj ".status.observedGeneration" (-1) = getIntField obj ".metadata.generation" (-1) ∧
         getIntField obj ".spec.replicas" 1 ≤ getIntField obj ".status.replicas" 0 ∧
         getIntField obj ".spec.replicas" 1 ≤ getIntField obj ".status.readyReplicas" 0 ∧
         (getIntField obj ".spec.updateStrategy.rollingUpdate.partition" (-1) ≠ -1 →
           (getIntField obj ".spec.replicas" 1).val -
             (getIntField obj ".spec.updateStrategy.rollingUpdate.partition" (-1)).val ≤
             (getIntField obj ".status.updatedReplicas" 0).val) ∧
         (getIntField obj ".spec.updateStrategy.rollingUpdate.partition" (-1) = -1 →
           getIntField obj ".spec.replicas" 1 ≤ getIntField obj ".status.currentReplicas" 0 ∧
           getStringField obj ".status.currentRevision" "" = getStringField obj ".status.updatedRevision" ""))) := by
  obtain ⟨c, hr, ht, hs⟩ := isReady_statefulSet u hg hk
  refine ⟨c, hr, ht, hs.trans ?_⟩
  rw [GoInt.lt_iff, GoInt.val_sub_of_mem hlo hhi, Int.not_lt]

theorem isReady_statefulSet_exact_partitioned :
    let u : Unstructured := ⟨[("apiVersion", .str "apps/v1"), ("kind", .str "StatefulSet"),
      ("spec", .map [("replicas", .int 3), ("updateStrategy", .map [("rollingUpdate", .map [("partition", .int 1)])])]),
      ("status", .map [("replicas", .int 3), ("readyReplicas", .int 3), ("updatedReplicas", .int 2)])]⟩
    (u.groupVersionKind.group = "apps" ∧ u.groupVersionKind.kind = "StatefulSet" ∧
      -9223372036854775808 ≤ (getIntField u.object ".spec.replicas" 1).val -
        (getIntField u.object ".spec.updateStrategy.rollingUpdate.partition" (-1)).val ∧
      (getIntField u.object ".spec.replicas" 1).val -
        (getIntField u.object ".spec.updateStrategy.rollingUpdate.partition" (-1)).val < 9223372036854775808) ∧
    let obj := u.object
    ∃ c, isReady u = ([c], none) ∧ c.type = .ready ∧
      (c.status = "True" ↔
        getStringField obj ".spec.updateStrategy.type" "" = "ondelete" ∨
        (getIntField obj ".status.observedGeneration" (-1) = getIntField obj ".metadata.generation" (-1) ∧
         getIntField obj ".spec.replicas" 1 ≤ getIntField obj ".status.replicas" 0 ∧
         getIntField obj ".spec.replicas" 1 ≤ getIntField obj ".status.readyReplicas" 0 ∧
         (getIntField obj ".spec.updateStrategy.rollingUpdate.partition" (-1) ≠ -1 →
           (getIntField obj ".spec.replicas" 1).val -
             (getIntField obj ".spec.updateStrategy.rollingUpdate.partition" (-1)).val ≤
             (getIntField obj ".status.updatedReplicas" 0).val) ∧
         (getIntField obj ".spec.updateStrategy.rollingUpdate.partition" (-1) = -1 →
           getIntField obj ".spec.replicas" 1 ≤ getIntField obj ".status.currentReplicas" 0 ∧
           getStringField obj ".status.currentRevision" "" = getStringField obj ".status.updatedRevision" ""))) :=
  ⟨⟨by decide, by decide, by decide, by decide⟩,
    isReady_statefulSet_exact _ (by decide) (by decide) (by decide) (by decide)⟩

/-- A StatefulSet whose partition is the least `int`: `1 - partition` wraps to `-2^63 + 1`. -/
def partitionOverflowSts : Unstructured :=
  ⟨[("apiVersion", .str "apps/v1"), ("kind", .str "StatefulSet"),
    ("spec", .map [("replicas", .int64 1),
      ("updateStrategy", .map [("rollingUpdate", .map [("partition", .int64 (GoInt.wrap (-9223372036854775808)))])])]),
    ("status", .map [("replicas", .int64 1), ("readyReplicas", .int64 1)])]⟩

/-- The code reports the partitioned rollout complete with no replica updated, although
`status.updatedReplicas ≥ spec.replicas - partition` fails in exact arithmetic. -/
theorem isReady_partitionOverflowSts :
    isReady partitionOverflowSts = ([⟨.ready, "True", "Partition rollout complete. updated: 0"⟩], none) ∧
      getStringField partitionOverflowSts.object ".spec.updateStrategy.type" "" ≠ "ondelete" ∧
      ¬(getIntField partitionOverflowSts.object ".spec.replicas" 1).val -
          (getIntField partitionOverflowSts.object ".spec.updateStrategy.rollingUpdate.partition" (-1)).val ≤
        (getIntField partitionOverflowSts.object ".status.updatedReplicas" 0).val :=
  ⟨rfl, by decide, by decide⟩

end CliStatus
