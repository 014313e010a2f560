import CliStatus.Condition

/-!
# Evaluators of the `apps` group

`stsConditions`, `deploymentConditions`, `replicasetConditions` and `daemonsetConditions`. Each
starts from a `Ready=False` condition, runs its checks in the source's order and returns the
one condition at its first failing check, or `Ready=True` when all pass. The integer fields are
Go `int`s; the only arithmetic, in the partition check and two messages, wraps.
-/

namespace CliStatus

/-- The reason every generation check reports. -/
def generationMismatch : String :=
  "Controller has not observed the latest change. Status generation does not match with metadata"

def stsConditions (u : Unstructured) : List Condition × Option GoError :=
  let obj := u.unstructuredContent
  let readyCondition := newFalseCondition .ready
  let updateStrategy := getStringField obj ".spec.updateStrategy.type" ""
  if updateStrategy = "ondelete" then
    ([{ readyCondition with status := "True", reason := "ondelete strategy" }], none)
  else
  let observedGeneration := getIntField obj ".status.observedGeneration" (-1)
  let metaGeneration := getIntField obj ".metadata.generation" (-1)
  if observedGeneration ≠ metaGeneration then
    ([{ readyCondition with reason := generationMismatch }], none)
  else
  let specReplicas := getIntField obj ".spec.replicas" 1
  let readyReplicas := getIntField obj ".status.readyReplicas" 0
  let currentReplicas := getIntField obj ".status.currentReplicas" 0
  let updatedReplicas := getIntField obj ".status.updatedReplicas" 0
  let statusReplicas := getIntField obj ".status.replicas" 0
  let partition := getIntField obj ".spec.updateStrategy.rollingUpdate.partition" (-1)
  if specReplicas > statusReplicas then
    ([{ readyCondition with
      reason := s!"Waiting for requested replicas. Replicas: {statusReplicas}/{specReplicas}" }], none)
  else if specReplicas > readyReplicas then
    ([{ readyCondition with
      reason := s!"Waiting for replicas to become Ready. Ready: {readyReplicas}/{specReplicas}" }], none)
  else if partition ≠ -1 then
    if updatedReplicas < specReplicas - partition then
      ([{ readyCondition with reason := s!"Waiting for partition rollout to complete. updated: {updatedReplicas}/{specReplicas - partition}" }],
        none)
    else
      ([{ readyCondition with
        status := "True"
        reason := s!"Partition rollout complete. updated: {updatedReplicas}" }], none)
  else if specReplicas > currentReplicas then
    ([{ readyCondition with
      reason := s!"Waiting for replicas to become current. current: {currentReplicas}/{specReplicas}" }], none)
  else
  let currentRevision := getStringField obj ".status.currentRevision" ""
  let updatedRevision := getStringField obj ".status.updatedRevision" ""
  if currentRevision ≠ updatedRevision then
    ([{ readyCondition with reason := "Waiting for updated revision to match currentd" }], none)
  else
    ([{ readyCondition with
      status := "True"
      reason := s!"All replicas scheduled as expected. Replicas: {statusReplicas}" }], none)

/-- The loop over `status.conditions` in `deploymentConditions`: `none` is its `return` on an
exceeded progress deadline, otherwise the final `progress` and `available` flags. -/
def deploymentScan : List Object → Bool → Bool → Option (Bool × Bool)
  | [], progress, available => some (progress, available)
  | c :: cs, progress, available =>
    let status := getStringField c ".status" ""
    let reason := getStringField c ".reason" ""
    let type := getStringField c ".type" ""
    if type = "Progressing" then
      if reason = "ProgressDeadlineExceeded" then none
      else deploymentScan cs (if status = "True" ∧ reason = "NewReplicaSetAvailable" then true else progress)
        available
    else if type = "Available" then
      deploymentScan cs progress (if status = "True" then true else available)
    else deploymentScan cs progress available

def deploymentConditions (u : Unstructured) : List Condition × Option GoError :=
  let obj := u.unstructuredContent
  let readyCondition := newFalseCondition .ready
  let observedGeneration := getIntField obj ".status.observedGeneration" (-1)
  let metaGeneration := getIntField obj ".metadata.generation" (-1)
  if observedGeneration ≠ metaGeneration then
    ([{ readyCondition with reason := generationMismatch }], none)
  else
  match deploymentScan (getConditions obj) false false with
  | none => ([{ readyCondition with reason := "Progress Deadline exceeded" }], none)
  | some (progress, available) =>
  let specReplicas := getIntField obj ".spec.replicas" 1
  let statusReplicas := getIntField obj ".status.replicas" 0
  let updatedReplicas := getIntField obj ".status.updatedReplicas" 0
  let readyReplicas := getIntField obj ".status.readyReplicas" 0
  let availableReplicas := getIntField obj ".status.availableReplicas" 0
  if specReplicas > updatedReplicas then
    ([{ readyCondition with
      reason := s!"Waiting for all replicas to be updated. Updated: {updatedReplicas}/{specReplicas}" }], none)
  else if statusReplicas > updatedReplicas then
    ([{ readyCondition with reason := s!"Waiting for old replicas to finish termination. Pending termination: {statusReplicas - updatedReplicas}" }],
      none)
  else if updatedReplicas > availableReplicas then
    ([{ readyCondition with reason := s!"Waiting for all replicas to be available. Available: {availableReplicas}/{updatedReplicas}" }], none)
  else if specReplicas > readyReplicas then
    ([{ readyCondition with
      reason := s!"Waiting for all replicas to be ready. Ready: {readyReplicas}/{specReplicas}" }], none)
  else if specReplicas > statusReplicas then
    ([{ readyCondition with reason := s!"Waiting for all .status.replicas to be catchup. replicas: {statusReplicas}/{specReplicas}" }], none)
  else if !progress then
    ([{ readyCondition with reason := "New ReplicaSet is not available" }], none)
  else if !available then
    ([{ readyCondition with reason := "Deployment is not Available" }], none)
  else
    ([{ readyCondition with
      status := "True"
      reason := s!"Deployment is available. Replicas: {statusReplicas}" }], none)

def replicasetConditions (u : Unstructured) : List Condition × Option GoError :=
  let obj := u.unstructuredContent
  let readyCondition := newFalseCondition .ready
  let observedGeneration := getIntField obj ".status.observedGeneration" (-1)
  let metaGeneration := getIntField obj ".metadata.generation" (-1)
  if observedGeneration ≠ metaGeneration then
    ([{ readyCondition with reason := generationMismatch }], none)
  else
  -- the loop returns at the first `ReplicaFailure` entry with status `True`
  if (getConditions u.unstructuredContent).any (fun c =>
      getStringField c ".type" "" = "ReplicaFailure" ∧ getStringField c ".status" "" = "True") then
    ([{ readyCondition with reason := "Replica Failure condition. Check Pods" }], none)
  else
  let specReplicas := getIntField obj ".spec.replicas" 1
  let statusReplicas := getIntField obj ".status.replicas" 0
  let readyReplicas := getIntField obj ".status.readyReplicas" 0
  let availableReplicas := getIntField obj ".status.availableReplicas" 0
  let labelledReplicas := getIntField obj ".status.labelledReplicas" 0
  if specReplicas = 0 ∧ labelledReplicas = 0 ∧ availableReplicas = 0 ∧ readyReplicas = 0 then
    ([{ readyCondition with reason := "Replica is 0" }], none)
  else if specReplicas > labelledReplicas then
    ([{ readyCondition with reason := s!"Waiting for all replicas to be fully-labeled. Labelled: {labelledReplicas}/{specReplicas}" }], none)
  else if specReplicas > availableReplicas then
    ([{ readyCondition with reason := s!"Waiting for all replicas to be available. Available: {availableReplicas}/{specReplicas}" }], none)
  else if specReplicas > readyReplicas then
    ([{ readyCondition with
      reason := s!"Waiting for all replicas to be ready. Ready: {readyReplicas}/{specReplicas}" }], none)
  else
    ([{ readyCondition with
      status := "True"
      reason := s!"ReplicaSet is available. Replicas: {statusReplicas}" }], none)

def daemonsetConditions (u : Unstructured) : List Condition × Option GoError :=
  let obj := u.unstructuredContent
  let readyCondition := newFalseCondition .ready
  let observedGeneration := getIntField obj ".status.observedGeneration" (-1)
  let metaGeneration := getIntField obj ".metadata.generation" (-1)
  if observedGeneration ≠ metaGeneration then
    ([{ readyCondition with reason := generationMismatch }], none)
  else
  let desiredNumberScheduled := getIntField obj ".status.desiredNumberScheduled" (-1)
  let currentNumberScheduled := getIntField obj ".status.currentNumberScheduled" 0
  let updatedNumberScheduled := getIntField obj ".status.updatedNumberScheduled" 0
  let numberAvailable := getIntField obj ".status.numberAvailable" 0
  let numberReady := getIntField obj ".status.numberReady" 0
  if desiredNumberScheduled = -1 then
    ([{ readyCondition with reason := "Missing .status.desiredNumberScheduled" }], none)
  else if desiredNumberScheduled > currentNumberScheduled then
    ([{ readyCondition with reason := s!"Waiting for desired replicas to be scheduled. Current: {currentNumberScheduled}/{desiredNumberScheduled}" }],
      none)
  else if desiredNumberScheduled > updatedNumberScheduled then
    ([{ readyCondition with reason := s!"Waiting for updated replicas to be scheduled. Updated: {updatedNumberScheduled}/{desiredNumberScheduled}" }],
      none)
  else if desiredNumberScheduled > numberAvailable then
    ([{ readyCondition with reason := s!"Waiting for replicas to be available. Available: {numberAvailable}/{desiredNumberScheduled}" }], none)
  else if desiredNumberScheduled > numberReady then
    ([{ readyCondition with reason := s!"Waiting for replicas to be ready. Ready: {numberReady}/{desiredNumberScheduled}" }], none)
  else
    ([{ readyCondition with
      status := "True"
      reason := s!"All replicas scheduled as expected. Replicas: {desiredNumberScheduled}" }], none)

section Verdicts

variable (u : Unstructured)

theorem stsConditions_verdict :
    let obj := u.object
    ReadyVerdict
      (getStringField obj ".spec.updateStrategy.type" "" = "ondelete" ∨
        (getIntField obj ".status.observedGeneration" (-1) = getIntField obj ".metadata.generation" (-1) ∧
         getIntField obj ".spec.replicas" 1 ≤ getIntField obj ".status.replicas" 0 ∧
         getIntField obj ".spec.replicas" 1 ≤ getIntField obj ".status.readyReplicas" 0 ∧
         (getIntField obj ".spec.updateStrategy.rollingUpdate.partition" (-1) ≠ -1 →
           ¬getIntField obj ".status.updatedReplicas" 0 <
             getIntField obj ".spec.replicas" 1 - getIntField obj ".spec.updateStrategy.rollingUpdate.partition" (-1)) ∧
         (getIntField obj ".spec.updateStrategy.rollingUpdate.partition" (-1) = -1 →
           getIntField obj ".spec.replicas" 1 ≤ getIntField obj ".status.currentReplicas" 0 ∧
           getStringField obj ".status.currentRevision" "" = getStringField obj ".status.updatedRevision" "")))
      (stsConditions u) := by
  dsimp only [stsConditions, Unstructured.unstructuredContent]
  generalize getIntField u.object ".spec.replicas" 1 - getIntField u.object ".spec.updateStrategy.rollingUpdate.partition" (-1) = d
  simp only [GoInt.lt_iff, GoInt.le_iff]
  repeat' (apply ReadyVerdict.ite <;> intro)
  all_goals first
    | (refine ReadyVerdict.not_ready ?_ _; simp_all [Int.not_lt, Int.not_le])
    | (refine ReadyVerdict.ready ?_ _; simp_all [Int.not_lt, Int.not_le])

/-- The scan returns early exactly when some entry is a `Progressing` condition whose reason is
`ProgressDeadlineExceeded`. -/
theorem deploymentScan_eq_none_iff (cs : List Object) (progress available : Bool) :
    deploymentScan cs progress available = none ↔
      ∃ c ∈ cs, getStringField c ".type" "" = "Progressing" ∧
        getStringField c ".reason" "" = "ProgressDeadlineExceeded" := by
  induction cs generalizing progress available with
  | nil => simp [deploymentScan]
  | cons c cs ih =>
    simp only [deploymentScan]
    split_ifs <;> simp [ih, *]

/-- Otherwise each flag ends set exactly when it started set or some entry sets it. -/
theorem deploymentScan_flags (cs : List Object) (progress available : Bool)
    (h : ¬∃ c ∈ cs, getStringField c ".type" "" = "Progressing" ∧
      getStringField c ".reason" "" = "ProgressDeadlineExceeded") :
    deploymentScan cs progress available =
      some (progress || cs.any (fun c => getStringField c ".type" "" = "Progressing" ∧
          getStringField c ".status" "" = "True" ∧ getStringField c ".reason" "" = "NewReplicaSetAvailable"),
        available || cs.any (fun c => getStringField c ".type" "" = "Available" ∧
          getStringField c ".status" "" = "True")) := by
  induction cs generalizing progress available with
  | nil => simp [deploymentScan]
  | cons c cs ih =>
    simp only [List.mem_cons, exists_eq_or_imp, not_or] at h
    simp only [deploymentScan, ih _ _ h.2, List.any_cons]
    clear ih
    by_cases ht : getStringField c ".type" "" = "Progressing" <;>
      by_cases ha : getStringField c ".type" "" = "Available" <;>
      by_cases hs : getStringField c ".status" "" = "True" <;>
      simp_all [Bool.or_assoc, Bool.or_left_comm, Bool.or_comm]

theorem deploymentConditions_verdict :
    let obj := u.object
    ReadyVerdict
      (getIntField obj ".status.observedGeneration" (-1) = getIntField obj ".metadata.generation" (-1) ∧
        (¬∃ c ∈ getConditions obj, getStringField c ".type" "" = "Progressing" ∧
          getStringField c ".reason" "" = "ProgressDeadlineExceeded") ∧
        getIntField obj ".spec.replicas" 1 ≤ getIntField obj ".status.updatedReplicas" 0 ∧
        getIntField obj ".status.replicas" 0 ≤ getIntField obj ".status.updatedReplicas" 0 ∧
        getIntField obj ".status.updatedReplicas" 0 ≤ getIntField obj ".status.availableReplicas" 0 ∧
        getIntField obj ".spec.replicas" 1 ≤ getIntField obj ".status.readyReplicas" 0 ∧
        getIntField obj ".spec.replicas" 1 ≤ getIntField obj ".status.replicas" 0 ∧
        (∃ c ∈ getConditions obj, getStringField c ".type" "" = "Progressing" ∧
          getStringField c ".status" "" = "True" ∧ getStringField c ".reason" "" = "NewReplicaSetAvailable") ∧
        (∃ c ∈ getConditions obj, getStringField c ".type" "" = "Available" ∧
          getStringField c ".status" "" = "True"))
      (deploymentConditions u) := by
  dsimp only [deploymentConditions, Unstructured.unstructuredContent]
  apply ReadyVerdict.ite <;> intro hgen
  · exact ReadyVerdict.not_ready (fun h => hgen h.1) _
  by_cases hd : ∃ c ∈ getConditions u.object, getStringField c ".type" "" = "Progressing" ∧
      getStringField c ".reason" "" = "ProgressDeadlineExceeded"
  · rw [(deploymentScan_eq_none_iff _ _ _).2 hd]
    exact ReadyVerdict.not_ready (fun h => h.2.1 hd) _
  rw [deploymentScan_flags _ _ _ hd]
  simp only [GoInt.lt_iff, GoInt.le_iff]
  repeat' (apply ReadyVerdict.ite <;> intro)
  all_goals first
    | (refine ReadyVerdict.not_ready ?_ _; intro; omega)
    | (refine ReadyVerdict.not_ready ?_ _; simp_all)
    | (refine ReadyVerdict.ready ?_ _; simp_all [Int.not_lt, Int.not_le])

theorem replicasetConditions_verdict :
    let obj := u.object
    ReadyVerdict
      (getIntField obj ".status.observedGeneration" (-1) = getIntField obj ".metadata.generation" (-1) ∧
        (¬∃ c ∈ getConditions obj, getStringField c ".type" "" = "ReplicaFailure" ∧
          getStringField c ".status" "" = "True") ∧
        ¬(getIntField obj ".spec.replicas" 1 = 0 ∧ getIntField obj ".status.labelledReplicas" 0 = 0 ∧
          getIntField obj ".status.availableReplicas" 0 = 0 ∧ getIntField obj ".status.readyReplicas" 0 = 0) ∧
        getIntField obj ".spec.replicas" 1 ≤ getIntField obj ".status.labelledReplicas" 0 ∧
        getIntField obj ".spec.replicas" 1 ≤ getIntField obj ".status.availableReplicas" 0 ∧
        getIntField obj ".spec.replicas" 1 ≤ getIntField obj ".status.readyReplicas" 0)
      (replicasetConditions u) := by
  dsimp only [replicasetConditions, Unstructured.unstructuredContent]
  simp only [GoInt.lt_iff, GoInt.le_iff, List.any_eq_true, decide_eq_true_eq]
  repeat' (apply ReadyVerdict.ite <;> intro)
  all_goals first
    | (refine ReadyVerdict.not_ready ?_ _; intro; omega)
    | (refine ReadyVerdict.not_ready ?_ _; simp_all)
    | (refine ReadyVerdict.ready ?_ _; simp_all [Int.not_lt, Int.not_le])

theorem daemonsetConditions_verdict :
    let obj := u.object
    ReadyVerdict
      (getIntField obj ".status.observedGeneration" (-1) = getIntField obj ".metadata.generation" (-1) ∧
        getIntField obj ".status.desiredNumberScheduled" (-1) ≠ -1 ∧
        getIntField obj ".status.desiredNumberScheduled" (-1) ≤ getIntField obj ".status.currentNumberScheduled" 0 ∧
        getIntField obj ".status.desiredNumberScheduled" (-1) ≤ getIntField obj ".status.updatedNumberScheduled" 0 ∧
        getIntField obj ".status.desiredNumberScheduled" (-1) ≤ getIntField obj ".status.numberAvailable" 0 ∧
        getIntField obj ".status.desiredNumberScheduled" (-1) ≤ getIntField obj ".status.numberReady" 0)
      (daemonsetConditions u) := by
  dsimp only [daemonsetConditions, Unstructured.unstructuredContent]
  simp only [GoInt.lt_iff, GoInt.le_iff]
  repeat' (apply ReadyVerdict.ite <;> intro)
  all_goals first
    | (refine ReadyVerdict.not_ready ?_ _; intro; omega)
    | (refine ReadyVerdict.not_ready ?_ _; simp_all)
    | (refine ReadyVerdict.ready ?_ _; simp_all [Int.not_lt, Int.not_le])

end Verdicts

end CliStatus
