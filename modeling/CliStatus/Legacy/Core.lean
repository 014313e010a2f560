import CliStatus.Legacy.Apps

/-!
# Evaluators of the core group

`serviceConditions`, `podConditions` and `pvcConditions`. The pod evaluator is the one with
state carried across its loop: each `Ready` entry of `status.conditions` overwrites the ready
condition being built, and each such entry that reports a completed pod appends a terminal
condition. Entries of other types leave the state alone.
-/

namespace CliStatus

def serviceConditions (u : Unstructured) : List Condition × Option GoError :=
  let obj := u.unstructuredContent
  let specType := getStringField obj ".spec.type" "ClusterIP"
  let specClusterIP := getStringField obj ".spec.clusterIP" ""
  let message := s!"Always Ready. Service type: {specType}"
  if specType = "LoadBalancer" then
    if specClusterIP = "" then
      let message := "ClusterIP not set. Service type: LoadBalancer"
      ([(newCondition .ready message).False], none)
    else
      let message := s!"ClusterIP: {specClusterIP}"
      ([newCondition .ready message], none)
  else ([newCondition .ready message], none)

def pvcConditions (u : Unstructured) : List Condition × Option GoError :=
  let obj := u.unstructuredContent
  let readyCondition := newFalseCondition .ready
  let phase := getStringField obj ".status.phase" "unknown"
  if phase ≠ "Bound" then
    ([{ readyCondition with reason := s!"PVC is not Bound. phase: {phase}" }], none)
  else
    ([{ readyCondition with
        status := "True"
        reason := "PVC is Bound" }], none)

/-- One iteration of the loop of `podConditions`: the terminal conditions appended so far and
the `readyCondition` being built. -/
def podStep (phase : String) (acc : List Condition × Condition) (c : Object) :
    List Condition × Condition :=
  let (rv, readyCondition) := acc
  if getStringField c ".type" "" = "Ready" then
    let readyCondition := { readyCondition with reason := getStringField c "reason" "" }
    if getStringField c "status" "" = "True" then (rv, { readyCondition with status := "True" })
    else
      let readyCondition := { readyCondition with status := "False" }
      if getStringField c "reason" "" = "PodCompleted" then
        (rv ++ [if phase = "Succeeded" then newCondition .completed "Pod Succeeded"
          else newCondition .failed s!"Pod phase: {phase}"], { readyCondition with status := "True" })
      else (rv, readyCondition)
  else acc

def podConditions (u : Unstructured) : List Condition × Option GoError :=
  let rv : List Condition := []
  let readyCondition := newFalseCondition .ready
  let obj := u.unstructuredContent
  let phase := getStringField obj ".status.phase" "unknown"
  let conditions := getConditions obj
  let (rv, readyCondition) := conditions.foldl (podStep phase) (rv, readyCondition)
  let readyCondition :=
    if readyCondition.reason = "" then { readyCondition with reason := "Phase: " ++ phase }
    else { readyCondition with reason := "Phase: " ++ phase ++ ", " ++ readyCondition.reason }
  (rv ++ [readyCondition], none)

theorem serviceConditions_verdict (u : Unstructured) :
    ReadyVerdict (getStringField u.object ".spec.type" "ClusterIP" = "LoadBalancer" →
      getStringField u.object ".spec.clusterIP" "" ≠ "") (serviceConditions u) := by
  dsimp only [serviceConditions, Unstructured.unstructuredContent]
  split_ifs with hlb hip
  · exact ⟨_, rfl, rfl, by simp [hlb, hip]⟩
  · exact ⟨_, rfl, rfl, by simp [hip]⟩
  · exact ⟨_, rfl, rfl, by simp [hlb]⟩

theorem pvcConditions_verdict (u : Unstructured) :
    ReadyVerdict (getStringField u.object ".status.phase" "unknown" = "Bound") (pvcConditions u) := by
  dsimp only [pvcConditions, Unstructured.unstructuredContent]
  split_ifs with h
  · exact ReadyVerdict.not_ready h _
  · exact ReadyVerdict.ready (not_not.1 h) _

section Pod

variable (phase : String)

/-- A `status.conditions` entry the pod loop reads. -/
def isPodReadyEntry (c : Object) : Bool := getStringField c ".type" "" = "Ready"

/-- A `Ready` entry that reports a completed pod: the loop appends a terminal condition for it. -/
def isPodCompletedEntry (c : Object) : Bool :=
  getStringField c ".type" "" = "Ready" ∧ getStringField c "status" "" ≠ "True" ∧
    getStringField c "reason" "" = "PodCompleted"

/-- The terminal condition the loop appends in a given phase. -/
def podTerminal : Condition :=
  if phase = "Succeeded" then newCondition .completed "Pod Succeeded"
  else newCondition .failed s!"Pod phase: {phase}"

theorem podStep_of_not_ready {c : Object} (h : isPodReadyEntry c = false) (acc : List Condition × Condition) :
    podStep phase acc c = acc := by
  simp_all [podStep, isPodReadyEntry]

/-- Entries of other types than `Ready` do not change the loop's state. -/
theorem foldl_podStep_filter (cs : List Object) (acc : List Condition × Condition) :
    cs.foldl (podStep phase) acc = (cs.filter isPodReadyEntry).foldl (podStep phase) acc := by
  induction cs generalizing acc with
  | nil => rfl
  | cons c cs ih =>
    cases hc : isPodReadyEntry c
    · simp [List.filter_cons, hc, podStep_of_not_ready phase hc, ih]
    · simp [List.filter_cons, hc, ih]

/-- The loop appends one terminal condition per completed-pod entry. -/
theorem foldl_podStep_fst (cs : List Object) (acc : List Condition × Condition) :
    (cs.foldl (podStep phase) acc).1 =
      acc.1 ++ (cs.filter isPodCompletedEntry).map (fun _ => podTerminal phase) := by
  induction cs generalizing acc with
  | nil => simp
  | cons c cs ih =>
    rw [List.foldl_cons, ih]
    by_cases hr : isPodReadyEntry c = true
    · by_cases hs : getStringField c "status" "" = "True" <;>
        by_cases hp : getStringField c "reason" "" = "PodCompleted" <;>
        simp_all [podStep, isPodCompletedEntry, podTerminal, List.filter_cons, isPodReadyEntry]
    · simp_all [podStep_of_not_ready, isPodCompletedEntry, List.filter_cons, isPodReadyEntry]

/-- The ready condition keeps its type through the loop. -/
theorem foldl_podStep_snd_type (cs : List Object) (acc : List Condition × Condition) :
    (cs.foldl (podStep phase) acc).2.type = acc.2.type := by
  induction cs generalizing acc with
  | nil => rfl
  | cons c cs ih =>
    rw [List.foldl_cons, ih]
    simp only [podStep]
    split_ifs <;> rfl

theorem podConditions_eq (u : Unstructured) :
    ∃ rc : Condition, rc.type = .ready ∧ podConditions u =
      (((getConditions u.object).filter isPodCompletedEntry).map
        (fun _ => podTerminal (getStringField u.object ".status.phase" "unknown")) ++ [rc], none) := by
  have h1 := foldl_podStep_fst (getStringField u.object ".status.phase" "unknown") (getConditions u.object)
    ([], newFalseCondition .ready)
  have h2 := foldl_podStep_snd_type (getStringField u.object ".status.phase" "unknown")
    (getConditions u.object) ([], newFalseCondition .ready)
  dsimp only [podConditions, Unstructured.unstructuredContent]
  generalize List.foldl _ _ _ = acc at h1 h2
  obtain ⟨rv, rc⟩ := acc
  simp only [List.nil_append] at h1
  subst h1
  dsimp only
  split_ifs <;> refine ⟨_, ?_, rfl⟩ <;> exact h2

theorem podConditions_of_filter_eq_nil (u : Unstructured)
    (hR : (getConditions u.object).filter isPodReadyEntry = []) :
    podConditions u = ([⟨.ready, "False", "Phase: " ++ getStringField u.object ".status.phase" "unknown"⟩], none) := by
  dsimp only [podConditions, Unstructured.unstructuredContent]
  rw [foldl_podStep_filter, hR]
  rfl

/-- With one `Ready` entry, the result is decided by that entry's status and reason alone. -/
theorem podConditions_of_filter_eq_single (u : Unstructured) {c : Object}
    (hR : (getConditions u.object).filter isPodReadyEntry = [c]) :
    let p := getStringField u.object ".status.phase" "unknown"
    let s := getStringField c "status" ""
    let r := getStringField c "reason" ""
    podConditions u =
      ((if s ≠ "True" ∧ r = "PodCompleted" then [podTerminal p] else []) ++
        [⟨.ready, if s = "True" ∨ r = "PodCompleted" then "True" else "False",
          if r = "" then "Phase: " ++ p else "Phase: " ++ p ++ ", " ++ r⟩], none) := by
  have hc : getStringField c ".type" "" = "Ready" := by
    have : c ∈ (getConditions u.object).filter isPodReadyEntry := by simp [hR]
    simpa [isPodReadyEntry] using (List.mem_filter.1 this).2
  dsimp only [podConditions, Unstructured.unstructuredContent]
  rw [foldl_podStep_filter, hR]
  by_cases hs : getStringField c "status" "" = "True" <;>
    by_cases hp : getStringField c "reason" "" = "PodCompleted" <;>
    simp [podStep, podTerminal, hc, hs, hp, newFalseCondition] <;> split_ifs <;> rfl

/-- Every `Ready` entry overwrites the status and reason of the ready condition, so the last one
decides them; the terminal conditions are one per completed-pod entry, as before. -/
theorem podConditions_of_filter_eq_append (u : Unstructured) {pre : List Object} {c : Object}
    (hR : (getConditions u.object).filter isPodReadyEntry = pre ++ [c]) :
    let p := getStringField u.object ".status.phase" "unknown"
    let s := getStringField c "status" ""
    let r := getStringField c "reason" ""
    podConditions u =
      (((getConditions u.object).filter isPodCompletedEntry).map (fun _ => podTerminal p) ++
        [⟨.ready, if s = "True" ∨ r = "PodCompleted" then "True" else "False",
          if r = "" then "Phase: " ++ p else "Phase: " ++ p ++ ", " ++ r⟩], none) := by
  have hc : getStringField c ".type" "" = "Ready" := by
    have : c ∈ (getConditions u.object).filter isPodReadyEntry := by simp [hR]
    simpa [isPodReadyEntry] using (List.mem_filter.1 this).2
  have h1 := foldl_podStep_fst (getStringField u.object ".status.phase" "unknown") (getConditions u.object)
    ([], newFalseCondition .ready)
  have h2 : ((getConditions u.object).foldl (podStep (getStringField u.object ".status.phase" "unknown"))
      ([], newFalseCondition .ready)).2 =
      ⟨.ready, if getStringField c "status" "" = "True" ∨ getStringField c "reason" "" = "PodCompleted" then "True"
        else "False", getStringField c "reason" ""⟩ := by
    rw [foldl_podStep_filter, hR, List.foldl_append, List.foldl_cons, List.foldl_nil]
    have ht := foldl_podStep_snd_type (getStringField u.object ".status.phase" "unknown") pre
      ([], newFalseCondition .ready)
    generalize pre.foldl _ _ = acc at ht
    obtain ⟨rv, ⟨t, _, _⟩⟩ := acc
    dsimp only at ht
    subst ht
    by_cases hs : getStringField c "status" "" = "True" <;>
      by_cases hp : getStringField c "reason" "" = "PodCompleted" <;> simp [podStep, hc, hs, hp, newFalseCondition]
  dsimp only [podConditions, Unstructured.unstructuredContent]
  generalize List.foldl _ _ _ = acc at h1 h2
  obtain ⟨rv, rc⟩ := acc
  simp only [List.nil_append] at h1
  dsimp only at h2
  subst h1 h2
  split_ifs <;> rfl

end Pod

end CliStatus
