import CliStatus.Legacy.BatchPolicy

/-!
# Dispatch and the generic evaluator

`legacyTypes`, the closed table from group and kind to a dedicated evaluator, the generic
`readyConditionReader` that every other kind falls back to, and `IsReady`, which picks one of
them. The generic reader emits one `Ready` condition per `Ready` entry, in order, and an
optimistic `Ready=True` when there is none.
-/

namespace CliStatus

/-- One iteration of the loop of `readyConditionReader`: the conditions emitted so far and
whether a `Ready` entry was seen. -/
def readyStep (acc : List Condition × Bool) (c : Object) : List Condition × Bool :=
  let (rv, _) := acc
  if getStringField c "type" "" = "Ready" then
    let reason := getStringField c "reason" ""
    if getStringField c "status" "" = "False" then (rv ++ [(newCondition .ready reason).False], true)
    else (rv ++ [newCondition .ready reason], true)
  else acc

def readyConditionReader (u : Unstructured) : List Condition × Option GoError :=
  let rv : List Condition := []
  let ready := false
  let obj := u.unstructuredContent
  let metaGeneration := getIntField obj ".metadata.generation" (-1)
  let observedGeneration := getIntField obj ".status.observedGeneration" metaGeneration
  if observedGeneration ≠ metaGeneration then
    let reason := generationMismatch
    (rv ++ [(newCondition .ready reason).False], none)
  else
  let conditions := getConditions obj
  let (rv, ready) := conditions.foldl readyStep (rv, ready)
  let rv := if !ready then rv ++ [newCondition .ready "No Ready condition found"] else rv
  (rv, none)

def getGenericReadyFn (_u : Unstructured) : Option GetConditionsFn := some readyConditionReader

def legacyTypes : List (String × List (String × GetConditionsFn)) :=
  [("", [("Service", serviceConditions), ("Pod", podConditions), ("PersistentVolumeClaim", pvcConditions)]),
   ("apps", [("StatefulSet", stsConditions), ("DaemonSet", daemonsetConditions),
     ("Deployment", deploymentConditions), ("ReplicaSet", replicasetConditions)]),
   ("policy", [("PodDisruptionBudget", pdbConditions)]),
   ("batch", [("CronJob", alwaysReady), ("Job", jobConditions)])]

def getLegacyReadyFn (u : Unstructured) : Option GetConditionsFn :=
  let gvk := u.groupVersionKind
  match legacyTypes.lookup gvk.group with
  | some kinds => kinds.lookup gvk.kind
  | none => none

def isReady (u : Unstructured) : List Condition × Option GoError :=
  let fn := match getLegacyReadyFn u with
    | some fn => some fn
    | none => getGenericReadyFn u
  match fn with
  | some fn => fn u
  | none => ([], none)

theorem isReady_of_getLegacyReadyFn {u : Unstructured} {fn : GetConditionsFn}
    (h : getLegacyReadyFn u = some fn) : isReady u = fn u := by
  unfold isReady
  rw [h]

theorem isReady_of_getLegacyReadyFn_none {u : Unstructured} (h : getLegacyReadyFn u = none) :
    isReady u = readyConditionReader u := by
  unfold isReady
  rw [h]
  rfl

theorem getLegacyReadyFn_of_groupVersionKind {u : Unstructured} {g k : String}
    (hg : u.groupVersionKind.group = g) (hk : u.groupVersionKind.kind = k) :
    getLegacyReadyFn u = (legacyTypes.lookup g).bind (·.lookup k) := by
  dsimp only [getLegacyReadyFn]
  rw [hg, hk]
  cases legacyTypes.lookup g <;> rfl

theorem mem_of_lookup {β : Type} {k : String} {v : β} :
    ∀ {l : List (String × β)}, l.lookup k = some v → (k, v) ∈ l
  | [], h => by cases h
  | (a, b) :: l, h => by
    simp only [List.lookup_cons] at h
    split at h
    · rename_i hk
      cases h; rw [beq_iff_eq.1 hk]; exact List.mem_cons_self _ _
    · exact List.mem_cons_of_mem _ (mem_of_lookup h)

/-- Every dedicated evaluator is one of the ten in the table, under its group and kind. -/
theorem getLegacyReadyFn_cases {u : Unstructured} {fn : GetConditionsFn}
    (h : getLegacyReadyFn u = some fn) :
    let g := u.groupVersionKind.group
    let k := u.groupVersionKind.kind
    (g = "" ∧ k = "Service" ∧ fn = serviceConditions) ∨ (g = "" ∧ k = "Pod" ∧ fn = podConditions) ∨
      (g = "" ∧ k = "PersistentVolumeClaim" ∧ fn = pvcConditions) ∨
      (g = "apps" ∧ k = "StatefulSet" ∧ fn = stsConditions) ∨
      (g = "apps" ∧ k = "DaemonSet" ∧ fn = daemonsetConditions) ∨
      (g = "apps" ∧ k = "Deployment" ∧ fn = deploymentConditions) ∨
      (g = "apps" ∧ k = "ReplicaSet" ∧ fn = replicasetConditions) ∨
      (g = "policy" ∧ k = "PodDisruptionBudget" ∧ fn = pdbConditions) ∨
      (g = "batch" ∧ k = "CronJob" ∧ fn = alwaysReady) ∨ (g = "batch" ∧ k = "Job" ∧ fn = jobConditions) := by
  dsimp only [getLegacyReadyFn] at h
  split at h
  · rename_i kinds hk
    have hkinds := mem_of_lookup hk
    have hfn := mem_of_lookup h
    simp only [legacyTypes, List.mem_cons, Prod.mk.injEq, List.not_mem_nil, or_false] at hkinds
    rcases hkinds with ⟨hg, rfl⟩ | ⟨hg, rfl⟩ | ⟨hg, rfl⟩ | ⟨hg, rfl⟩ <;>
      simp only [List.mem_cons, Prod.mk.injEq, List.not_mem_nil, or_false] at hfn <;> simp [hg, hfn]
  · cases h

section Generic

/-- A `status.conditions` entry the generic reader reads. -/
def isReadyEntry (c : Object) : Bool := getStringField c "type" "" = "Ready"

/-- The condition the generic reader emits for a `Ready` entry. -/
def readyEntryCondition (c : Object) : Condition :=
  ⟨.ready, if getStringField c "status" "" = "False" then "False" else "True", getStringField c "reason" ""⟩

/-- The loop emits one condition per `Ready` entry, in order, and records whether there was one. -/
theorem foldl_readyStep (cs : List Object) (rv : List Condition) (ready : Bool) :
    cs.foldl readyStep (rv, ready) =
      (rv ++ (cs.filter isReadyEntry).map readyEntryCondition, ready || cs.any isReadyEntry) := by
  induction cs generalizing rv ready with
  | nil => simp
  | cons c cs ih =>
    rw [List.foldl_cons]
    by_cases hr : isReadyEntry c = true
    · have hc : getStringField c "type" "" = "Ready" := by simpa [isReadyEntry] using hr
      by_cases hs : getStringField c "status" "" = "False" <;>
        simp [readyStep, hc, hs, hr, ih, readyEntryCondition, newCondition, Condition.False]
    · have hc : getStringField c "type" "" ≠ "Ready" := by simpa [isReadyEntry] using hr
      simp [readyStep, hc, hr, ih]

theorem isEmpty_filter {α : Type} (p : α → Bool) (l : List α) : (l.filter p).isEmpty = !l.any p := by
  induction l with
  | nil => rfl
  | cons a l ih => cases h : p a <;> simp [List.filter_cons, h, ih]

theorem readyConditionReader_eq (u : Unstructured) :
    let obj := u.object
    let g := getIntField obj ".metadata.generation" (-1)
    let o := getIntField obj ".status.observedGeneration" g
    let R := (getConditions obj).filter isReadyEntry
    readyConditionReader u =
      (if o ≠ g then [⟨.ready, "False", generationMismatch⟩]
        else if R.isEmpty then [⟨.ready, "True", "No Ready condition found"⟩]
        else R.map readyEntryCondition, none) := by
  dsimp only [readyConditionReader, Unstructured.unstructuredContent]
  rw [foldl_readyStep, isEmpty_filter]
  cases h : (getConditions u.object).any isReadyEntry <;> split_ifs <;>
    simp_all [newCondition, Condition.False]

theorem readyConditionReader_shape (u : Unstructured) :
    (readyConditionReader u).2 = none ∧ (readyConditionReader u).1 ≠ [] ∧
      ∀ c ∈ (readyConditionReader u).1, c.type = .ready := by
  rw [readyConditionReader_eq]
  split_ifs with _ hR
  · simp
  · simp
  · refine ⟨rfl, by simpa using hR, ?_⟩
    simp only [List.mem_map]
    rintro _ ⟨_, _, rfl⟩
    rfl

end Generic

end CliStatus
