import CliStatus.Permutation
import CliStatus.ReadSet

/-!
# Condition types no evaluator reads

The evaluators look at the entries of `status.conditions` through their `type` alone, and only at
six types: `Ready` (the pod loop and the generic reader), `Progressing` and `Available` (the
deployment scan), `ReplicaFailure` (the replicaset scan), `Complete` and `Failed` (the job loop).
Every scan steps over an entry of any other type without a change, so adding, removing, reordering
or rewriting such entries, such as the `PodScheduled` or `ContainersReady` entries a kubelet
writes, changes no evaluation.

The entries are those `GetConditions` returns, and it returns none as soon as one element of the
list is not a map: `NestedMapSlice` stops there with an error, which `GetConditions` drops. Such an
object evaluates, for every kind, as the same object with an empty list.
-/

namespace CliStatus

/-- The condition types some evaluator reads. -/
def knownConditionTypes : List String := ["Ready", "Progressing", "Available", "ReplicaFailure", "Complete", "Failed"]

/-- A `status.conditions` entry of a type some evaluator reads. -/
def isKnownEntry (c : Object) : Bool := getStringField c "type" "" ∈ knownConditionTypes

theorem getStringField_dotType (c : Object) (d : String) : getStringField c ".type" d = getStringField c "type" d := by
  unfold getStringField
  rw [show splitFieldPath ".type" = splitFieldPath "type" by decide]

section Filter

variable {α : Type} {p q : α → Bool}

theorem filter_filter_of_imp (h : ∀ a, p a → q a) (l : List α) : (l.filter q).filter p = l.filter p := by
  rw [List.filter_filter]
  exact List.filter_congr fun a _ => by cases hp : p a <;> simp [hp, h a]

theorem any_filter_of_imp (h : ∀ a, p a → q a) (l : List α) : (l.filter q).any p = l.any p := by
  rw [List.any_filter]
  exact congrArg l.any (funext fun a => by cases hp : p a <;> simp [hp, h a])

end Filter

theorem isKnownEntry_of_type {c : Object} {t : String} (h : getStringField c ".type" "" = t)
    (ht : t ∈ knownConditionTypes) : isKnownEntry c = true := by
  unfold isKnownEntry
  rw [← getStringField_dotType, h]
  exact decide_eq_true ht

theorem deploymentScan_filter_known (cs : List Object) (progress available : Bool) :
    deploymentScan (cs.filter isKnownEntry) progress available = deploymentScan cs progress available := by
  induction cs generalizing progress available with
  | nil => rfl
  | cons c cs ih =>
    by_cases hc : isKnownEntry c = true
    · rw [List.filter_cons_of_pos hc]
      simp only [deploymentScan, ih]
    · have hp : getStringField c ".type" "" ≠ "Progressing" := fun h => hc (isKnownEntry_of_type h (by decide))
      have ha : getStringField c ".type" "" ≠ "Available" := fun h => hc (isKnownEntry_of_type h (by decide))
      rw [List.filter_cons_of_neg hc, ih]
      simp only [deploymentScan, if_neg hp, if_neg ha]

theorem foldl_podStep_filter_known (phase : String) (cs : List Object) (acc : List Condition × Condition) :
    (cs.filter isKnownEntry).foldl (podStep phase) acc = cs.foldl (podStep phase) acc := by
  rw [foldl_podStep_filter, foldl_podStep_filter phase cs,
    filter_filter_of_imp (fun c (hc : isPodReadyEntry c = true) => isKnownEntry_of_type (of_decide_eq_true hc) (by decide))]

theorem foldl_readyStep_filter_known (cs : List Object) (acc : List Condition × Bool) :
    (cs.filter isKnownEntry).foldl readyStep acc = cs.foldl readyStep acc := by
  have himp : ∀ c, isReadyEntry c = true → isKnownEntry c = true := fun c hc =>
    isKnownEntry_of_type ((getStringField_dotType c "").trans (of_decide_eq_true hc)) (by decide)
  obtain ⟨rv, ready⟩ := acc
  rw [foldl_readyStep, foldl_readyStep, filter_filter_of_imp himp, any_filter_of_imp himp]

theorem jobScan_filter_known (succeeded failed completions : GoInt) (cs : List Object) :
    jobScan succeeded failed completions (cs.filter isKnownEntry) = jobScan succeeded failed completions cs := by
  have himp : ∀ c, isJobFinishedEntry c = true → isKnownEntry c = true := fun c hc => by
    simp only [isJobFinishedEntry, decide_eq_true_eq] at hc
    rcases hc.1 with h | h <;> exact isKnownEntry_of_type h (by decide)
  rw [jobScan_eq, jobScan_eq, ← List.filter_head?, ← List.filter_head?, filter_filter_of_imp himp]

theorem any_replicaFailure_filter_known (cs : List Object) :
    ((cs.filter isKnownEntry).any fun c =>
      getStringField c ".type" "" = "ReplicaFailure" ∧ getStringField c ".status" "" = "True") =
    cs.any fun c => getStringField c ".type" "" = "ReplicaFailure" ∧ getStringField c ".status" "" = "True" :=
  any_filter_of_imp (fun c hc => isKnownEntry_of_type (of_decide_eq_true hc).1 (by decide)) cs

section Scans

variable {cs cs' : List Object} (h : cs.filter isKnownEntry = cs'.filter isKnownEntry)
include h

theorem eq_of_filter_known {β : Type} (f : List Object → β) (hf : ∀ l, f (l.filter isKnownEntry) = f l) :
    f cs = f cs' := by
  rw [← hf cs, h, hf cs']

theorem deploymentScan_known (progress available : Bool) :
    deploymentScan cs progress available = deploymentScan cs' progress available :=
  eq_of_filter_known h (fun l => deploymentScan l progress available) fun l => deploymentScan_filter_known l _ _

theorem foldl_podStep_known (phase : String) (acc : List Condition × Condition) :
    cs.foldl (podStep phase) acc = cs'.foldl (podStep phase) acc :=
  eq_of_filter_known h (fun l => l.foldl (podStep phase) acc) fun l => foldl_podStep_filter_known phase l acc

theorem foldl_readyStep_known (acc : List Condition × Bool) : cs.foldl readyStep acc = cs'.foldl readyStep acc :=
  eq_of_filter_known h (fun l => l.foldl readyStep acc) fun l => foldl_readyStep_filter_known l acc

theorem jobScan_known (succeeded failed completions : GoInt) :
    jobScan succeeded failed completions cs = jobScan succeeded failed completions cs' :=
  eq_of_filter_known h (jobScan succeeded failed completions) (jobScan_filter_known succeeded failed completions)

theorem any_replicaFailure_known :
    (cs.any fun c => getStringField c ".type" "" = "ReplicaFailure" ∧ getStringField c ".status" "" = "True") =
      cs'.any fun c => getStringField c ".type" "" = "ReplicaFailure" ∧ getStringField c ".status" "" = "True" :=
  eq_of_filter_known h (fun l => l.any _) any_replicaFailure_filter_known

end Scans

section Evaluators

variable (o : Object) {cs cs' : List Object} (h : cs.filter isKnownEntry = cs'.filter isKnownEntry)
include h

theorem deploymentConditions_known :
    deploymentConditions ⟨withConditions o cs⟩ = deploymentConditions ⟨withConditions o cs'⟩ := by
  simp only [deploymentConditions, Unstructured.unstructuredContent,
    getIntField_withConditions o cs cs', getConditions_withConditions, deploymentScan_known h]

theorem replicasetConditions_known :
    replicasetConditions ⟨withConditions o cs⟩ = replicasetConditions ⟨withConditions o cs'⟩ := by
  simp only [replicasetConditions, Unstructured.unstructuredContent,
    getIntField_withConditions o cs cs', getConditions_withConditions, any_replicaFailure_known h]

theorem podConditions_known : podConditions ⟨withConditions o cs⟩ = podConditions ⟨withConditions o cs'⟩ := by
  simp only [podConditions, Unstructured.unstructuredContent,
    getStringField_withConditions o cs cs', getConditions_withConditions, foldl_podStep_known h]

theorem readyConditionReader_known :
    readyConditionReader ⟨withConditions o cs⟩ = readyConditionReader ⟨withConditions o cs'⟩ := by
  simp only [readyConditionReader, Unstructured.unstructuredContent,
    getIntField_withConditions o cs cs', getConditions_withConditions, foldl_readyStep_known h]

theorem jobConditions_known : jobConditions ⟨withConditions o cs⟩ = jobConditions ⟨withConditions o cs'⟩ := by
  simp only [jobConditions, Unstructured.unstructuredContent, getIntField_withConditions o cs cs',
    getStringField_withConditions o cs cs', getConditions_withConditions, jobScan_known h]

theorem isReady_withConditions_known : isReady ⟨withConditions o cs⟩ = isReady ⟨withConditions o cs'⟩ := by
  have hfn : getLegacyReadyFn ⟨withConditions o cs⟩ = getLegacyReadyFn ⟨withConditions o cs'⟩ := by
    unfold getLegacyReadyFn
    rw [groupVersionKind_withConditions o cs cs']
  rcases hu : getLegacyReadyFn ⟨withConditions o cs⟩ with _ | fn
  · rw [isReady_of_getLegacyReadyFn_none hu, isReady_of_getLegacyReadyFn_none (hfn ▸ hu)]
    exact readyConditionReader_known o h
  rw [isReady_of_getLegacyReadyFn hu, isReady_of_getLegacyReadyFn (hfn ▸ hu)]
  rcases getLegacyReadyFn_cases hu with ⟨-, -, rfl⟩ | ⟨-, -, rfl⟩ | ⟨-, -, rfl⟩ | ⟨-, -, rfl⟩ |
    ⟨-, -, rfl⟩ | ⟨-, -, rfl⟩ | ⟨-, -, rfl⟩ | ⟨-, -, rfl⟩ | ⟨-, -, rfl⟩ | ⟨-, -, rfl⟩
  · exact withConditions_of_conditions_unread o _ (by simp)
  · exact podConditions_known o h
  · exact withConditions_of_conditions_unread o _ (by simp)
  · exact withConditions_of_conditions_unread o _ (by simp)
  · exact withConditions_of_conditions_unread o _ (by simp)
  · exact deploymentConditions_known o h
  · exact replicasetConditions_known o h
  · exact withConditions_of_conditions_unread o _ (by simp)
  · exact withConditions_of_conditions_unread o _ (by simp)
  · exact jobConditions_known o h

end Evaluators

/-- Entries of `status.conditions` whose type no evaluator reads do not count: the object `u` with
its entries replaced by any list that holds the same entries of the six known types, in the same
order, evaluates as `u` does. -/
theorem isReady_unknownConditions (u : Unstructured) {cs cs' : List Object} (hu : HasConditions u.object cs)
    (h : cs.filter isKnownEntry = cs'.filter isKnownEntry) : isReady ⟨withConditions u.object cs'⟩ = isReady u := by
  obtain ⟨o⟩ := u
  calc isReady ⟨withConditions o cs'⟩ = isReady ⟨withConditions o cs⟩ := (isReady_withConditions_known o h).symm
    _ = isReady ⟨o⟩ := by rw [withConditions_of_hasConditions hu]

/-- A running pod whose kubelet also wrote `PodScheduled` and `ContainersReady` entries. -/
theorem isReady_unknownConditions_pod :
    let u : Unstructured := ⟨[("apiVersion", .str "v1"), ("kind", .str "Pod"),
      ("status", .map [("phase", .str "Running"), ("conditions", .list [.map (conditionEntry "Ready" "True")])])]⟩
    let cs' := [conditionEntry "PodScheduled" "True", conditionEntry "Ready" "True",
      conditionEntry "ContainersReady" "False"]
    HasConditions u.object [conditionEntry "Ready" "True"] ∧
      [conditionEntry "Ready" "True"].filter isKnownEntry = cs'.filter isKnownEntry ∧
      isReady ⟨withConditions u.object cs'⟩ = isReady u := by
  intro u cs'
  have hu : HasConditions u.object [conditionEntry "Ready" "True"] := ⟨_, rfl, rfl⟩
  exact ⟨hu, rfl, isReady_unknownConditions u hu rfl⟩

theorem getConditions_withConditionValues_of_nonMap (o : Object) {vs : List Value}
    (hv : ∃ v ∈ vs, ∀ m, v ≠ .map m) : getConditions (withConditionValues o vs) = [] := by
  have hval : valueAt (.map (withConditionValues o vs)) ["status", "conditions"] = some (.list vs) := by
    simp [valueAt, withConditionValues]
  obtain ⟨e, he⟩ := nestedMapSlice_of_not_mapList hval fun ⟨cs, hcs⟩ => by
    obtain ⟨v, hmem, hne⟩ := hv
    rw [Value.list.inj hcs] at hmem
    obtain ⟨c, -, rfl⟩ := List.mem_map.1 hmem
    exact hne c rfl
  rw [getConditions, he]
  rfl

/-- One element of `status.conditions` that is not a map hides every entry of the list. -/
theorem isReady_nonMapCondition (u : Unstructured) {st : Object} {vs : List Value}
    (hs : u.object.lookup "status" = some (.map st)) (hc : st.lookup "conditions" = some (.list vs))
    (hv : ∃ v ∈ vs, ∀ m, v ≠ .map m) : isReady u = isReady ⟨withConditions u.object []⟩ := by
  obtain ⟨o⟩ := u
  have ho : withConditionValues o vs = o := by
    simp only [withConditionValues, statusOf, hs, setField_of_lookup hc]
    exact setField_of_lookup hs
  calc isReady ⟨o⟩ = isReady ⟨withConditionValues o vs⟩ := by rw [ho]
    _ = isReady ⟨withConditions o []⟩ :=
      isReady_of_reads (groupVersionKind_withConditionValues o vs []) (getStringField_withConditionValues o vs [])
        (getIntField_withConditionValues o vs [])
        ((getConditions_withConditionValues_of_nonMap o hv).trans (getConditions_withConditions o []).symm)

/-- A Deployment whose two entries are followed by a `null` element. -/
theorem isReady_nonMapCondition_deployment :
    let vs : List Value := [.map (conditionEntry "Progressing" "True"), .map (conditionEntry "Available" "True"), .null]
    let st : Object := [("replicas", .int 1), ("conditions", .list vs)]
    let u : Unstructured := ⟨[("apiVersion", .str "apps/v1"), ("kind", .str "Deployment"), ("status", .map st)]⟩
    u.object.lookup "status" = some (.map st) ∧ st.lookup "conditions" = some (.list vs) ∧
      (∃ v ∈ vs, ∀ m, v ≠ .map m) ∧ isReady u = isReady ⟨withConditions u.object []⟩ := by
  intro vs st u
  have hv : ∃ v ∈ vs, ∀ m, v ≠ .map m := ⟨.null, by simp [vs], fun _ h => nomatch h⟩
  exact ⟨rfl, rfl, hv, isReady_nonMapCondition u rfl rfl hv⟩

end CliStatus
