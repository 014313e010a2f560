import CliStatus.KeyOrder
import CliStatus.Permutation

/-!
# Fields of the condition entries no evaluator reads

Of a `status.conditions` entry the evaluators read `type`, `status` and `reason`, each with or
without a leading dot, and nothing else: not `message`, `lastTransitionTime` or
`lastUpdateTime`. Two lists whose entries agree one by one on these three keys evaluate alike, so
a controller that only refreshes the messages or the timestamps of its conditions changes no
verdict.
-/

namespace CliStatus

/-- Two condition entries that hold the same `type`, `status` and `reason`. -/
def EntryAgree (c c' : Object) : Prop := ∀ k ∈ ["type", "status", "reason"], c.lookup k = c'.lookup k

section Entry

variable {c c' : Object} (hc : EntryAgree c c')
include hc

theorem getStringField_of_entryAgree {fieldPath : String} (k : String) (hp : splitFieldPath fieldPath = [k])
    (hk : k ∈ ["type", "status", "reason"]) (d : String) :
    getStringField c fieldPath d = getStringField c' fieldPath d := by
  unfold getStringField
  rw [hp]
  simp only [nestedFieldNoCopy, nestedFieldNoCopyAux, hc k hk]

/-- Every path the scans read on an entry reads the same in two agreeing entries. -/
theorem entryReads_of_entryAgree :
    (∀ d, getStringField c ".type" d = getStringField c' ".type" d) ∧
    (∀ d, getStringField c "type" d = getStringField c' "type" d) ∧
    (∀ d, getStringField c ".status" d = getStringField c' ".status" d) ∧
    (∀ d, getStringField c "status" d = getStringField c' "status" d) ∧
    (∀ d, getStringField c ".reason" d = getStringField c' ".reason" d) ∧
    (∀ d, getStringField c "reason" d = getStringField c' "reason" d) :=
  ⟨getStringField_of_entryAgree hc "type" (by decide) (by decide),
    getStringField_of_entryAgree hc "type" (by decide) (by decide),
    getStringField_of_entryAgree hc "status" (by decide) (by decide),
    getStringField_of_entryAgree hc "status" (by decide) (by decide),
    getStringField_of_entryAgree hc "reason" (by decide) (by decide),
    getStringField_of_entryAgree hc "reason" (by decide) (by decide)⟩

end Entry

section Scans

variable {cs cs' : List Object} (h : List.Forall₂ EntryAgree cs cs')
include h

theorem deploymentScan_entryAgree (progress available : Bool) :
    deploymentScan cs progress available = deploymentScan cs' progress available := by
  induction h generalizing progress available with
  | nil => rfl
  | cons hc _ ih =>
    obtain ⟨ht, -, hs, -, hr, -⟩ := entryReads_of_entryAgree hc
    simp only [deploymentScan, ht, hs, hr, ih]

theorem jobScan_entryAgree (succeeded failed completions : GoInt) :
    jobScan succeeded failed completions cs = jobScan succeeded failed completions cs' := by
  induction h with
  | nil => rfl
  | cons hc _ ih =>
    obtain ⟨ht, -, hs, -, -, -⟩ := entryReads_of_entryAgree hc
    simp only [jobScan, ht, hs, ih]

theorem foldl_podStep_entryAgree (phase : String) (acc : List Condition × Condition) :
    cs.foldl (podStep phase) acc = cs'.foldl (podStep phase) acc :=
  foldl_of_forall₂ h (fun _ _ _ hc => by
    obtain ⟨ht, -, -, hs, -, hr⟩ := entryReads_of_entryAgree hc
    simp only [podStep, ht, hs, hr]) acc

theorem foldl_readyStep_entryAgree (acc : List Condition × Bool) : cs.foldl readyStep acc = cs'.foldl readyStep acc :=
  foldl_of_forall₂ h (fun _ _ _ hc => by
    obtain ⟨-, ht, -, hs, -, hr⟩ := entryReads_of_entryAgree hc
    simp only [readyStep, ht, hs, hr]) acc

theorem any_replicaFailure_entryAgree :
    (cs.any fun c => getStringField c ".type" "" = "ReplicaFailure" ∧ getStringField c ".status" "" = "True") =
      cs'.any fun c => getStringField c ".type" "" = "ReplicaFailure" ∧ getStringField c ".status" "" = "True" :=
  any_of_forall₂ h fun _ _ hc => by
    obtain ⟨ht, -, hs, -, -, -⟩ := entryReads_of_entryAgree hc
    simp only [ht, hs]

end Scans

section Evaluators

variable (o : Object) {cs cs' : List Object} (h : List.Forall₂ EntryAgree cs cs')
include h

theorem deploymentConditions_entryAgree :
    deploymentConditions ⟨withConditions o cs⟩ = deploymentConditions ⟨withConditions o cs'⟩ := by
  simp only [deploymentConditions, Unstructured.unstructuredContent,
    getIntField_withConditions o cs cs', getConditions_withConditions, deploymentScan_entryAgree h]

theorem replicasetConditions_entryAgree :
    replicasetConditions ⟨withConditions o cs⟩ = replicasetConditions ⟨withConditions o cs'⟩ := by
  simp only [replicasetConditions, Unstructured.unstructuredContent,
    getIntField_withConditions o cs cs', getConditions_withConditions, any_replicaFailure_entryAgree h]

theorem podConditions_entryAgree : podConditions ⟨withConditions o cs⟩ = podConditions ⟨withConditions o cs'⟩ := by
  simp only [podConditions, Unstructured.unstructuredContent,
    getStringField_withConditions o cs cs', getConditions_withConditions, foldl_podStep_entryAgree h]

theorem readyConditionReader_entryAgree :
    readyConditionReader ⟨withConditions o cs⟩ = readyConditionReader ⟨withConditions o cs'⟩ := by
  simp only [readyConditionReader, Unstructured.unstructuredContent,
    getIntField_withConditions o cs cs', getConditions_withConditions, foldl_readyStep_entryAgree h]

theorem jobConditions_entryAgree : jobConditions ⟨withConditions o cs⟩ = jobConditions ⟨withConditions o cs'⟩ := by
  simp only [jobConditions, Unstructured.unstructuredContent, getIntField_withConditions o cs cs',
    getStringField_withConditions o cs cs', getConditions_withConditions, jobScan_entryAgree h]

theorem isReady_withConditions_entryAgree : isReady ⟨withConditions o cs⟩ = isReady ⟨withConditions o cs'⟩ := by
  have hfn : getLegacyReadyFn ⟨withConditions o cs⟩ = getLegacyReadyFn ⟨withConditions o cs'⟩ := by
    unfold getLegacyReadyFn
    rw [groupVersionKind_withConditions o cs cs']
  rcases hu : getLegacyReadyFn ⟨withConditions o cs⟩ with _ | fn
  · rw [isReady_of_getLegacyReadyFn_none hu, isReady_of_getLegacyReadyFn_none (hfn ▸ hu)]
    exact readyConditionReader_entryAgree o h
  rw [isReady_of_getLegacyReadyFn hu, isReady_of_getLegacyReadyFn (hfn ▸ hu)]
  rcases getLegacyReadyFn_cases hu with ⟨-, -, rfl⟩ | ⟨-, -, rfl⟩ | ⟨-, -, rfl⟩ | ⟨-, -, rfl⟩ |
    ⟨-, -, rfl⟩ | ⟨-, -, rfl⟩ | ⟨-, -, rfl⟩ | ⟨-, -, rfl⟩ | ⟨-, -, rfl⟩ | ⟨-, -, rfl⟩
  · exact withConditions_of_conditions_unread o _ (by simp)
  · exact podConditions_entryAgree o h
  · exact withConditions_of_conditions_unread o _ (by simp)
  · exact withConditions_of_conditions_unread o _ (by simp)
  · exact withConditions_of_conditions_unread o _ (by simp)
  · exact deploymentConditions_entryAgree o h
  · exact replicasetConditions_entryAgree o h
  · exact withConditions_of_conditions_unread o _ (by simp)
  · exact withConditions_of_conditions_unread o _ (by simp)
  · exact jobConditions_entryAgree o h

end Evaluators

/-- Only the `type`, `status` and `reason` of each condition entry count: the object `u` with its
entries replaced, one by one, by entries that agree with them on these three keys, whatever their
messages, timestamps or other fields, evaluates as `u` does. -/
theorem isReady_entryFields (u : Unstructured) {cs cs' : List Object} (hu : HasConditions u.object cs)
    (h : List.Forall₂ EntryAgree cs cs') : isReady ⟨withConditions u.object cs'⟩ = isReady u := by
  obtain ⟨o⟩ := u
  calc isReady ⟨withConditions o cs'⟩ = isReady ⟨withConditions o cs⟩ := (isReady_withConditions_entryAgree o h).symm
    _ = isReady ⟨o⟩ := by rw [withConditions_of_hasConditions hu]

/-- A deployment whose `Available` entry got a new message and transition time. -/
theorem isReady_entryFields_refreshed :
    let e := fun (m t : String) => ([("type", .str "Available"), ("status", .str "True"), ("message", .str m),
      ("lastTransitionTime", .str t)] : Object)
    let u : Unstructured := ⟨[("apiVersion", .str "apps/v1"), ("kind", .str "Deployment"),
      ("status", .map [("conditions", .list [.map (e "Deployment has minimum availability." "2019-01-01T00:00:00Z")])])]⟩
    HasConditions u.object [e "Deployment has minimum availability." "2019-01-01T00:00:00Z"] ∧
      List.Forall₂ EntryAgree [e "Deployment has minimum availability." "2019-01-01T00:00:00Z"]
        [e "MinimumReplicasAvailable" "2019-02-01T00:00:00Z"] ∧
      isReady ⟨withConditions u.object [e "MinimumReplicasAvailable" "2019-02-01T00:00:00Z"]⟩ = isReady u := by
  intro e u
  have hu : HasConditions u.object [e "Deployment has minimum availability." "2019-01-01T00:00:00Z"] := ⟨_, rfl, rfl⟩
  have h : List.Forall₂ EntryAgree [e "Deployment has minimum availability." "2019-01-01T00:00:00Z"]
      [e "MinimumReplicasAvailable" "2019-02-01T00:00:00Z"] := by
    refine .cons ?_ .nil
    simp only [EntryAgree, List.mem_cons, List.not_mem_nil, or_false]
    rintro k (rfl | rfl | rfl) <;> rfl
  exact ⟨hu, h, isReady_entryFields u hu h⟩

end CliStatus
