import CliStatus.Permutation

/-!
# The generation fields

`metadata.generation` and `status.observedGeneration` are read by the apps evaluators and the
generic reader, and by them only to compare the two. `withGenerations` sets both fields in an
object, as an update of the two maps would. No other typed read changes: the paths through the two
maps meet the same values, and the paths to the maps themselves, or below the two integers, give
the default. So only whether the two numbers agree decides anything.
-/

namespace CliStatus

/-- The `metadata` map of an object, empty when there is none. -/
def metadataOf (o : Object) : Object :=
  match o.lookup "metadata" with
  | some (.map m) => m
  | _ => []

/-- The object with `metadata.generation` and `status.observedGeneration` set; a `metadata` or
`status` that is not a map is replaced by a new map. -/
def withGenerations (o : Object) (generation observedGeneration : GoInt) : Object :=
  setField (setField o "metadata" (.map (setField (metadataOf o) "generation" (.int generation)))) "status"
    (.map (setField (statusOf o) "observedGeneration" (.int observedGeneration)))

section Descent

variable {obj obj' : Object} {f k : String} {rest : List String}

theorem nestedFieldNoCopy_of_lookup_eq (h : obj.lookup f = obj'.lookup f) :
    nestedFieldNoCopy obj (f :: rest) = nestedFieldNoCopy obj' (f :: rest) := by
  simp only [nestedFieldNoCopy, nestedFieldNoCopyAux, h]

theorem nestedFieldNoCopy_of_lookup_lookup_eq {m m' : Object} (hm : obj.lookup f = some (.map m))
    (hm' : obj'.lookup f = some (.map m')) (h : m.lookup k = m'.lookup k) :
    nestedFieldNoCopy obj (f :: k :: rest) = nestedFieldNoCopy obj' (f :: k :: rest) := by
  simp only [nestedFieldNoCopy, nestedFieldNoCopyAux, hm, hm', h]

/-- Below a key that holds the same map in both objects but for one integer entry, every path reads
the same, or the default in both, except the path to that entry. -/
theorem nestedFieldNoCopy_of_setField_int {m : Object} {key : String} {n n' : GoInt}
    (hm : obj.lookup f = some (.map (setField m key (.int n))))
    (hm' : obj'.lookup f = some (.map (setField m key (.int n')))) (rest : List String) :
    nestedFieldNoCopy obj (f :: rest) = nestedFieldNoCopy obj' (f :: rest) ∨
    ReadsDefault (nestedFieldNoCopy obj (f :: rest)) ∧ ReadsDefault (nestedFieldNoCopy obj' (f :: rest)) ∨
    rest = [key] := by
  rcases rest with _ | ⟨k, rest⟩
  · exact .inr (.inl (by simp [nestedFieldNoCopy, nestedFieldNoCopyAux, hm, hm', ReadsDefault]))
  by_cases hk : k = key
  · subst hk
    rcases rest with _ | ⟨k', rest⟩
    · exact .inr (.inr rfl)
    · exact .inr (.inl (by simp [nestedFieldNoCopy, nestedFieldNoCopyAux, hm, hm', ReadsDefault]))
  exact .inl (nestedFieldNoCopy_of_lookup_lookup_eq hm hm' (by rw [lookup_setField_of_ne hk, lookup_setField_of_ne hk]))

end Descent

section Frame

variable (o : Object) (g og : GoInt)

@[simp] theorem lookup_metadata_withGenerations :
    (withGenerations o g og).lookup "metadata" = some (.map (setField (metadataOf o) "generation" (.int g))) := by
  rw [withGenerations, lookup_setField_of_ne (by decide), lookup_setField_self]

@[simp] theorem lookup_status_withGenerations :
    (withGenerations o g og).lookup "status" = some (.map (setField (statusOf o) "observedGeneration" (.int og))) := by
  rw [withGenerations, lookup_setField_self]

theorem lookup_withGenerations_of_ne {f : String} (hm : f ≠ "metadata") (hs : f ≠ "status") :
    (withGenerations o g og).lookup f = o.lookup f := by
  rw [withGenerations, lookup_setField_of_ne hs, lookup_setField_of_ne hm]

theorem nestedFieldNoCopy_generation :
    nestedFieldNoCopy (withGenerations o g og) ["metadata", "generation"] = (.int g, true, none) := by
  simp [nestedFieldNoCopy, nestedFieldNoCopyAux]

theorem nestedFieldNoCopy_observedGeneration :
    nestedFieldNoCopy (withGenerations o g og) ["status", "observedGeneration"] = (.int og, true, none) := by
  simp [nestedFieldNoCopy, nestedFieldNoCopyAux]

variable (g' og' : GoInt)

/-- Every path reads the same in the two objects, or the default in both, except the two fields
themselves. -/
theorem nestedFieldNoCopy_withGenerations (fields : List String) :
    nestedFieldNoCopy (withGenerations o g og) fields = nestedFieldNoCopy (withGenerations o g' og') fields ∨
    ReadsDefault (nestedFieldNoCopy (withGenerations o g og) fields) ∧
      ReadsDefault (nestedFieldNoCopy (withGenerations o g' og') fields) ∨
    fields = ["metadata", "generation"] ∨ fields = ["status", "observedGeneration"] := by
  rcases fields with _ | ⟨f, rest⟩
  · exact .inr (.inl ⟨trivial, trivial⟩)
  by_cases hm : f = "metadata"
  · subst hm
    rcases nestedFieldNoCopy_of_setField_int (lookup_metadata_withGenerations o g og)
      (lookup_metadata_withGenerations o g' og') rest with h | h | rfl
    exacts [.inl h, .inr (.inl h), .inr (.inr (.inl rfl))]
  by_cases hs : f = "status"
  · subst hs
    rcases nestedFieldNoCopy_of_setField_int (lookup_status_withGenerations o g og)
      (lookup_status_withGenerations o g' og') rest with h | h | rfl
    exacts [.inl h, .inr (.inl h), .inr (.inr (.inr rfl))]
  exact .inl (nestedFieldNoCopy_of_lookup_eq (by rw [lookup_withGenerations_of_ne o g og hm hs,
    lookup_withGenerations_of_ne o g' og' hm hs]))

end Frame

section Reads

variable (o : Object) (g og g' og' : GoInt)

theorem getStringField_withGenerations (fieldPath d : String) :
    getStringField (withGenerations o g og) fieldPath d = getStringField (withGenerations o g' og') fieldPath d := by
  rcases nestedFieldNoCopy_withGenerations o g og g' og' (splitFieldPath fieldPath) with h | ⟨h, h'⟩ | h | h
  · simp only [getStringField, h]
  · rw [getStringField_of_readsDefault h, getStringField_of_readsDefault h']
  · simp only [getStringField, h, nestedFieldNoCopy_generation]
  · simp only [getStringField, h, nestedFieldNoCopy_observedGeneration]

theorem getIntField_withGenerations (fieldPath : String) (d : GoInt)
    (hp : splitFieldPath fieldPath ∉ [["metadata", "generation"], ["status", "observedGeneration"]]) :
    getIntField (withGenerations o g og) fieldPath d = getIntField (withGenerations o g' og') fieldPath d := by
  rcases nestedFieldNoCopy_withGenerations o g og g' og' (splitFieldPath fieldPath) with h | ⟨h, h'⟩ | h | h
  · simp only [getIntField, h]
  · rw [getIntField_of_readsDefault h, getIntField_of_readsDefault h']
  · exact absurd (h ▸ List.mem_cons_self _ _) hp
  · exact absurd (h ▸ List.mem_cons_of_mem _ (List.mem_singleton_self _)) hp

@[simp] theorem getIntField_generation (d : GoInt) :
    getIntField (withGenerations o g og) ".metadata.generation" d = g := by
  unfold getIntField
  rw [show splitFieldPath ".metadata.generation" = ["metadata", "generation"] by decide,
    nestedFieldNoCopy_generation]
  rfl

@[simp] theorem getIntField_observedGeneration (d : GoInt) :
    getIntField (withGenerations o g og) ".status.observedGeneration" d = og := by
  unfold getIntField
  rw [show splitFieldPath ".status.observedGeneration" = ["status", "observedGeneration"] by decide,
    nestedFieldNoCopy_observedGeneration]
  rfl

theorem getConditions_withGenerations :
    getConditions (withGenerations o g og) = getConditions (withGenerations o g' og') := by
  have h : nestedFieldNoCopy (withGenerations o g og) ["status", "conditions"] =
      nestedFieldNoCopy (withGenerations o g' og') ["status", "conditions"] :=
    nestedFieldNoCopy_of_lookup_lookup_eq (lookup_status_withGenerations o g og)
      (lookup_status_withGenerations o g' og') (by rw [lookup_setField_of_ne (by decide), lookup_setField_of_ne (by decide)])
  simp only [getConditions, nestedMapSlice, h]

theorem groupVersionKind_withGenerations :
    Unstructured.groupVersionKind ⟨withGenerations o g og⟩ = Unstructured.groupVersionKind ⟨withGenerations o g' og'⟩ := by
  have h : ∀ f, f ≠ "metadata" → f ≠ "status" →
      getNestedString (withGenerations o g og) [f] = getNestedString (withGenerations o g' og') [f] := fun f hm hs => by
    have hl : nestedFieldNoCopy (withGenerations o g og) [f] = nestedFieldNoCopy (withGenerations o g' og') [f] :=
      nestedFieldNoCopy_of_lookup_eq (by rw [lookup_withGenerations_of_ne o g og hm hs,
        lookup_withGenerations_of_ne o g' og' hm hs])
    simp only [getNestedString, hl]
  simp only [Unstructured.groupVersionKind, Unstructured.getAPIVersion, Unstructured.getKind,
    h "apiVersion" (by decide) (by decide), h "kind" (by decide) (by decide)]

end Reads

section Evaluators

variable (o : Object) (g og g' og' : GoInt)

theorem serviceConditions_withGenerations :
    serviceConditions ⟨withGenerations o g og⟩ = serviceConditions ⟨withGenerations o g' og'⟩ := by
  simp only [serviceConditions, Unstructured.unstructuredContent, getStringField_withGenerations o g og g' og']

theorem pvcConditions_withGenerations :
    pvcConditions ⟨withGenerations o g og⟩ = pvcConditions ⟨withGenerations o g' og'⟩ := by
  simp only [pvcConditions, Unstructured.unstructuredContent, getStringField_withGenerations o g og g' og']

theorem podConditions_withGenerations :
    podConditions ⟨withGenerations o g og⟩ = podConditions ⟨withGenerations o g' og'⟩ := by
  simp only [podConditions, Unstructured.unstructuredContent, getStringField_withGenerations o g og g' og',
    getConditions_withGenerations o g og g' og']

theorem pdbConditions_withGenerations :
    pdbConditions ⟨withGenerations o g og⟩ = pdbConditions ⟨withGenerations o g' og'⟩ := by
  have hi := getIntField_withGenerations o g og g' og'
  dsimp only [pdbConditions, Unstructured.unstructuredContent]
  rw [hi ".status.currentHealthy" _ (by decide), hi ".status.desiredHealthy" _ (by decide)]

theorem jobConditions_withGenerations :
    jobConditions ⟨withGenerations o g og⟩ = jobConditions ⟨withGenerations o g' og'⟩ := by
  have hi := getIntField_withGenerations o g og g' og'
  dsimp only [jobConditions, Unstructured.unstructuredContent]
  rw [hi ".spec.completions" _ (by decide), hi ".spec.parallelism" _ (by decide), hi ".status.succeeded" _ (by decide),
    hi ".status.active" _ (by decide), hi ".status.failed" _ (by decide), getConditions_withGenerations o g og g' og',
    getStringField_withGenerations o g og g' og']

variable {g og g' og'} (h : og = g ↔ og' = g')
include h

theorem stsConditions_withGenerations : stsConditions ⟨withGenerations o g og⟩ = stsConditions ⟨withGenerations o g' og'⟩ := by
  have hi := getIntField_withGenerations o g og g' og'
  dsimp only [stsConditions, Unstructured.unstructuredContent]
  rw [hi ".spec.replicas" _ (by decide), hi ".status.readyReplicas" _ (by decide),
    hi ".status.currentReplicas" _ (by decide), hi ".status.updatedReplicas" _ (by decide),
    hi ".status.replicas" _ (by decide), hi ".spec.updateStrategy.rollingUpdate.partition" _ (by decide)]
  simp only [getIntField_generation, getIntField_observedGeneration, getStringField_withGenerations o g og g' og',
    ne_eq, h]

theorem deploymentConditions_withGenerations :
    deploymentConditions ⟨withGenerations o g og⟩ = deploymentConditions ⟨withGenerations o g' og'⟩ := by
  have hi := getIntField_withGenerations o g og g' og'
  dsimp only [deploymentConditions, Unstructured.unstructuredContent]
  rw [hi ".spec.replicas" _ (by decide), hi ".status.replicas" _ (by decide),
    hi ".status.updatedReplicas" _ (by decide), hi ".status.readyReplicas" _ (by decide),
    hi ".status.availableReplicas" _ (by decide), getConditions_withGenerations o g og g' og']
  simp only [getIntField_generation, getIntField_observedGeneration, ne_eq, h]

theorem replicasetConditions_withGenerations :
    replicasetConditions ⟨withGenerations o g og⟩ = replicasetConditions ⟨withGenerations o g' og'⟩ := by
  have hi := getIntField_withGenerations o g og g' og'
  dsimp only [replicasetConditions, Unstructured.unstructuredContent]
  rw [hi ".spec.replicas" _ (by decide), hi ".status.replicas" _ (by decide),
    hi ".status.readyReplicas" _ (by decide), hi ".status.availableReplicas" _ (by decide),
    hi ".status.labelledReplicas" _ (by decide), getConditions_withGenerations o g og g' og']
  simp only [getIntField_generation, getIntField_observedGeneration, ne_eq, h]

theorem daemonsetConditions_withGenerations :
    daemonsetConditions ⟨withGenerations o g og⟩ = daemonsetConditions ⟨withGenerations o g' og'⟩ := by
  have hi := getIntField_withGenerations o g og g' og'
  dsimp only [daemonsetConditions, Unstructured.unstructuredContent]
  rw [hi ".status.desiredNumberScheduled" _ (by decide), hi ".status.currentNumberScheduled" _ (by decide),
    hi ".status.updatedNumberScheduled" _ (by decide), hi ".status.numberAvailable" _ (by decide),
    hi ".status.numberReady" _ (by decide)]
  simp only [getIntField_generation, getIntField_observedGeneration, ne_eq, h]

theorem readyConditionReader_withGenerations :
    readyConditionReader ⟨withGenerations o g og⟩ = readyConditionReader ⟨withGenerations o g' og'⟩ := by
  simp only [readyConditionReader, Unstructured.unstructuredContent, getIntField_generation,
    getIntField_observedGeneration, getConditions_withGenerations o g og g' og', ne_eq, h]

end Evaluators

/-- `IsReady` reads the generation and the observed generation only to compare them: setting the
two fields to other numbers that agree exactly when these do changes no evaluation, of any kind. -/
theorem isReady_withGenerations (o : Object) {g og g' og' : GoInt} (h : og = g ↔ og' = g') :
    isReady ⟨withGenerations o g og⟩ = isReady ⟨withGenerations o g' og'⟩ := by
  have hfn : getLegacyReadyFn ⟨withGenerations o g og⟩ = getLegacyReadyFn ⟨withGenerations o g' og'⟩ := by
    unfold getLegacyReadyFn
    rw [groupVersionKind_withGenerations o g og g' og']
  rcases hu : getLegacyReadyFn ⟨withGenerations o g og⟩ with _ | fn
  · rw [isReady_of_getLegacyReadyFn_none hu, isReady_of_getLegacyReadyFn_none (hfn ▸ hu)]
    exact readyConditionReader_withGenerations o h
  rw [isReady_of_getLegacyReadyFn hu, isReady_of_getLegacyReadyFn (hfn ▸ hu)]
  rcases getLegacyReadyFn_cases hu with ⟨-, -, rfl⟩ | ⟨-, -, rfl⟩ | ⟨-, -, rfl⟩ | ⟨-, -, rfl⟩ |
    ⟨-, -, rfl⟩ | ⟨-, -, rfl⟩ | ⟨-, -, rfl⟩ | ⟨-, -, rfl⟩ | ⟨-, -, rfl⟩ | ⟨-, -, rfl⟩
  · exact serviceConditions_withGenerations o g og g' og'
  · exact podConditions_withGenerations o g og g' og'
  · exact pvcConditions_withGenerations o g og g' og'
  · exact stsConditions_withGenerations o h
  · exact daemonsetConditions_withGenerations o h
  · exact deploymentConditions_withGenerations o h
  · exact replicasetConditions_withGenerations o h
  · exact pdbConditions_withGenerations o g og g' og'
  · rfl
  · exact jobConditions_withGenerations o g og g' og'

/-- A Deployment observed at generation 1 evaluates as the same Deployment observed at
generation 2. -/
theorem isReady_withGenerations_deployment :
    let o : Object := [("apiVersion", .str "apps/v1"), ("kind", .str "Deployment")]
    ((1 : GoInt) = 1 ↔ (2 : GoInt) = 2) ∧ isReady ⟨withGenerations o 1 1⟩ = isReady ⟨withGenerations o 2 2⟩ :=
  ⟨by decide, isReady_withGenerations _ (by decide)⟩

end CliStatus
