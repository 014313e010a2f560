import CliStatus.Dispatch

/-!
# What `IsReady` reads

`IsReady` reads an object through `GetIntField`, `GetStringField`, `GetConditions` and the
`apiVersion` and `kind` accessors, on a fixed set of paths: the dispatch reads `apiVersion` and
`kind`, every evaluator reads under `spec` and `status`, and of `metadata` only `generation` is read.
Two objects that agree there get the same result. One lemma per evaluator lists the paths that
evaluator reads. Two objects on which every typed read, `GetConditions` and the declared group and
kind agree get the same result too, whatever else differs.
-/

namespace CliStatus

/-- The top-level fields that `IsReady` reads whole. -/
def ReadHead (fields : List String) : Prop :=
  fields.head? ∈ [some "apiVersion", some "kind", some "spec", some "status"]

instance (fields : List String) : Decidable (ReadHead fields) := inferInstanceAs (Decidable (_ ∈ _))

section Agree

variable {u u' : Unstructured}
  (h : ∀ k ∈ ["apiVersion", "kind", "spec", "status"], u.object.lookup k = u'.object.lookup k)
include h

theorem nestedFieldNoCopy_agree {fields : List String} (hp : ReadHead fields) :
    nestedFieldNoCopy u.object fields = nestedFieldNoCopy u'.object fields := by
  obtain _ | ⟨f, rest⟩ := fields
  · simp [ReadHead] at hp
  have hf : u.object.lookup f = u'.object.lookup f := h f (by simpa [ReadHead] using hp)
  simp only [nestedFieldNoCopy, nestedFieldNoCopyAux, hf]

theorem getIntField_agree (p : String) (hp : ReadHead (splitFieldPath p)) (d : GoInt) :
    getIntField u.object p d = getIntField u'.object p d := by
  simp only [getIntField, nestedFieldNoCopy_agree h hp]

theorem getStringField_agree (p : String) (hp : ReadHead (splitFieldPath p)) (d : String) :
    getStringField u.object p d = getStringField u'.object p d := by
  simp only [getStringField, nestedFieldNoCopy_agree h hp]

theorem getNestedString_agree (fields : List String) (hp : ReadHead fields) :
    getNestedString u.object fields = getNestedString u'.object fields := by
  unfold getNestedString
  rw [nestedFieldNoCopy_agree h hp]

theorem getConditions_agree : getConditions u.object = getConditions u'.object := by
  simp only [getConditions, nestedMapSlice, nestedFieldNoCopy_agree h (show ReadHead ["status", "conditions"] by decide)]

theorem getLegacyReadyFn_agree : getLegacyReadyFn u = getLegacyReadyFn u' := by
  unfold getLegacyReadyFn Unstructured.groupVersionKind Unstructured.getAPIVersion Unstructured.getKind
  rw [getNestedString_agree h ["apiVersion"] (by decide), getNestedString_agree h ["kind"] (by decide)]

/-! The evaluators that do not check the generation. -/

theorem serviceConditions_agree : serviceConditions u = serviceConditions u' := by
  dsimp only [serviceConditions, Unstructured.unstructuredContent]
  rw [getStringField_agree h ".spec.type" (by decide), getStringField_agree h ".spec.clusterIP" (by decide)]

theorem pvcConditions_agree : pvcConditions u = pvcConditions u' := by
  dsimp only [pvcConditions, Unstructured.unstructuredContent]
  rw [getStringField_agree h ".status.phase" (by decide)]

theorem podConditions_agree : podConditions u = podConditions u' := by
  dsimp only [podConditions, Unstructured.unstructuredContent]
  rw [getConditions_agree h, getStringField_agree h ".status.phase" (by decide)]

theorem jobConditions_agree : jobConditions u = jobConditions u' := by
  dsimp only [jobConditions, Unstructured.unstructuredContent]
  rw [getConditions_agree h, getIntField_agree h ".spec.parallelism" (by decide),
    getIntField_agree h ".spec.completions" (by decide), getIntField_agree h ".status.succeeded" (by decide),
    getIntField_agree h ".status.active" (by decide), getIntField_agree h ".status.failed" (by decide),
    getStringField_agree h ".status.startTime" (by decide)]

theorem pdbConditions_agree : pdbConditions u = pdbConditions u' := by
  dsimp only [pdbConditions, Unstructured.unstructuredContent]
  rw [getIntField_agree h ".status.currentHealthy" (by decide), getIntField_agree h ".status.desiredHealthy" (by decide)]

/-! The evaluators that check `metadata.generation` first. -/

variable (hg : getIntField u.object ".metadata.generation" (-1) = getIntField u'.object ".metadata.generation" (-1))
include hg

theorem stsConditions_agree : stsConditions u = stsConditions u' := by
  dsimp only [stsConditions, Unstructured.unstructuredContent]
  rw [hg, getStringField_agree h ".spec.updateStrategy.type" (by decide),
    getIntField_agree h ".status.observedGeneration" (by decide), getIntField_agree h ".spec.replicas" (by decide),
    getIntField_agree h ".status.readyReplicas" (by decide), getIntField_agree h ".status.currentReplicas" (by decide),
    getIntField_agree h ".status.updatedReplicas" (by decide), getIntField_agree h ".status.replicas" (by decide),
    getIntField_agree h ".spec.updateStrategy.rollingUpdate.partition" (by decide),
    getStringField_agree h ".status.currentRevision" (by decide), getStringField_agree h ".status.updatedRevision" (by decide)]

theorem deploymentConditions_agree : deploymentConditions u = deploymentConditions u' := by
  dsimp only [deploymentConditions, Unstructured.unstructuredContent]
  rw [getConditions_agree h, hg, getIntField_agree h ".status.observedGeneration" (by decide),
    getIntField_agree h ".spec.replicas" (by decide), getIntField_agree h ".status.replicas" (by decide),
    getIntField_agree h ".status.updatedReplicas" (by decide), getIntField_agree h ".status.readyReplicas" (by decide),
    getIntField_agree h ".status.availableReplicas" (by decide)]

theorem replicasetConditions_agree : replicasetConditions u = replicasetConditions u' := by
  dsimp only [replicasetConditions, Unstructured.unstructuredContent]
  rw [getConditions_agree h, hg, getIntField_agree h ".status.observedGeneration" (by decide),
    getIntField_agree h ".spec.replicas" (by decide), getIntField_agree h ".status.labelledReplicas" (by decide),
    getIntField_agree h ".status.availableReplicas" (by decide), getIntField_agree h ".status.readyReplicas" (by decide),
    getIntField_agree h ".status.replicas" (by decide)]

theorem daemonsetConditions_agree : daemonsetConditions u = daemonsetConditions u' := by
  dsimp only [daemonsetConditions, Unstructured.unstructuredContent]
  rw [hg, getIntField_agree h ".status.observedGeneration" (by decide),
    getIntField_agree h ".status.desiredNumberScheduled" (by decide),
    getIntField_agree h ".status.currentNumberScheduled" (by decide),
    getIntField_agree h ".status.updatedNumberScheduled" (by decide),
    getIntField_agree h ".status.numberAvailable" (by decide), getIntField_agree h ".status.numberReady" (by decide)]

/-- The generic reader; its observed generation defaults to the object's generation. -/
theorem readyConditionReader_agree : readyConditionReader u = readyConditionReader u' := by
  dsimp only [readyConditionReader, Unstructured.unstructuredContent]
  rw [getConditions_agree h, hg, getIntField_agree h ".status.observedGeneration" (by decide)]

end Agree

/-- `IsReady` reads an object only through `GetStringField`, `GetIntField`, `GetConditions` and the
group and kind it declares. -/
theorem isReady_of_reads {u u' : Unstructured} (hgvk : u.groupVersionKind = u'.groupVersionKind)
    (hs : ∀ p d, getStringField u.object p d = getStringField u'.object p d)
    (hi : ∀ p d, getIntField u.object p d = getIntField u'.object p d)
    (hc : getConditions u.object = getConditions u'.object) : isReady u = isReady u' := by
  have hfn : getLegacyReadyFn u = getLegacyReadyFn u' := by
    unfold getLegacyReadyFn
    rw [hgvk]
  rcases hu : getLegacyReadyFn u with _ | fn
  · rw [isReady_of_getLegacyReadyFn_none hu, isReady_of_getLegacyReadyFn_none (hfn ▸ hu)]
    dsimp only [readyConditionReader, Unstructured.unstructuredContent]
    simp only [hi, hc]
  rw [isReady_of_getLegacyReadyFn hu, isReady_of_getLegacyReadyFn (hfn ▸ hu)]
  rcases getLegacyReadyFn_cases hu with ⟨-, -, rfl⟩ | ⟨-, -, rfl⟩ | ⟨-, -, rfl⟩ | ⟨-, -, rfl⟩ | ⟨-, -, rfl⟩ |
    ⟨-, -, rfl⟩ | ⟨-, -, rfl⟩ | ⟨-, -, rfl⟩ | ⟨-, -, rfl⟩ | ⟨-, -, rfl⟩
  all_goals dsimp only [serviceConditions, podConditions, pvcConditions, stsConditions, daemonsetConditions,
    deploymentConditions, replicasetConditions, pdbConditions, alwaysReady, jobConditions,
    Unstructured.unstructuredContent]
  all_goals simp only [hs, hi, hc]

/-- `IsReady` reads nothing of an object but `apiVersion`, `kind`, `spec`, `status` and the
generation in `metadata`: two objects that agree there get the same conditions and error, whatever
their name, namespace, labels, annotations or other fields. -/
theorem isReady_of_agree (u u' : Unstructured)
    (h : ∀ k ∈ ["apiVersion", "kind", "spec", "status"], u.object.lookup k = u'.object.lookup k)
    (hg : getIntField u.object ".metadata.generation" (-1) = getIntField u'.object ".metadata.generation" (-1)) :
    isReady u = isReady u' := by
  have hfn := getLegacyReadyFn_agree h
  rcases hu : getLegacyReadyFn u with _ | fn
  · rw [isReady_of_getLegacyReadyFn_none hu, isReady_of_getLegacyReadyFn_none (hfn ▸ hu)]
    exact readyConditionReader_agree h hg
  rw [isReady_of_getLegacyReadyFn hu, isReady_of_getLegacyReadyFn (hfn ▸ hu)]
  rcases getLegacyReadyFn_cases hu with ⟨-, -, rfl⟩ | ⟨-, -, rfl⟩ | ⟨-, -, rfl⟩ | ⟨-, -, rfl⟩ | ⟨-, -, rfl⟩ |
    ⟨-, -, rfl⟩ | ⟨-, -, rfl⟩ | ⟨-, -, rfl⟩ | ⟨-, -, rfl⟩ | ⟨-, -, rfl⟩
  · exact serviceConditions_agree h
  · exact podConditions_agree h
  · exact pvcConditions_agree h
  · exact stsConditions_agree h hg
  · exact daemonsetConditions_agree h hg
  · exact deploymentConditions_agree h hg
  · exact replicasetConditions_agree h hg
  · exact pdbConditions_agree h
  · rfl
  · exact jobConditions_agree h

/-- A Deployment renamed and labelled, with its fields in another order, reads as before. -/
theorem isReady_relabelled :
    let u : Unstructured := ⟨[("apiVersion", .str "apps/v1"), ("kind", .str "Deployment"),
      ("metadata", .map [("name", .str "web")])]⟩
    let u' : Unstructured := ⟨[("metadata", .map [("name", .str "web-2"), ("labels", .map [("app", .str "web")])]),
      ("apiVersion", .str "apps/v1"), ("kind", .str "Deployment")]⟩
    ((∀ k ∈ ["apiVersion", "kind", "spec", "status"], u.object.lookup k = u'.object.lookup k) ∧
      getIntField u.object ".metadata.generation" (-1) = getIntField u'.object ".metadata.generation" (-1)) ∧
    isReady u = isReady u' := by
  intro u u'
  have h : ∀ k ∈ ["apiVersion", "kind", "spec", "status"], u.object.lookup k = u'.object.lookup k := by
    simp only [List.mem_cons, List.not_mem_nil, or_false]
    rintro k (rfl | rfl | rfl | rfl) <;> rfl
  exact ⟨⟨h, rfl⟩, isReady_of_agree u u' h rfl⟩

end CliStatus
