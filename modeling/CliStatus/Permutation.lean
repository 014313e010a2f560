import CliStatus.Dispatch
import CliStatus.FieldAccess
import Mathlib.Data.List.Perm.Basic
import Mathlib.Data.List.Nodup

/-!
# Order of the condition entries

How the evaluators depend on the order of `status.conditions`. `withConditions` replaces that
list in an object. No typed read of the object changes, on any path: paths at or under
`status.conditions` meet a map, a list or an error and give the default. So only the scans over
the entries can tell two orders apart. The deployment and replicaset scans combine entries
by "or". The pod loop and the generic reader act on `Ready` entries only, and among entries with
pairwise distinct `type` values there is at most one. The job loop returns at the first finished
entry, and a job can hold two: a `Complete` and a `Failed` one, both with status `True`. For them
the order decides the result.
-/

namespace CliStatus

/-- The assignment `m[k] = v` on a Go map: the first binding of `k` is replaced, or one is added. -/
def setField : Object → String → Value → Object
  | [], k, v => [(k, v)]
  | (k', v') :: m, k, v => if k' = k then (k, v) :: m else (k', v') :: setField m k v

@[simp] theorem lookup_setField_self (m : Object) (k : String) (v : Value) :
    (setField m k v).lookup k = some v := by
  induction m with
  | nil => simp [setField, List.lookup_cons]
  | cons b m ih =>
    obtain ⟨k₀, v₀⟩ := b
    by_cases h : k₀ = k
    · simp [setField, h, List.lookup_cons]
    · simp [setField, h, List.lookup_cons, ih, beq_false_of_ne (Ne.symm h)]

theorem lookup_setField_of_ne {k k' : String} (h : k' ≠ k) (m : Object) (v : Value) :
    (setField m k v).lookup k' = m.lookup k' := by
  induction m with
  | nil => simp [setField, List.lookup_cons, beq_false_of_ne h]
  | cons b m ih =>
    obtain ⟨k₀, v₀⟩ := b
    by_cases hb : k₀ = k
    · subst hb
      simp [setField, List.lookup_cons, beq_false_of_ne h]
    · simp [setField, hb, List.lookup_cons, ih]

theorem setField_of_lookup {m : Object} {k : String} {v : Value} (h : m.lookup k = some v) :
    setField m k v = m := by
  induction m with
  | nil => cases h
  | cons b m ih =>
    obtain ⟨k₀, v₀⟩ := b
    by_cases hk : k₀ = k
    · subst hk
      simp only [List.lookup_cons, beq_self_eq_true, Option.some.injEq] at h
      simp [setField, h]
    · have hk' : (k == k₀) = false := beq_false_of_ne (Ne.symm hk)
      simp only [List.lookup_cons, hk'] at h
      simp [setField, hk, ih h]

/-- The `status` map of an object, empty when there is none. -/
def statusOf (o : Object) : Object :=
  match o.lookup "status" with
  | some (.map st) => st
  | _ => []

/-- The object with `status.conditions` set to the given entries, as `SetNestedSlice` sets it in
an object whose `status` is a map; any other `status` is replaced by a new map. -/
def withConditions (o : Object) (cs : List Object) : Object :=
  setField o "status" (.map (setField (statusOf o) "conditions" (.list (cs.map .map))))

/-- The object with `status.conditions` set to a list of any decoded values. -/
def withConditionValues (o : Object) (vs : List Value) : Object :=
  setField o "status" (.map (setField (statusOf o) "conditions" (.list vs)))

theorem withConditions_eq (o : Object) (cs : List Object) :
    withConditions o cs = withConditionValues o (cs.map .map) := rfl

/-- The object's `status.conditions` is the list of the given maps. -/
def HasConditions (o : Object) (cs : List Object) : Prop :=
  ∃ st, o.lookup "status" = some (.map st) ∧ st.lookup "conditions" = some (.list (cs.map .map))

theorem withConditions_of_hasConditions {o : Object} {cs : List Object} (h : HasConditions o cs) :
    withConditions o cs = o := by
  obtain ⟨st, hs, hc⟩ := h
  simp only [withConditions, statusOf, hs, setField_of_lookup hc]
  exact setField_of_lookup hs

/-- A field path that reads neither `status` whole nor anything at or under `status.conditions`. -/
def OutsideConditions (fields : List String) : Prop :=
  fields ≠ [] ∧ fields ≠ ["status"] ∧ fields.take 2 ≠ ["status", "conditions"]

/-- A read that the typed readers turn into their default: a map, a list, or an error. -/
def ReadsDefault : Value × Bool × Option GoError → Prop
  | (.map _, _, _) => True
  | (.list _, _, _) => True
  | (_, _, e) => e.isSome

theorem getStringField_of_readsDefault {obj : Object} {fieldPath : String}
    (h : ReadsDefault (nestedFieldNoCopy obj (splitFieldPath fieldPath))) (d : String) :
    getStringField obj fieldPath d = d := by
  unfold getStringField
  generalize nestedFieldNoCopy obj (splitFieldPath fieldPath) = r at h ⊢
  obtain ⟨v, f, _ | e⟩ := r <;> cases v <;> simp_all [ReadsDefault]

theorem getIntField_of_readsDefault {obj : Object} {fieldPath : String}
    (h : ReadsDefault (nestedFieldNoCopy obj (splitFieldPath fieldPath))) (d : GoInt) :
    getIntField obj fieldPath d = d := by
  unfold getIntField
  generalize nestedFieldNoCopy obj (splitFieldPath fieldPath) = r at h ⊢
  obtain ⟨v, f, _ | e⟩ := r <;> cases v <;> simp_all [ReadsDefault]

theorem getNestedString_of_readsDefault {obj : Object} {fields : List String}
    (h : ReadsDefault (nestedFieldNoCopy obj fields)) : getNestedString obj fields = "" := by
  unfold getNestedString
  generalize nestedFieldNoCopy obj fields = r at h ⊢
  obtain ⟨v, f, _ | e⟩ := r <;> cases v <;> simp_all [ReadsDefault]

section Frame

variable (o : Object) (vs vs' : List Value)

theorem nestedFieldNoCopy_withConditionValues {fields : List String} (h : OutsideConditions fields) :
    nestedFieldNoCopy (withConditionValues o vs) fields = nestedFieldNoCopy (withConditionValues o vs') fields := by
  obtain ⟨hne, hst, hcond⟩ := h
  obtain _ | ⟨f, rest⟩ := fields
  · exact absurd rfl hne
  unfold nestedFieldNoCopy
  simp only [nestedFieldNoCopyAux]
  by_cases hf : f = "status"
  · subst hf
    obtain _ | ⟨g, rest⟩ := rest
    · exact absurd rfl hst
    have hg : g ≠ "conditions" := by rintro rfl; exact hcond rfl
    simp only [withConditionValues, lookup_setField_self, nestedFieldNoCopyAux, lookup_setField_of_ne hg]
  · simp only [withConditionValues, lookup_setField_of_ne hf]

theorem readsDefault_withConditionValues {fields : List String} (h : ¬OutsideConditions fields) :
    ReadsDefault (nestedFieldNoCopy (withConditionValues o vs) fields) := by
  simp only [OutsideConditions, not_and_or, not_not] at h
  rcases h with rfl | rfl | h
  · trivial
  · simp [nestedFieldNoCopy, nestedFieldNoCopyAux, withConditionValues, ReadsDefault]
  · obtain _ | ⟨f, _ | ⟨g, rest⟩⟩ := fields <;> simp only [List.take_nil, List.take_succ_cons,
      List.take_zero, List.cons.injEq, reduceCtorEq, and_false, false_and, and_true] at h
    obtain ⟨rfl, rfl⟩ := h
    cases rest <;> simp [nestedFieldNoCopy, nestedFieldNoCopyAux, withConditionValues, ReadsDefault]

theorem getStringField_withConditionValues (fieldPath : String) (d : String) :
    getStringField (withConditionValues o vs) fieldPath d = getStringField (withConditionValues o vs') fieldPath d := by
  by_cases h : OutsideConditions (splitFieldPath fieldPath)
  · simp only [getStringField, nestedFieldNoCopy_withConditionValues o vs vs' h]
  · rw [getStringField_of_readsDefault (readsDefault_withConditionValues o vs h),
      getStringField_of_readsDefault (readsDefault_withConditionValues o vs' h)]

theorem getIntField_withConditionValues (fieldPath : String) (d : GoInt) :
    getIntField (withConditionValues o vs) fieldPath d = getIntField (withConditionValues o vs') fieldPath d := by
  by_cases h : OutsideConditions (splitFieldPath fieldPath)
  · simp only [getIntField, nestedFieldNoCopy_withConditionValues o vs vs' h]
  · rw [getIntField_of_readsDefault (readsDefault_withConditionValues o vs h),
      getIntField_of_readsDefault (readsDefault_withConditionValues o vs' h)]

theorem getNestedString_withConditionValues (fields : List String) :
    getNestedString (withConditionValues o vs) fields = getNestedString (withConditionValues o vs') fields := by
  by_cases h : OutsideConditions fields
  · simp only [getNestedString, nestedFieldNoCopy_withConditionValues o vs vs' h]
  · rw [getNestedString_of_readsDefault (readsDefault_withConditionValues o vs h),
      getNestedString_of_readsDefault (readsDefault_withConditionValues o vs' h)]

theorem groupVersionKind_withConditionValues :
    Unstructured.groupVersionKind ⟨withConditionValues o vs⟩ =
      Unstructured.groupVersionKind ⟨withConditionValues o vs'⟩ := by
  simp only [Unstructured.groupVersionKind, Unstructured.getAPIVersion, Unstructured.getKind,
    getNestedString_withConditionValues o vs vs']

variable (cs cs' : List Object)

theorem getStringField_withConditions (fieldPath : String) (d : String) :
    getStringField (withConditions o cs) fieldPath d = getStringField (withConditions o cs') fieldPath d :=
  getStringField_withConditionValues o _ _ fieldPath d

theorem getIntField_withConditions (fieldPath : String) (d : GoInt) :
    getIntField (withConditions o cs) fieldPath d = getIntField (withConditions o cs') fieldPath d :=
  getIntField_withConditionValues o _ _ fieldPath d

theorem groupVersionKind_withConditions :
    Unstructured.groupVersionKind ⟨withConditions o cs⟩ = Unstructured.groupVersionKind ⟨withConditions o cs'⟩ :=
  groupVersionKind_withConditionValues o _ _

theorem getConditions_withConditions : getConditions (withConditions o cs) = cs := by
  simp [getConditions, nestedMapSlice, nestedFieldNoCopy, nestedFieldNoCopyAux, withConditions,
    nestedMapSliceLoop_map]

end Frame

section Scans

variable {cs cs' : List Object}

end Scans

section Evaluators

variable (o : Object) {cs cs' : List Object}

theorem withConditions_of_conditions_unread (fn : GetConditionsFn)
    (hfn : fn ∈ [serviceConditions, pvcConditions, stsConditions, daemonsetConditions, pdbConditions,
      alwaysReady]) :
    fn ⟨withConditions o cs⟩ = fn ⟨withConditions o cs'⟩ := by
  simp only [List.mem_cons, List.mem_singleton, List.not_mem_nil, or_false] at hfn
  rcases hfn with rfl | rfl | rfl | rfl | rfl | rfl <;>
    simp only [serviceConditions, pvcConditions, stsConditions, daemonsetConditions,
      pdbConditions, alwaysReady, Unstructured.unstructuredContent, getIntField_withConditions o cs cs',
      getStringField_withConditions o cs cs']

end Evaluators

/-- A `status.conditions` entry with a type and a status. -/
def conditionEntry (type status : String) : Object := [("type", .str type), ("status", .str status)]

end CliStatus
