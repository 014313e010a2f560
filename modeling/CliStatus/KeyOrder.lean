import CliStatus.Dispatch
import Mathlib.Data.List.Forall2

/-!
# The order of map entries

A decoded object is a Go map, whose entries have no order; the model keeps them in a list read by
first binding. `ObjectEquiv` says when two such lists hold the same map: under every key both read
nothing, or values that hold the same data in the same sense, down through nested maps and lists.
The readers of `helpers.go` read the same from two equivalent objects, so the choice of evaluator,
every evaluator and `IsReady` itself return the same result for both: no result depends on the
order the model gives the entries.
-/

namespace CliStatus

/-- Two decoded values that hold the same data: maps that give equivalent values under every key,
whatever the order of their entries, lists of pairwise equivalent elements, and equal scalars. -/
inductive Value.Equiv : Value → Value → Prop
  | refl (v : Value) : Value.Equiv v v
  | list {vs ws : List Value} : List.Forall₂ Value.Equiv vs ws → Value.Equiv (.list vs) (.list ws)
  | map {m m' : Object} : (∀ k, Option.Rel Value.Equiv (m.lookup k) (m'.lookup k)) → Value.Equiv (.map m) (.map m')

/-- Two objects that hold the same data. -/
def ObjectEquiv (o o' : Object) : Prop := ∀ k, Option.Rel Value.Equiv (o.lookup k) (o'.lookup k)

theorem ObjectEquiv.refl (o : Object) : ObjectEquiv o o := fun k => by
  cases o.lookup k
  · exact .none
  · exact .some (.refl _)

theorem ObjectEquiv.cons {o o' : Object} (k : String) {v v' : Value} (hv : Value.Equiv v v')
    (h : ObjectEquiv o o') : ObjectEquiv ((k, v) :: o) ((k, v') :: o') := fun k' => by
  rw [List.lookup_cons, List.lookup_cons]
  cases k' == k
  · exact h k'
  · exact .some hv

/-- Two entries with different keys may come in either order. -/
theorem ObjectEquiv.swap {o o' : Object} {k₁ k₂ : String} (hne : k₁ ≠ k₂) {v₁ v₁' v₂ v₂' : Value}
    (h₁ : Value.Equiv v₁ v₁') (h₂ : Value.Equiv v₂ v₂') (h : ObjectEquiv o o') :
    ObjectEquiv ((k₁, v₁) :: (k₂, v₂) :: o) ((k₂, v₂') :: (k₁, v₁') :: o') := fun k => by
  simp only [List.lookup_cons]
  cases hk₁ : k == k₁ <;> cases hk₂ : k == k₂
  · exact h k
  · exact .some h₂
  · exact .some h₁
  · exact absurd ((beq_iff_eq.1 hk₁).symm.trans (beq_iff_eq.1 hk₂)) hne

/-- Two results of a field read that the typed readers cannot tell apart. -/
def ReadEquiv (r r' : Value × Bool × Option GoError) : Prop :=
  Value.Equiv r.1 r'.1 ∧ r.2.1 = r'.2.1 ∧ r.2.2.isSome = r'.2.2.isSome

theorem nestedFieldNoCopyAux_equiv (fields : List String) :
    ∀ (rest : List String) (i : Nat) {v v' : Value}, Value.Equiv v v' →
      ReadEquiv (nestedFieldNoCopyAux fields i v rest) (nestedFieldNoCopyAux fields i v' rest)
  | [], _, _, _, h => ⟨h, rfl, rfl⟩
  | field :: rest, i, _, _, h => by
    cases h with
    | refl v => exact ⟨.refl _, rfl, rfl⟩
    | list _ => exact ⟨.refl _, rfl, rfl⟩
    | @map m m' hm =>
      simp only [nestedFieldNoCopyAux]
      have hf := hm field
      generalize m.lookup field = a at hf ⊢
      generalize m'.lookup field = b at hf ⊢
      cases hf with
      | none => exact ⟨.refl _, rfl, rfl⟩
      | some hab => exact nestedFieldNoCopyAux_equiv fields rest (i + 1) hab

/-- Two results of `NestedMapSlice` that `GetConditions` cannot tell apart. -/
def SliceEquiv (r r' : Option (List Object) × Bool × Option GoError) : Prop :=
  Option.Rel (List.Forall₂ ObjectEquiv) r.1 r'.1 ∧ r.2.1 = r'.2.1 ∧ r.2.2.isSome = r'.2.2.isSome

theorem nestedMapSliceLoop_equiv (fields : List String) (val val' : Value) {vs ws : List Value}
    (h : List.Forall₂ Value.Equiv vs ws) :
    ∀ (i : Nat) {acc acc' : List Object}, List.Forall₂ ObjectEquiv acc acc' →
      SliceEquiv (nestedMapSliceLoop fields val i vs acc) (nestedMapSliceLoop fields val' i ws acc') := by
  induction h with
  | nil => exact fun _ _ _ hacc => ⟨.some hacc, rfl, rfl⟩
  | @cons a b _ _ hab _ ih =>
    intro i acc acc' hacc
    rcases hab with _ | _ | hm
    · match a with
      | .map e => exact ih (i + 1) (List.rel_append hacc (.cons (ObjectEquiv.refl e) .nil))
      | .null | .bool _ | .int _ | .int32 _ | .int64 _ | .float64 _ | .str _ | .list _ => exact ⟨.none, rfl, rfl⟩
    · exact ⟨.none, rfl, rfl⟩
    · exact ih (i + 1) (List.rel_append hacc (.cons hm .nil))

section Readers

variable {o o' : Object} (h : ObjectEquiv o o')
include h

theorem nestedFieldNoCopy_equiv (fields : List String) :
    ReadEquiv (nestedFieldNoCopy o fields) (nestedFieldNoCopy o' fields) :=
  nestedFieldNoCopyAux_equiv fields fields 0 (.map h)

theorem getIntField_equiv (p : String) (d : GoInt) : getIntField o p d = getIntField o' p d := by
  unfold getIntField
  match nestedFieldNoCopy o (splitFieldPath p), nestedFieldNoCopy o' (splitFieldPath p),
    nestedFieldNoCopy_equiv h (splitFieldPath p) with
  | (_, _, _), (_, _, _), ⟨hv, hf, he⟩ =>
    dsimp only at hf he ⊢
    rw [hf, he]
    cases hv <;> rfl

theorem getStringField_equiv (p : String) (d : String) : getStringField o p d = getStringField o' p d := by
  unfold getStringField
  match nestedFieldNoCopy o (splitFieldPath p), nestedFieldNoCopy o' (splitFieldPath p),
    nestedFieldNoCopy_equiv h (splitFieldPath p) with
  | (_, _, _), (_, _, _), ⟨hv, hf, he⟩ =>
    dsimp only at hf he ⊢
    rw [hf, he]
    cases hv <;> rfl

theorem getNestedString_equiv (fields : List String) : getNestedString o fields = getNestedString o' fields := by
  unfold getNestedString
  match nestedFieldNoCopy o fields, nestedFieldNoCopy o' fields, nestedFieldNoCopy_equiv h fields with
  | (v, f, e), (_, _, e'), ⟨hv, hf, he⟩ =>
    dsimp only at hf he
    subst hf
    cases e <;> cases e' <;> cases he
    · cases hv <;> rfl
    · cases hv with
      | refl => cases v <;> cases f <;> rfl
      | _ => rfl

theorem nestedMapSlice_equiv (fields : List String) :
    SliceEquiv (nestedMapSlice o fields) (nestedMapSlice o' fields) := by
  unfold nestedMapSlice
  match nestedFieldNoCopy o fields, nestedFieldNoCopy o' fields, nestedFieldNoCopy_equiv h fields with
  | (v, _, _), (_, _, _), ⟨hv, hf, he⟩ =>
    dsimp only at hf he ⊢
    subst hf
    rw [he]
    split_ifs
    · exact ⟨.none, rfl, he⟩
    · rcases hv with _ | hvs | _
      · match v with
        | .list vs => exact nestedMapSliceLoop_equiv fields _ _ (List.forall₂_same.2 fun _ _ => .refl _) 0 .nil
        | .null | .bool _ | .int _ | .int32 _ | .int64 _ | .float64 _ | .str _ | .map _ => exact ⟨.none, rfl, rfl⟩
      · exact nestedMapSliceLoop_equiv fields _ _ hvs 0 .nil
      · exact ⟨.none, rfl, rfl⟩

theorem getConditions_equiv : List.Forall₂ ObjectEquiv (getConditions o) (getConditions o') := by
  unfold getConditions
  match nestedMapSlice o ["status", "conditions"], nestedMapSlice o' ["status", "conditions"],
    nestedMapSlice_equiv h ["status", "conditions"] with
  | (_, _, _), (_, _, _), ⟨hs, hok, he⟩ =>
    dsimp only at hok he ⊢
    rw [he, hok]
    split_ifs
    · exact .nil
    · exact .nil
    · cases hs with
      | none => exact .nil
      | some hcs => exact hcs

end Readers

section Scans

variable {cs cs' : List Object}

/-- A fold gives the same result on two lists related entry by entry, when one step does. -/
theorem foldl_of_forall₂ {α β : Type} {R : α → α → Prop} {l l' : List α} (h : List.Forall₂ R l l')
    {f : β → α → β} (hf : ∀ b a a', R a a' → f b a = f b a') (b : β) : l.foldl f b = l'.foldl f b :=
  List.rel_foldl (fun b _ hb a a' ha => hb ▸ hf b a a' ha) rfl h

theorem any_of_forall₂ {α : Type} {R : α → α → Prop} {l l' : List α} (h : List.Forall₂ R l l') {p : α → Bool}
    (hp : ∀ a a', R a a' → p a = p a') : l.any p = l'.any p := by
  induction h with
  | nil => rfl
  | cons ha _ ih => rw [List.any_cons, List.any_cons, hp _ _ ha, ih]

theorem deploymentScan_equiv (h : List.Forall₂ ObjectEquiv cs cs') (progress available : Bool) :
    deploymentScan cs progress available = deploymentScan cs' progress available := by
  induction h generalizing progress available with
  | nil => rfl
  | cons hc _ ih => simp only [deploymentScan, getStringField_equiv hc, ih]

theorem jobScan_equiv (h : List.Forall₂ ObjectEquiv cs cs') (succeeded failed completions : GoInt) :
    jobScan succeeded failed completions cs = jobScan succeeded failed completions cs' := by
  induction h with
  | nil => rfl
  | cons hc _ ih => simp only [jobScan, getStringField_equiv hc, ih]

theorem podStep_equiv (phase : String) (acc : List Condition × Condition) {c c' : Object} (hc : ObjectEquiv c c') :
    podStep phase acc c = podStep phase acc c' := by
  simp only [podStep, getStringField_equiv hc]

theorem readyStep_equiv (acc : List Condition × Bool) {c c' : Object} (hc : ObjectEquiv c c') :
    readyStep acc c = readyStep acc c' := by
  simp only [readyStep, getStringField_equiv hc]

end Scans

section Evaluators

variable {u u' : Unstructured} (h : ObjectEquiv u.object u'.object)
include h

theorem getLegacyReadyFn_equiv : getLegacyReadyFn u = getLegacyReadyFn u' := by
  unfold getLegacyReadyFn Unstructured.groupVersionKind Unstructured.getAPIVersion Unstructured.getKind
  rw [getNestedString_equiv h, getNestedString_equiv h]

theorem stsConditions_equiv : stsConditions u = stsConditions u' := by
  simp only [stsConditions, Unstructured.unstructuredContent, getIntField_equiv h, getStringField_equiv h]

theorem deploymentConditions_equiv : deploymentConditions u = deploymentConditions u' := by
  simp only [deploymentConditions, Unstructured.unstructuredContent, getIntField_equiv h,
    deploymentScan_equiv (getConditions_equiv h)]

theorem replicasetConditions_equiv : replicasetConditions u = replicasetConditions u' := by
  dsimp only [replicasetConditions, Unstructured.unstructuredContent]
  rw [any_of_forall₂ (getConditions_equiv h) fun c c' hc => by simp only [getStringField_equiv hc]]
  simp only [getIntField_equiv h]

theorem daemonsetConditions_equiv : daemonsetConditions u = daemonsetConditions u' := by
  simp only [daemonsetConditions, Unstructured.unstructuredContent, getIntField_equiv h]

theorem pvcConditions_equiv : pvcConditions u = pvcConditions u' := by
  simp only [pvcConditions, Unstructured.unstructuredContent, getStringField_equiv h]

theorem serviceConditions_equiv : serviceConditions u = serviceConditions u' := by
  simp only [serviceConditions, Unstructured.unstructuredContent, getStringField_equiv h]

theorem pdbConditions_equiv : pdbConditions u = pdbConditions u' := by
  simp only [pdbConditions, Unstructured.unstructuredContent, getIntField_equiv h]

theorem podConditions_equiv : podConditions u = podConditions u' := by
  simp only [podConditions, Unstructured.unstructuredContent, getStringField_equiv h,
    foldl_of_forall₂ (getConditions_equiv h) fun b _ _ hc => podStep_equiv _ b hc]

theorem jobConditions_equiv : jobConditions u = jobConditions u' := by
  simp only [jobConditions, Unstructured.unstructuredContent, getIntField_equiv h, getStringField_equiv h,
    jobScan_equiv (getConditions_equiv h)]

theorem readyConditionReader_equiv : readyConditionReader u = readyConditionReader u' := by
  simp only [readyConditionReader, Unstructured.unstructuredContent, getIntField_equiv h,
    foldl_of_forall₂ (getConditions_equiv h) fun b _ _ hc => readyStep_equiv b hc]

end Evaluators

/-- Go maps have no order, and neither has `IsReady`: two objects that hold the same data, map by
map, at the top, nested, and in the condition entries, get the same conditions and error, however
the entries of each map are ordered. -/
theorem isReady_of_equiv (u u' : Unstructured) (h : ObjectEquiv u.object u'.object) : isReady u = isReady u' := by
  have hfn := getLegacyReadyFn_equiv h
  rcases hu : getLegacyReadyFn u with _ | fn
  · rw [isReady_of_getLegacyReadyFn_none hu, isReady_of_getLegacyReadyFn_none (hfn ▸ hu)]
    exact readyConditionReader_equiv h
  rw [isReady_of_getLegacyReadyFn hu, isReady_of_getLegacyReadyFn (hfn ▸ hu)]
  rcases getLegacyReadyFn_cases hu with ⟨-, -, rfl⟩ | ⟨-, -, rfl⟩ | ⟨-, -, rfl⟩ | ⟨-, -, rfl⟩ | ⟨-, -, rfl⟩ |
    ⟨-, -, rfl⟩ | ⟨-, -, rfl⟩ | ⟨-, -, rfl⟩ | ⟨-, -, rfl⟩ | ⟨-, -, rfl⟩
  · exact serviceConditions_equiv h
  · exact podConditions_equiv h
  · exact pvcConditions_equiv h
  · exact stsConditions_equiv h
  · exact daemonsetConditions_equiv h
  · exact deploymentConditions_equiv h
  · exact replicasetConditions_equiv h
  · exact pdbConditions_equiv h
  · rfl
  · exact jobConditions_equiv h

end CliStatus
