import CliStatus.Invariants

/-!
# What `IsReady` can report

Two facts across the evaluators. A generation mismatch is checked first by the apps evaluators
(after the `ondelete` test of the StatefulSet) and by the generic reader, and then decides the
result alone. And every condition any evaluator builds comes from `NewFalseCondition`,
`NewCondition` or `False`: it is a `Ready` condition with status `True` or `False`, or a
terminal condition with status `True`; `Settled` and `Unknown` never appear. Last, every reason a
dedicated evaluator writes starts with text of its own, so only the generic reader, which copies
the reason of an object's `Ready` entry, can report a blank one.
-/

namespace CliStatus

/-- A generation mismatch decides the result of the Deployment, ReplicaSet and DaemonSet
evaluators, of the StatefulSet evaluator unless its strategy is `ondelete`, which is tested first,
and of the generic reader, whose observed generation defaults to the object's own. -/
theorem isReady_generationMismatch (u : Unstructured) :
    (u.groupVersionKind.group = "apps" →
      (u.groupVersionKind.kind = "Deployment" ∨ u.groupVersionKind.kind = "ReplicaSet" ∨
        u.groupVersionKind.kind = "DaemonSet" ∨
        u.groupVersionKind.kind = "StatefulSet" ∧ getStringField u.object ".spec.updateStrategy.type" "" ≠ "ondelete") →
      getIntField u.object ".status.observedGeneration" (-1) ≠ getIntField u.object ".metadata.generation" (-1) →
      isReady u = ([⟨.ready, "False", generationMismatch⟩], none)) ∧
    (getLegacyReadyFn u = none →
      getIntField u.object ".status.observedGeneration" (getIntField u.object ".metadata.generation" (-1)) ≠
        getIntField u.object ".metadata.generation" (-1) →
      isReady u = ([⟨.ready, "False", generationMismatch⟩], none)) ∧
    (u.groupVersionKind.group = "apps" → u.groupVersionKind.kind = "StatefulSet" →
      getStringField u.object ".spec.updateStrategy.type" "" = "ondelete" →
      isReady u = ([⟨.ready, "True", "ondelete strategy"⟩], none)) := by
  refine ⟨fun hg hk h => ?_, fun hn h => ?_, fun hg hk hs => ?_⟩
  · rcases hk with hk | hk | hk | ⟨hk, hs⟩ <;>
      rw [isReady_of_getLegacyReadyFn (getLegacyReadyFn_of_groupVersionKind hg hk)]
    · dsimp only [deploymentConditions, Unstructured.unstructuredContent]
      rw [if_pos h]
      rfl
    · dsimp only [replicasetConditions, Unstructured.unstructuredContent]
      rw [if_pos h]
      rfl
    · dsimp only [daemonsetConditions, Unstructured.unstructuredContent]
      rw [if_pos h]
      rfl
    · dsimp only [stsConditions, Unstructured.unstructuredContent]
      rw [if_neg hs, if_pos h]
      rfl
  · rw [isReady_of_getLegacyReadyFn_none hn, readyConditionReader_eq, if_pos h]
  · rw [isReady_of_getLegacyReadyFn (getLegacyReadyFn_of_groupVersionKind hg hk)]
    dsimp only [stsConditions, Unstructured.unstructuredContent]
    rw [if_pos hs]
    rfl

/-- A `Ready` condition with status `True` or `False`, or a terminal condition with status
`True`. -/
def Reportable (c : Condition) : Prop :=
  c.type = .ready ∧ (c.status = "True" ∨ c.status = "False") ∨
    (c.type = .completed ∨ c.type = .failed) ∧ c.status = "True"

instance (c : Condition) : Decidable (Reportable c) := inferInstanceAs (Decidable (_ ∨ _))

section Evaluators

theorem forall_ite {P : Condition → Prop} {p : Prop} [Decidable p] {a b : List Condition × Option GoError}
    (ha : p → ∀ c ∈ a.1, P c) (hb : ¬p → ∀ c ∈ b.1, P c) :
    ∀ c ∈ (if p then a else b).1, P c := by
  by_cases h : p
  · rw [if_pos h]; exact ha h
  · rw [if_neg h]; exact hb h

theorem reportable_not_ready (r : String) :
    ∀ c ∈ ([{ newFalseCondition .ready with reason := r }], (none : Option GoError)).1, Reportable c := by
  simp [Reportable, newFalseCondition]

theorem reportable_ready (r : String) :
    ∀ c ∈ ([{ newFalseCondition .ready with status := "True", reason := r }], (none : Option GoError)).1,
      Reportable c := by
  simp [Reportable, newFalseCondition]

variable (u : Unstructured)

theorem reportable_stsConditions : ∀ c ∈ (stsConditions u).1, Reportable c := by
  dsimp only [stsConditions]
  repeat' (apply forall_ite <;> intro)
  all_goals first | exact reportable_not_ready _ | exact reportable_ready _

theorem reportable_deploymentConditions : ∀ c ∈ (deploymentConditions u).1, Reportable c := by
  dsimp only [deploymentConditions]
  apply forall_ite <;> intro
  · exact reportable_not_ready _
  split
  · exact reportable_not_ready _
  repeat' (apply forall_ite <;> intro)
  all_goals first | exact reportable_not_ready _ | exact reportable_ready _

theorem reportable_replicasetConditions : ∀ c ∈ (replicasetConditions u).1, Reportable c := by
  dsimp only [replicasetConditions]
  repeat' (apply forall_ite <;> intro)
  all_goals first | exact reportable_not_ready _ | exact reportable_ready _

theorem reportable_daemonsetConditions : ∀ c ∈ (daemonsetConditions u).1, Reportable c := by
  dsimp only [daemonsetConditions]
  repeat' (apply forall_ite <;> intro)
  all_goals first | exact reportable_not_ready _ | exact reportable_ready _

theorem reportable_pdbConditions : ∀ c ∈ (pdbConditions u).1, Reportable c := by
  dsimp only [pdbConditions]
  repeat' (apply forall_ite <;> intro)
  all_goals first | exact reportable_not_ready _ | exact reportable_ready _

theorem reportable_serviceConditions : ∀ c ∈ (serviceConditions u).1, Reportable c := by
  dsimp only [serviceConditions]
  split_ifs <;> simp [Reportable]

theorem reportable_pvcConditions : ∀ c ∈ (pvcConditions u).1, Reportable c := by
  dsimp only [pvcConditions]
  repeat' (apply forall_ite <;> intro)
  all_goals first | exact reportable_not_ready _ | exact reportable_ready _

theorem reportable_jobConditions : ∀ c ∈ (jobConditions u).1, Reportable c := by
  dsimp only [jobConditions]
  rw [jobScan_eq]
  cases (getConditions u.unstructuredContent).find? isJobFinishedEntry with
  | some c =>
    simp only [Option.map_some', jobFinished]
    split_ifs <;> simp [Reportable]
  | none => split_ifs <;> simp [Reportable]

theorem foldl_podStep_snd_status (phase : String) (cs : List Object) (acc : List Condition × Condition)
    (h : acc.2.status = "True" ∨ acc.2.status = "False") :
    (cs.foldl (podStep phase) acc).2.status = "True" ∨ (cs.foldl (podStep phase) acc).2.status = "False" := by
  induction cs generalizing acc with
  | nil => exact h
  | cons c cs ih =>
    refine ih _ ?_
    simp only [podStep]
    split_ifs <;> simp [h]

theorem reportable_podConditions : ∀ c ∈ (podConditions u).1, Reportable c := by
  have h1 := foldl_podStep_fst (getStringField u.object ".status.phase" "unknown") (getConditions u.object)
    ([], newFalseCondition .ready)
  have h2 := foldl_podStep_snd_type (getStringField u.object ".status.phase" "unknown")
    (getConditions u.object) ([], newFalseCondition .ready)
  have h3 := foldl_podStep_snd_status (getStringField u.object ".status.phase" "unknown")
    (getConditions u.object) ([], newFalseCondition .ready) (.inr rfl)
  dsimp only [podConditions, Unstructured.unstructuredContent]
  generalize List.foldl _ _ _ = acc at h1 h2 h3
  obtain ⟨rv, rc⟩ := acc
  simp only [List.nil_append] at h1
  subst h1
  have hterm : Reportable (podTerminal (getStringField u.object ".status.phase" "unknown")) := by
    unfold podTerminal
    split_ifs <;> simp [Reportable]
  simp only [List.mem_append, List.mem_map, List.mem_singleton]
  rintro c (⟨_, _, rfl⟩ | rfl)
  · exact hterm
  · split_ifs <;> exact .inl ⟨h2, h3⟩

theorem reportable_readyConditionReader : ∀ c ∈ (readyConditionReader u).1, Reportable c := by
  rw [readyConditionReader_eq]
  split_ifs
  · simp [Reportable]
  · simp [Reportable]
  · simp only [List.mem_map]
    rintro _ ⟨c, -, rfl⟩
    unfold readyEntryCondition
    split_ifs <;> simp [Reportable]

end Evaluators

/-- Every condition `IsReady` returns is a `Ready` condition with status `True` or `False`, or a
`Completed` or `Failed` condition with status `True`: no evaluator reports `Settled`, an `Unknown`
status, or a terminal condition that is not `True`. -/
theorem isReady_reportable (u : Unstructured) : ∀ c ∈ (isReady u).1, Reportable c := by
  rcases h : getLegacyReadyFn u with _ | fn
  · rw [isReady_of_getLegacyReadyFn_none h]
    exact reportable_readyConditionReader u
  rw [isReady_of_getLegacyReadyFn h]
  rcases getLegacyReadyFn_cases h with ⟨-, -, rfl⟩ | ⟨-, -, rfl⟩ | ⟨-, -, rfl⟩ | ⟨-, -, rfl⟩ | ⟨-, -, rfl⟩ |
    ⟨-, -, rfl⟩ | ⟨-, -, rfl⟩ | ⟨-, -, rfl⟩ | ⟨-, -, rfl⟩ | ⟨-, -, rfl⟩
  · exact reportable_serviceConditions u
  · exact reportable_podConditions u
  · exact reportable_pvcConditions u
  · exact reportable_stsConditions u
  · exact reportable_daemonsetConditions u
  · exact reportable_deploymentConditions u
  · exact reportable_replicasetConditions u
  · exact reportable_pdbConditions u
  · simp [alwaysReady, Reportable]
  · exact reportable_jobConditions u

theorem isReady_reportable_widget :
    (⟨.ready, "True", "No Ready condition found"⟩ : Condition) ∈ (isReady (kindObject "example.com/v1" "Widget")).1 ∧
      Reportable ⟨.ready, "True", "No Ready condition found"⟩ :=
  have h : (⟨.ready, "True", "No Ready condition found"⟩ : Condition) ∈
      (isReady (kindObject "example.com/v1" "Widget")).1 := by decide
  ⟨h, isReady_reportable _ _ h⟩

theorem append_ne_empty {a : String} (h : a ≠ "") (b : String) : a ++ b ≠ "" := fun hab =>
  h (String.ext (List.append_eq_nil.1 (congrArg String.data hab)).1)

section Reasons

theorem reason_single {c : Condition} (h : c.reason ≠ "") :
    ∀ c' ∈ ([c], (none : Option GoError)).1, c'.reason ≠ "" := by
  simpa using h

theorem reason_pair {m : String} (h : m ≠ "") (t : ConditionType) :
    ∀ c ∈ [newCondition .ready m, newCondition t m], c.reason ≠ "" := by
  simpa using h

variable (u : Unstructured)

theorem reason_stsConditions : ∀ c ∈ (stsConditions u).1, c.reason ≠ "" := by
  dsimp only [stsConditions]
  repeat' (apply forall_ite <;> intro)
  all_goals exact reason_single (by dsimp only; (repeat' apply append_ne_empty); decide)

theorem reason_deploymentConditions : ∀ c ∈ (deploymentConditions u).1, c.reason ≠ "" := by
  dsimp only [deploymentConditions]
  apply forall_ite <;> intro
  · exact reason_single (by decide)
  split
  · exact reason_single (by decide)
  repeat' (apply forall_ite <;> intro)
  all_goals exact reason_single (by dsimp only; (repeat' apply append_ne_empty); decide)

theorem reason_replicasetConditions : ∀ c ∈ (replicasetConditions u).1, c.reason ≠ "" := by
  dsimp only [replicasetConditions]
  repeat' (apply forall_ite <;> intro)
  all_goals exact reason_single (by dsimp only; (repeat' apply append_ne_empty); decide)

theorem reason_daemonsetConditions : ∀ c ∈ (daemonsetConditions u).1, c.reason ≠ "" := by
  dsimp only [daemonsetConditions]
  repeat' (apply forall_ite <;> intro)
  all_goals exact reason_single (by dsimp only; (repeat' apply append_ne_empty); decide)

theorem reason_pdbConditions : ∀ c ∈ (pdbConditions u).1, c.reason ≠ "" := by
  dsimp only [pdbConditions]
  repeat' (apply forall_ite <;> intro)
  all_goals exact reason_single (by dsimp only; (repeat' apply append_ne_empty); decide)

theorem reason_pvcConditions : ∀ c ∈ (pvcConditions u).1, c.reason ≠ "" := by
  dsimp only [pvcConditions]
  repeat' (apply forall_ite <;> intro)
  all_goals exact reason_single (by dsimp only; (repeat' apply append_ne_empty); decide)

theorem reason_serviceConditions : ∀ c ∈ (serviceConditions u).1, c.reason ≠ "" := by
  dsimp only [serviceConditions]
  repeat' (apply forall_ite <;> intro)
  all_goals exact reason_single (by dsimp only [newCondition, Condition.False]; (repeat' apply append_ne_empty); decide)

theorem reason_jobConditions : ∀ c ∈ (jobConditions u).1, c.reason ≠ "" := by
  dsimp only [jobConditions]
  rw [jobScan_eq]
  cases (getConditions u.unstructuredContent).find? isJobFinishedEntry with
  | some c =>
    simp only [Option.map_some', jobFinished]
    split_ifs
    · exact reason_pair (by (repeat' apply append_ne_empty); decide) _
    · exact reason_pair (by (repeat' apply append_ne_empty); decide) _
  | none =>
    repeat' (apply forall_ite <;> intro)
    all_goals exact reason_single (by dsimp only [newCondition, Condition.False]; (repeat' apply append_ne_empty); decide)

theorem reason_podTerminal (phase : String) : (podTerminal phase).reason ≠ "" := by
  unfold podTerminal
  split_ifs
  · decide
  · exact append_ne_empty (append_ne_empty (by decide) _) _

theorem reason_podConditions : ∀ c ∈ (podConditions u).1, c.reason ≠ "" := by
  have h1 := foldl_podStep_fst (getStringField u.object ".status.phase" "unknown") (getConditions u.object)
    ([], newFalseCondition .ready)
  dsimp only [podConditions, Unstructured.unstructuredContent]
  generalize List.foldl _ _ _ = acc at h1
  obtain ⟨rv, rc⟩ := acc
  simp only [List.nil_append] at h1
  subst h1
  simp only [List.mem_append, List.mem_map, List.mem_singleton]
  rintro c (⟨_, _, rfl⟩ | rfl)
  · exact reason_podTerminal _
  · split_ifs
    · exact append_ne_empty (by decide) _
    · exact append_ne_empty (append_ne_empty (append_ne_empty (by decide) _) _) _

/-- The generic reader's own conditions have reasons; the one it emits for a `Ready` entry copies
that entry's reason. -/
theorem readyConditionReader_blank_reason :
    ∀ c ∈ (readyConditionReader u).1, c.reason = "" →
      ∃ e ∈ getConditions u.object, getStringField e "type" "" = "Ready" ∧ getStringField e "reason" "" = "" := by
  rw [readyConditionReader_eq]
  split_ifs
  · simp only [List.mem_singleton]
    rintro _ rfl h
    exact absurd h (by decide)
  · simp only [List.mem_singleton]
    rintro _ rfl h
    exact absurd h (by decide)
  · simp only [List.mem_map, List.mem_filter]
    rintro _ ⟨e, ⟨he, hr⟩, rfl⟩ h
    exact ⟨e, he, by simpa [isReadyEntry] using hr, h⟩

end Reasons

theorem reason_of_getLegacyReadyFn {u : Unstructured} {fn : GetConditionsFn} (h : getLegacyReadyFn u = some fn) :
    ∀ c ∈ (fn u).1, c.reason ≠ "" := by
  rcases getLegacyReadyFn_cases h with ⟨-, -, rfl⟩ | ⟨-, -, rfl⟩ | ⟨-, -, rfl⟩ | ⟨-, -, rfl⟩ | ⟨-, -, rfl⟩ |
    ⟨-, -, rfl⟩ | ⟨-, -, rfl⟩ | ⟨-, -, rfl⟩ | ⟨-, -, rfl⟩ | ⟨-, -, rfl⟩
  · exact reason_serviceConditions u
  · exact reason_podConditions u
  · exact reason_pvcConditions u
  · exact reason_stsConditions u
  · exact reason_daemonsetConditions u
  · exact reason_deploymentConditions u
  · exact reason_replicasetConditions u
  · exact reason_pdbConditions u
  · exact reason_single (by decide)
  · exact reason_jobConditions u

/-- Every condition `IsReady` reports gives a reason, except one the generic reader copies from
a `Ready` entry of the object's own `status.conditions` whose reason is empty or missing: no
dedicated evaluator reports a blank reason. -/
theorem isReady_blank_reason (u : Unstructured) :
    ∀ c ∈ (isReady u).1, c.reason = "" → getLegacyReadyFn u = none ∧
      ∃ e ∈ getConditions u.object, getStringField e "type" "" = "Ready" ∧ getStringField e "reason" "" = "" := by
  intro c hc hblank
  rcases h : getLegacyReadyFn u with _ | fn
  · rw [isReady_of_getLegacyReadyFn_none h] at hc
    exact ⟨rfl, readyConditionReader_blank_reason u c hc hblank⟩
  · rw [isReady_of_getLegacyReadyFn h] at hc
    exact absurd hblank (reason_of_getLegacyReadyFn h c hc)

theorem isReady_blank_reason_widget :
    let u : Unstructured := ⟨[("apiVersion", .str "example.com/v1"), ("kind", .str "Widget"),
      ("status", .map [("conditions", .list [.map [("type", .str "Ready"), ("status", .str "True")]])])]⟩
    (⟨.ready, "True", ""⟩ : Condition) ∈ (isReady u).1 ∧ getLegacyReadyFn u = none ∧
      ∃ e ∈ getConditions u.object, getStringField e "type" "" = "Ready" ∧ getStringField e "reason" "" = "" := by
  intro u
  have h : (⟨.ready, "True", ""⟩ : Condition) ∈ (isReady u).1 := by decide
  exact ⟨h, isReady_blank_reason u _ h rfl⟩

end CliStatus
