import CliStatus.Kinds
import Mathlib.Data.List.Nodup

/-!
# What every evaluation reports

Facts about `IsReady` over all objects, whichever evaluator it dispatches to. Every result
carries a `Ready` condition and no error. The dedicated evaluators produce one condition of each
type and never a terminal condition beside `Ready=False`, with one exception: the pod loop
overwrites its ready condition at every `Ready` entry but appends a terminal condition at each
completed one, so pods with repeated `Ready` entries escape both. A terminal condition stands
beside `Ready=False` exactly when the last `Ready` entry is neither ready nor completed and an
earlier one is completed.
-/

namespace CliStatus

/-- The three shapes of a dedicated evaluator's result. -/
theorem isReady_of_legacy {u : Unstructured} {fn : GetConditionsFn} (h : getLegacyReadyFn u = some fn) :
    let g := u.groupVersionKind.group
    let k := u.groupVersionKind.kind
    (g = "" ∧ k = "Pod" ∧ isReady u = podConditions u) ∨
      ¬(g = "" ∧ k = "Pod") ∧
        ((∃ c, isReady u = ([c], none) ∧ c.type = .ready) ∨
          ∃ m t, (t = .completed ∨ t = .failed) ∧
            isReady u = ([newCondition .ready m, newCondition t m], none)) := by
  rw [isReady_of_getLegacyReadyFn h]
  rcases getLegacyReadyFn_cases h with ⟨hg, hk, rfl⟩ | ⟨hg, hk, rfl⟩ | ⟨hg, hk, rfl⟩ | ⟨hg, hk, rfl⟩ |
    ⟨hg, hk, rfl⟩ | ⟨hg, hk, rfl⟩ | ⟨hg, hk, rfl⟩ | ⟨hg, hk, rfl⟩ | ⟨hg, hk, rfl⟩ | ⟨hg, hk, rfl⟩
  · exact .inr ⟨by simp [hk], .inl (serviceConditions_verdict u).single⟩
  · exact .inl ⟨hg, hk, rfl⟩
  · exact .inr ⟨by simp [hk], .inl (pvcConditions_verdict u).single⟩
  · exact .inr ⟨by simp [hg], .inl (ReadyVerdict.single (stsConditions_verdict u))⟩
  · exact .inr ⟨by simp [hg], .inl (ReadyVerdict.single (daemonsetConditions_verdict u))⟩
  · exact .inr ⟨by simp [hg], .inl (ReadyVerdict.single (deploymentConditions_verdict u))⟩
  · exact .inr ⟨by simp [hg], .inl (ReadyVerdict.single (replicasetConditions_verdict u))⟩
  · exact .inr ⟨by simp [hg], .inl (pdbConditions_verdict u).single⟩
  · exact .inr ⟨by simp [hg], .inl (alwaysReady_verdict u).single⟩
  · refine .inr ⟨by simp [hg], ?_⟩
    obtain ⟨he, ⟨m, hj | hj⟩ | ⟨c, hj, hc⟩⟩ := jobConditions_shape u
    · exact .inr ⟨m, .completed, .inl rfl, Prod.ext hj he⟩
    · exact .inr ⟨m, .failed, .inr rfl, Prod.ext hj he⟩
    · exact .inl ⟨c, Prod.ext hj he, hc⟩

theorem podTerminal_type (phase : String) :
    (podTerminal phase).type = .completed ∨ (podTerminal phase).type = .failed := by
  unfold podTerminal; split_ifs <;> simp

/-- Every evaluation ends without an error, with a `Ready` condition among those it returns. -/
theorem isReady_eq_of_ready (u : Unstructured) :
    ∃ cs, isReady u = (cs, none) ∧ ∃ c ∈ cs, c.type = .ready := by
  rcases h : getLegacyReadyFn u with _ | fn
  · rw [isReady_of_getLegacyReadyFn_none h]
    obtain ⟨he, hne, hall⟩ := readyConditionReader_shape u
    obtain ⟨c, hc⟩ := List.exists_mem_of_ne_nil _ hne
    exact ⟨_, Prod.ext rfl he, c, hc, hall c hc⟩
  rcases isReady_of_legacy h with ⟨-, -, hp⟩ | ⟨-, ⟨c, hr, hc⟩ | ⟨m, t, -, hr⟩⟩
  · obtain ⟨rc, hrc, hpod⟩ := podConditions_eq u
    exact ⟨_, hp.trans hpod, rc, by simp, hrc⟩
  · exact ⟨_, hr, c, List.mem_singleton_self c, hc⟩
  · exact ⟨_, hr, _, List.mem_cons_self _ _, rfl⟩

theorem isReady_ready_mem (u : Unstructured) :
    (isReady u).2 = none ∧ ∃ c ∈ (isReady u).1, c.type = .ready := by
  obtain ⟨cs, h, hc⟩ := isReady_eq_of_ready u
  rw [h]
  exact ⟨rfl, hc⟩

/-- A pod in phase `Succeeded` with the given status and reason for each of its `Ready` entries. -/
def podWithReadyEntries (entries : List (String × String)) : Unstructured :=
  ⟨[("apiVersion", .str "v1"), ("kind", .str "Pod"),
    ("status", .map [("phase", .str "Succeeded"), ("conditions", .list (entries.map fun e =>
      .map [("type", .str "Ready"), ("status", .str e.1), ("reason", .str e.2)]))])]⟩

theorem isReady_legacy_types_nodup_iff (u : Unstructured) (h : getLegacyReadyFn u ≠ none) :
    ((isReady u).1.map Condition.type).Nodup ↔
      ¬(u.groupVersionKind.group = "" ∧ u.groupVersionKind.kind = "Pod" ∧
        2 ≤ ((getConditions u.object).filter (fun c => getStringField c ".type" "" = "Ready" ∧
          getStringField c "status" "" ≠ "True" ∧ getStringField c "reason" "" = "PodCompleted")).length) := by
  obtain ⟨fn, hfn⟩ := Option.ne_none_iff_exists'.1 h
  rcases isReady_of_legacy hfn with ⟨hg, hk, hp⟩ | ⟨hnp, ⟨c, hr, _⟩ | ⟨m, t, ht, hr⟩⟩
  · obtain ⟨rc, hrc, hpod⟩ := podConditions_eq u
    have hne : (podTerminal (getStringField u.object ".status.phase" "unknown")).type ≠ .ready := by
      rcases podTerminal_type (getStringField u.object ".status.phase" "unknown") with h | h <;> simp [h]
    change _ ↔ ¬(_ ∧ _ ∧ 2 ≤ ((getConditions u.object).filter isPodCompletedEntry).length)
    rw [hp, hpod]
    simp [hg, hk, hrc, List.nodup_append, List.map_const', List.nodup_replicate, hne.symm]
    omega
  · rw [hr]; exact iff_of_true (by simp) fun ⟨hg, hk, _⟩ => hnp ⟨hg, hk⟩
  · rw [hr]
    exact iff_of_true (by rcases ht with rfl | rfl <;> simp [newCondition]) fun ⟨hg, hk, _⟩ => hnp ⟨hg, hk⟩

theorem isReady_legacy_types_nodup_iff_pod :
    let u := podWithReadyEntries [("False", "PodCompleted"), ("False", "PodCompleted")]
    getLegacyReadyFn u ≠ none ∧
      (((isReady u).1.map Condition.type).Nodup ↔
        ¬(u.groupVersionKind.group = "" ∧ u.groupVersionKind.kind = "Pod" ∧
          2 ≤ ((getConditions u.object).filter (fun c => getStringField c ".type" "" = "Ready" ∧
            getStringField c "status" "" ≠ "True" ∧ getStringField c "reason" "" = "PodCompleted")).length)) :=
  ⟨Option.ne_none_iff_isSome.2 rfl,
    isReady_legacy_types_nodup_iff _ (Option.ne_none_iff_isSome.2 rfl)⟩

/-- Two completed `Ready` entries give two `Completed` conditions. -/
theorem isReady_pod_repeated_completed :
    let u := podWithReadyEntries [("False", "PodCompleted"), ("False", "PodCompleted")]
    getLegacyReadyFn u ≠ none ∧ ¬((isReady u).1.map Condition.type).Nodup :=
  ⟨Option.ne_none_iff_isSome.2 rfl, by decide⟩

/-- Terminal conditions followed by one `Ready` condition: a terminal condition stands beside
`Ready=False` exactly when there is one and the `Ready` condition is `False`. -/
theorem terminal_notReady_iff {α : Type} {t rc : Condition} (ht : t.type = .completed ∨ t.type = .failed)
    (hrc : rc.type = .ready) (ts : List α) :
    ((∃ x ∈ ts.map (fun _ => t) ++ [rc], x.type = .completed ∨ x.type = .failed) ∧
        ∃ x ∈ ts.map (fun _ => t) ++ [rc], x.type = .ready ∧ x.status = "False") ↔
      ts ≠ [] ∧ rc.status = "False" := by
  have hne : t.type ≠ .ready := by rcases ht with h | h <;> simp [h]
  simp only [List.mem_append, List.mem_map, List.mem_singleton]
  constructor
  · rintro ⟨⟨x, ⟨d, hd, rfl⟩ | rfl, hx⟩, ⟨y, ⟨e, -, rfl⟩ | rfl, hy⟩⟩
    · exact absurd hy.1 hne
    · exact ⟨List.ne_nil_of_mem hd, hy.2⟩
    · exact absurd hy.1 hne
    · simp [hrc] at hx
  · rintro ⟨hts, hs⟩
    obtain ⟨d, hd⟩ := List.exists_mem_of_ne_nil ts hts
    exact ⟨⟨t, .inl ⟨d, hd, rfl⟩, ht⟩, rc, .inr rfl, hrc, hs⟩

/-- When the last `Ready` entry does not report a completed pod, the entries that do are among the
earlier `Ready` entries. -/
theorem filter_podCompleted_ne_nil_iff {cs pre : List Object} {c : Object}
    (hR : cs.filter isPodReadyEntry = pre ++ [c]) (hc : getStringField c "reason" "" ≠ "PodCompleted") :
    cs.filter isPodCompletedEntry ≠ [] ↔
      ∃ d ∈ pre, getStringField d "status" "" ≠ "True" ∧ getStringField d "reason" "" = "PodCompleted" := by
  have hmem : ∀ d, d ∈ pre ++ [c] ↔ d ∈ cs ∧ getStringField d ".type" "" = "Ready" := fun d => by
    rw [← hR, List.mem_filter, isPodReadyEntry, decide_eq_true_iff]
  rw [Ne, List.filter_eq_nil_iff]
  push_neg
  simp only [isPodCompletedEntry, decide_eq_true_iff]
  constructor
  · rintro ⟨d, hd, hdr, hds, hdp⟩
    rcases List.mem_append.1 ((hmem d).2 ⟨hd, hdr⟩) with hd | hd
    · exact ⟨d, hd, hds, hdp⟩
    · exact absurd (List.mem_singleton.1 hd ▸ hdp) hc
  · rintro ⟨d, hd, hds, hdp⟩
    obtain ⟨hg, hdr⟩ := (hmem d).1 (List.mem_append_left _ hd)
    exact ⟨d, hg, hdr, hds, hdp⟩

/-- The pod evaluator reports a terminal condition beside `Ready=False` exactly when its last
`Ready` entry is neither ready nor completed and an earlier one reported a completed pod. -/
theorem podConditions_terminal_notReady_iff (u : Unstructured) :
    ((∃ c ∈ (podConditions u).1, c.type = .completed ∨ c.type = .failed) ∧
        ∃ c ∈ (podConditions u).1, c.type = .ready ∧ c.status = "False") ↔
      ∃ pre c, (getConditions u.object).filter isPodReadyEntry = pre ++ [c] ∧
        (∃ d ∈ pre, getStringField d "status" "" ≠ "True" ∧ getStringField d "reason" "" = "PodCompleted") ∧
        getStringField c "status" "" ≠ "True" ∧ getStringField c "reason" "" ≠ "PodCompleted" := by
  rcases List.eq_nil_or_concat ((getConditions u.object).filter isPodReadyEntry) with hR | ⟨pre, c, hR⟩
  · rw [podConditions_of_filter_eq_nil u hR]
    refine iff_of_false (fun ⟨⟨d, hd, ht⟩, _⟩ => ?_) fun ⟨pre, c, h, _⟩ => ?_
    · rw [List.mem_singleton.1 hd] at ht
      simp at ht
    · simp [hR] at h
  rw [List.concat_eq_append] at hR
  have hlast : (∃ pre' c', (getConditions u.object).filter isPodReadyEntry = pre' ++ [c'] ∧
      (∃ d ∈ pre', getStringField d "status" "" ≠ "True" ∧ getStringField d "reason" "" = "PodCompleted") ∧
      getStringField c' "status" "" ≠ "True" ∧ getStringField c' "reason" "" ≠ "PodCompleted") ↔
      (∃ d ∈ pre, getStringField d "status" "" ≠ "True" ∧ getStringField d "reason" "" = "PodCompleted") ∧
      getStringField c "status" "" ≠ "True" ∧ getStringField c "reason" "" ≠ "PodCompleted" := by
    refine ⟨fun ⟨pre', c', h, hp⟩ => ?_, fun hp => ⟨pre, c, hR, hp⟩⟩
    obtain ⟨rfl, h'⟩ := List.append_inj' (hR.symm.trans h) rfl
    rwa [List.singleton_inj.1 h']
  rw [hlast, podConditions_of_filter_eq_append u hR]
  dsimp only
  rw [terminal_notReady_iff (podTerminal_type _) rfl]
  by_cases hr : getStringField c "reason" "" = "PodCompleted"
  · simp [hr]
  · rw [filter_podCompleted_ne_nil_iff hR hr]
    simp [hr]

theorem isReady_terminal (u : Unstructured) :
    let L := (isReady u).1
    ¬((∃ c ∈ L, c.type = .completed) ∧ ∃ c ∈ L, c.type = .failed) ∧
      ((∃ c ∈ L, c.type = .completed ∨ c.type = .failed) ∧ (∃ c ∈ L, c.type = .ready ∧ c.status = "False") ↔
        u.groupVersionKind.group = "" ∧ u.groupVersionKind.kind = "Pod" ∧
          ∃ pre c, (getConditions u.object).filter (fun d => getStringField d ".type" "" = "Ready") = pre ++ [c] ∧
            (∃ d ∈ pre, getStringField d "status" "" ≠ "True" ∧ getStringField d "reason" "" = "PodCompleted") ∧
            getStringField c "status" "" ≠ "True" ∧ getStringField c "reason" "" ≠ "PodCompleted") := by
  rcases h : getLegacyReadyFn u with _ | fn
  · have hall := (readyConditionReader_shape u).2.2
    have hnp : ¬(u.groupVersionKind.group = "" ∧ u.groupVersionKind.kind = "Pod") := fun ⟨hg, hk⟩ => by
      rw [getLegacyReadyFn_of_groupVersionKind hg hk] at h; cases h
    rw [isReady_of_getLegacyReadyFn_none h]
    refine ⟨fun ⟨⟨c, hc, ht⟩, _⟩ => by simp [hall c hc] at ht,
      iff_of_false (fun ⟨⟨c, hc, ht⟩, _⟩ => ?_) fun ⟨hg, hk, _⟩ => hnp ⟨hg, hk⟩⟩
    rcases ht with ht | ht <;> simp [hall c hc] at ht
  rcases isReady_of_legacy h with ⟨hg, hk, hp⟩ | ⟨hnp, ⟨c, hr, hc⟩ | ⟨m, t, ht, hr⟩⟩
  · rw [hp]
    refine ⟨?_, (podConditions_terminal_notReady_iff u).trans ⟨fun h => ⟨hg, hk, h⟩, fun h => h.2.2⟩⟩
    obtain ⟨rc, hrc, hpod⟩ := podConditions_eq u
    rw [hpod]
    rintro ⟨⟨c, hc, hct⟩, ⟨d, hd, hdt⟩⟩
    simp only [List.mem_append, List.mem_map, List.mem_singleton] at hc hd
    rcases hc with ⟨_, _, rfl⟩ | rfl <;> rcases hd with ⟨_, _, rfl⟩ | rfl <;> simp_all
  · rw [hr]
    refine ⟨fun ⟨⟨d, hd, ht⟩, _⟩ => ?_, iff_of_false (fun ⟨⟨d, hd, ht⟩, _⟩ => ?_) fun ⟨hg, hk, _⟩ => hnp ⟨hg, hk⟩⟩ <;>
      simp only [List.mem_singleton] at hd <;> subst hd <;> simp [hc] at ht
  · rw [hr]
    refine ⟨?_, iff_of_false (fun ⟨_, d, hd, ht⟩ => ?_) fun ⟨hg, hk, _⟩ => hnp ⟨hg, hk⟩⟩
    · rcases ht with rfl | rfl <;> simp [newCondition]
    · simp [newCondition] at hd; rcases hd with rfl | rfl <;> simp at ht

/-- A later `Ready` entry overwrites the ready condition after a completed one added `Completed`. -/
theorem isReady_pod_completed_then_not_ready :
    let L := (isReady (podWithReadyEntries [("False", "PodCompleted"), ("False", "ContainersNotReady")])).1
    (∃ c ∈ L, c.type = .completed ∨ c.type = .failed) ∧ ∃ c ∈ L, c.type = .ready ∧ c.status = "False" := by
  decide

end CliStatus
