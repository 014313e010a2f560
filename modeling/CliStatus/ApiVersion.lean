import CliStatus.Dispatch

/-!
# `apiVersion` and the choice of evaluator

apimachinery's `ParseGroupVersion` accepts exactly the strings with at most one slash: the text
before the slash is the group, the text after it the version, and a string without a slash is a
version of the core group. `IsReady` looks up its evaluator by that group and the kind, so the
version never matters, and an `apiVersion` that does not parse sends every kind to the generic
reader.
-/

namespace CliStatus

/-- A list with one slash is the text before it, the slash, and the text after it. -/
theorem eq_append_slash {l : List Char} (h : l.count '/' = 1) :
    ∃ a b, '/' ∉ a ∧ '/' ∉ b ∧ l = a ++ '/' :: b := by
  induction l with
  | nil => cases h
  | cons c l ih =>
    by_cases hc : c = '/'
    · subst hc
      exact ⟨[], l, List.not_mem_nil _, List.count_eq_zero.1 (by simpa using h), rfl⟩
    · obtain ⟨a, b, ha, hb, rfl⟩ := ih (by simpa [List.count_cons, hc] using h)
      exact ⟨c :: a, b, by simp [ha, Ne.symm hc], hb, rfl⟩

theorem toList_slash_append (g v : String) : (g ++ "/" ++ v).toList = g.toList ++ '/' :: v.toList := by
  simp [String.toList]

section Parse

variable {g v : String}

theorem parseGroupVersion_join (hg : '/' ∉ g.toList) (hv : '/' ∉ v.toList) :
    parseGroupVersion (g ++ "/" ++ v) = .ok ⟨g, v⟩ := by
  have hpos : ∀ c ∈ g.toList, decide (c ≠ '/') = true := fun c hc => by
    simpa using fun h : c = '/' => hg (h ▸ hc)
  have hcount : (g ++ "/" ++ v).toList.count '/' = 1 := by
    rw [toList_slash_append, List.count_append, List.count_cons, List.count_eq_zero_of_not_mem hg,
      List.count_eq_zero_of_not_mem hv]
    rfl
  have hlen : (g ++ "/" ++ v).toList.length = g.toList.length + v.toList.length + 1 := by
    rw [toList_slash_append]
    simp only [List.length_append, List.length_cons]
    omega
  unfold parseGroupVersion
  split_ifs with h0
  · rcases h0 with h0 | h0
    · change (g ++ "/" ++ v).toList.length = 0 at h0
      omega
    · have h1 : g.toList.length + v.toList.length + 1 = 1 := by rw [← hlen, h0]; rfl
      rw [String.ext (List.length_eq_zero.1 (by omega) : g.toList = []),
        String.ext (List.length_eq_zero.1 (by omega) : v.toList = [])]
  · rw [hcount]
    simp only [toList_slash_append, List.takeWhile_append_of_pos hpos, List.dropWhile_append_of_pos hpos]
    simp

theorem parseGroupVersion_version (hv : '/' ∉ v.toList) : parseGroupVersion v = .ok ⟨"", v⟩ := by
  unfold parseGroupVersion
  split_ifs with h0
  · rcases h0 with h0 | rfl
    · rw [String.ext (List.length_eq_zero.1 h0 : v.toList = [])]
    · exact absurd (List.mem_singleton_self _) hv
  · rw [List.count_eq_zero_of_not_mem hv]

theorem parseGroupVersion_of_two_le {s : String} (h : 2 ≤ s.toList.count '/') :
    parseGroupVersion s = .error ⟨"unexpected GroupVersion string: %v", [.str s]⟩ := by
  unfold parseGroupVersion
  split_ifs with h0
  · rcases h0 with h0 | rfl
    · change s.toList.length = 0 at h0
      rw [List.length_eq_zero.1 h0] at h
      cases h
    · cases h
      contradiction
  · obtain ⟨n, hn⟩ : ∃ n, s.toList.count '/' = n + 2 := ⟨_, (Nat.sub_add_cancel h).symm⟩
    rw [hn]
    rfl

end Parse

/-- `ParseGroupVersion` inverts `group + "/" + version` and takes a slash-free string as a core
version; what it accepts is of one of these two forms, with slash-free parts, and every string
with two or more slashes is rejected with an error that names it. -/
theorem parseGroupVersion_roundTrip :
    (∀ g v : String, '/' ∉ g.toList → '/' ∉ v.toList → parseGroupVersion (g ++ "/" ++ v) = .ok ⟨g, v⟩) ∧
    (∀ v : String, '/' ∉ v.toList → parseGroupVersion v = .ok ⟨"", v⟩) ∧
    (∀ s gv, parseGroupVersion s = .ok gv → '/' ∉ gv.group.toList ∧ '/' ∉ gv.version.toList ∧
      (s = gv.group ++ "/" ++ gv.version ∨ gv.group = "" ∧ s = gv.version)) ∧
    ∀ s, 2 ≤ s.toList.count '/' →
      parseGroupVersion s = .error ⟨"unexpected GroupVersion string: %v", [.str s]⟩ := by
  refine ⟨fun _ _ => parseGroupVersion_join, fun _ => parseGroupVersion_version, fun s gv h => ?_,
    fun _ => parseGroupVersion_of_two_le⟩
  rcases Nat.lt_or_ge (s.toList.count '/') 2 with hlt | hge
  · rcases Nat.lt_succ_iff.1 hlt |>.lt_or_eq with h0 | h1
    · have hs : '/' ∉ s.toList := List.count_eq_zero.1 (Nat.lt_one_iff.1 h0)
      rw [parseGroupVersion_version hs] at h
      cases h
      exact ⟨List.not_mem_nil _, hs, .inr ⟨rfl, rfl⟩⟩
    · obtain ⟨a, b, ha, hb, hab⟩ := eq_append_slash h1
      have hs : s = String.mk a ++ "/" ++ String.mk b :=
        String.ext (hab.trans (toList_slash_append (String.mk a) (String.mk b)).symm)
      rw [hs, parseGroupVersion_join ha hb] at h
      cases h
      exact ⟨ha, hb, .inl hs⟩
  · rw [parseGroupVersion_of_two_le hge] at h
    cases h

section Dispatch

variable {u : Unstructured}

theorem groupVersionKind_join {g v : String} (hg : '/' ∉ g.toList) (hv : '/' ∉ v.toList)
    (h : u.getAPIVersion = g ++ "/" ++ v) : u.groupVersionKind = ⟨g, v, u.getKind⟩ := by
  unfold Unstructured.groupVersionKind
  rw [h, parseGroupVersion_join hg hv]

theorem groupVersionKind_version (hv : '/' ∉ u.getAPIVersion.toList) :
    u.groupVersionKind = ⟨"", u.getAPIVersion, u.getKind⟩ := by
  unfold Unstructured.groupVersionKind
  rw [parseGroupVersion_version hv]

theorem groupVersionKind_of_two_le (h : 2 ≤ u.getAPIVersion.toList.count '/') :
    u.groupVersionKind = ⟨"", "", ""⟩ := by
  unfold Unstructured.groupVersionKind
  rw [parseGroupVersion_of_two_le h]

end Dispatch

/-- `IsReady` chooses its evaluator by the group before the one slash of `apiVersion`, or the core
group when there is no slash, and by the kind: the version is never consulted. An `apiVersion`
with two or more slashes sends every kind to the generic reader. -/
theorem getLegacyReadyFn_apiVersion (u : Unstructured) :
    (∀ g v, '/' ∉ g.toList → '/' ∉ v.toList → u.getAPIVersion = g ++ "/" ++ v →
      getLegacyReadyFn u = (legacyTypes.lookup g).bind (·.lookup u.getKind)) ∧
    ('/' ∉ u.getAPIVersion.toList → getLegacyReadyFn u = (legacyTypes.lookup "").bind (·.lookup u.getKind)) ∧
    (2 ≤ u.getAPIVersion.toList.count '/' → isReady u = readyConditionReader u) := by
  refine ⟨fun g v hg hv h => ?_, fun hv => ?_, fun h => isReady_of_getLegacyReadyFn_none ?_⟩
  · rw [getLegacyReadyFn_of_groupVersionKind (congrArg (·.group) (groupVersionKind_join hg hv h))
      (congrArg (·.kind) (groupVersionKind_join hg hv h))]
  · rw [getLegacyReadyFn_of_groupVersionKind (congrArg (·.group) (groupVersionKind_version hv))
      (congrArg (·.kind) (groupVersionKind_version hv))]
  · rw [getLegacyReadyFn_of_groupVersionKind (congrArg (·.group) (groupVersionKind_of_two_le h))
      (congrArg (·.kind) (groupVersionKind_of_two_le h))]
    rfl

end CliStatus
