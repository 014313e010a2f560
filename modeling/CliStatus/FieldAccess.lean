import CliStatus.Unstructured

/-!
# What the field readers return

The readers of `helpers.go`, described by descent through the tree. `valueAt` follows a list of
keys through maps; `NestedFieldNoCopy` finds a value exactly when `valueAt` reaches one, and then
returns it. A dotted path whose keys are non-empty and hold no dot splits back into its keys,
with or without a leading dot, so `GetStringField` and `GetIntField` read the value at those
keys. `NestedMapSlice` copies a list of maps entry by entry and stops, with a nil slice, at the
first element that is not a map; `GetConditions` turns every failure into the empty list. The
errors name the path they failed at and the value found there.
-/

namespace CliStatus

/-- The value at a list of keys: descend through maps, key by key. -/
def valueAt : Value → List String → Option Value
  | v, [] => some v
  | v, k :: ks =>
    match v with
    | .map m => (m.lookup k).bind fun w => valueAt w ks
    | _ => none

section Descent

variable (fields : List String)

theorem nestedFieldNoCopyAux_of_valueAt {ks : List String} {i : Nat} {v w : Value} (h : valueAt v ks = some w) :
    nestedFieldNoCopyAux fields i v ks = (w, true, none) := by
  induction ks generalizing i v with
  | nil => cases h; rfl
  | cons k ks ih =>
    cases v with
    | map m =>
      obtain ⟨v', hv', h'⟩ := Option.bind_eq_some.1 h
      simp only [nestedFieldNoCopyAux, hv', ih h']
    | _ => cases h

theorem found_nestedFieldNoCopyAux (ks : List String) (i : Nat) (v : Value) :
    (nestedFieldNoCopyAux fields i v ks).2.1 = (valueAt v ks).isSome := by
  induction ks generalizing i v with
  | nil => rfl
  | cons k ks ih =>
    cases v with
    | map m =>
      simp only [nestedFieldNoCopyAux, valueAt]
      cases m.lookup k with
      | none => rfl
      | some v' => exact ih _ _
    | _ => rfl

end Descent

section SpecLemmas

variable {obj : Object} {fields : List String}

theorem nestedFieldNoCopy_of_valueAt {w : Value} (h : valueAt (.map obj) fields = some w) :
    nestedFieldNoCopy obj fields = (w, true, none) :=
  nestedFieldNoCopyAux_of_valueAt fields h

theorem nestedFieldNoCopy_of_valueAt_none (h : valueAt (.map obj) fields = none) :
    ∃ v e, nestedFieldNoCopy obj fields = (v, false, e) := by
  have hf := found_nestedFieldNoCopyAux fields fields 0 (.map obj)
  rw [h] at hf
  exact ⟨_, _, Prod.ext rfl (Prod.ext hf rfl)⟩

end SpecLemmas

/-- `GetStringField` reads the string at the keys of its path, and otherwise gives the default. -/
theorem getStringField_eq (obj : Object) (fieldPath d : String) :
    getStringField obj fieldPath d =
      match valueAt (.map obj) (splitFieldPath fieldPath) with
      | some (.str s) => s
      | _ => d := by
  unfold getStringField
  rcases h : valueAt (.map obj) (splitFieldPath fieldPath) with _ | w
  · obtain ⟨v, e, he⟩ := nestedFieldNoCopy_of_valueAt_none h
    rw [he]
    rfl
  · rw [nestedFieldNoCopy_of_valueAt h]
    cases w <;> rfl

theorem getIntField_eq (obj : Object) (fieldPath : String) (d : GoInt) :
    getIntField obj fieldPath d =
      match valueAt (.map obj) (splitFieldPath fieldPath) with
      | some (.int n) => n
      | some (.int32 n) => n.toGoInt
      | some (.int64 n) => n
      | _ => d := by
  unfold getIntField
  rcases h : valueAt (.map obj) (splitFieldPath fieldPath) with _ | w
  · obtain ⟨v, e, he⟩ := nestedFieldNoCopy_of_valueAt_none h
    rw [he]
    rfl
  · rw [nestedFieldNoCopy_of_valueAt h]
    cases w <;> rfl

theorem splitAux_append {sep : Char} {p : List Char} (hp : sep ∉ p) (rest cur : List Char) :
    splitAux sep (p ++ rest) cur = splitAux sep rest (p.reverse ++ cur) := by
  induction p generalizing cur with
  | nil => rfl
  | cons c p ih =>
    obtain ⟨hc, hp⟩ := List.ne_and_not_mem_of_not_mem_cons hp
    rw [List.cons_append, splitAux, if_neg (Ne.symm hc), ih hp]
    simp

theorem toList_intercalate_go (s : String) :
    ∀ (acc : String) (l : List String),
      (String.intercalate.go acc s l).toList = acc.toList ++ (l.map fun a => s.toList ++ a.toList).flatten
  | acc, [] => by simp [String.intercalate.go]
  | acc, a :: l => by
    rw [String.intercalate.go, toList_intercalate_go s _ l]
    simp [String.toList, List.append_assoc]

theorem splitAux_join (sep : Char) :
    ∀ (k : String) (ks : List String) (cur : List Char), sep ∉ k.toList → (∀ k' ∈ ks, sep ∉ k'.toList) →
      splitAux sep (k.toList ++ (ks.map fun a => sep :: a.toList).flatten) cur =
        String.mk (cur.reverse ++ k.toList) :: ks
  | k, [], cur, hk, _ => by
    rw [List.map_nil, List.flatten_nil, splitAux_append hk, splitAux]
    simp
  | k, k' :: ks, cur, hk, hks => by
    rw [List.map_cons, List.flatten_cons, List.cons_append, splitAux_append hk, splitAux, if_pos rfl,
      splitAux_join sep k' ks [] (hks k' (List.mem_cons_self _ _)) fun k'' h => hks k'' (List.mem_cons_of_mem _ h)]
    simp

theorem split_dot_append (s : String) : split ("." ++ s) '.' = "" :: split s '.' := by
  show splitAux '.' ('.' :: s.toList) [] = _
  rw [splitAux, if_pos rfl]
  rfl

theorem splitFieldPath_intercalate {ks : List String} (hne : ks ≠ [])
    (hks : ∀ k ∈ ks, k ≠ "" ∧ '.' ∉ k.toList) :
    splitFieldPath (String.intercalate "." ks) = ks ∧ splitFieldPath ("." ++ String.intercalate "." ks) = ks := by
  obtain _ | ⟨k, rest⟩ := ks
  · exact absurd rfl hne
  have hsplit : split (String.intercalate "." (k :: rest)) '.' = k :: rest := by
    rw [split, show String.intercalate "." (k :: rest) = String.intercalate.go k "." rest from rfl,
      toList_intercalate_go]
    exact splitAux_join '.' k rest [] (hks k (List.mem_cons_self _ _)).2
      fun k' h => (hks k' (List.mem_cons_of_mem _ h)).2
  have hk : k ≠ "" := (hks k (List.mem_cons_self _ _)).1
  constructor
  · simp [splitFieldPath, hsplit, hk]
  · simp [splitFieldPath, split_dot_append, hsplit]

/-- `GetStringField` and `GetIntField` on a dotted path read the value at its keys, whether or
not the path starts with a dot. -/
theorem getField_dottedPath (t : Object) (ks : List String) (hne : ks ≠ [])
    (hks : ∀ k ∈ ks, k ≠ "" ∧ '.' ∉ k.toList) (d : String) (n : GoInt) :
    getStringField t (String.intercalate "." ks) d = getStringField t ("." ++ String.intercalate "." ks) d ∧
      getStringField t (String.intercalate "." ks) d =
        (match valueAt (.map t) ks with
          | some (.str s) => s
          | _ => d) ∧
      getIntField t (String.intercalate "." ks) n = getIntField t ("." ++ String.intercalate "." ks) n ∧
      getIntField t (String.intercalate "." ks) n =
        (match valueAt (.map t) ks with
          | some (.int i) => i
          | some (.int32 i) => i.toGoInt
          | some (.int64 i) => i
          | _ => n) := by
  obtain ⟨h1, h2⟩ := splitFieldPath_intercalate hne hks
  simp only [getStringField_eq, getIntField_eq, h1, h2, and_self]

theorem getField_dottedPath_specReplicas :
    let t : Object := [("spec", .map [("replicas", .int64 3)])]
    let ks := ["spec", "replicas"]
    (ks ≠ [] ∧ ∀ k ∈ ks, k ≠ "" ∧ '.' ∉ k.toList) ∧
    getStringField t (String.intercalate "." ks) "" = getStringField t ("." ++ String.intercalate "." ks) "" ∧
      getStringField t (String.intercalate "." ks) "" =
        (match valueAt (.map t) ks with
          | some (.str s) => s
          | _ => "") ∧
      getIntField t (String.intercalate "." ks) 0 = getIntField t ("." ++ String.intercalate "." ks) 0 ∧
      getIntField t (String.intercalate "." ks) 0 =
        (match valueAt (.map t) ks with
          | some (.int i) => i
          | some (.int32 i) => i.toGoInt
          | some (.int64 i) => i
          | _ => 0) :=
  ⟨⟨by decide, by decide⟩, getField_dottedPath _ _ (by decide) (by decide) "" 0⟩

section MapSlice

variable (fields : List String) (val : Value)

theorem nestedMapSliceLoop_map :
    ∀ (i : Nat) (cs acc : List Object), nestedMapSliceLoop fields val i (cs.map .map) acc = (some (acc ++ cs), true, none)
  | _, [], acc => by simp [nestedMapSliceLoop]
  | i, c :: cs, acc => by simp [nestedMapSliceLoop, nestedMapSliceLoop_map (i + 1) cs]

theorem nestedMapSliceLoop_of_not_maps :
    ∀ (i : Nat) (vs : List Value) (acc : List Object), (¬∃ cs : List Object, vs = cs.map .map) →
      ∃ e, nestedMapSliceLoop fields val i vs acc = (none, true, some e)
  | _, [], _, h => absurd ⟨[], rfl⟩ h
  | i, v :: vs, acc, h => by
    cases v with
    | map m =>
      exact nestedMapSliceLoop_of_not_maps (i + 1) vs (acc ++ [m]) fun ⟨cs, hcs⟩ => h ⟨m :: cs, by rw [hcs]; rfl⟩
    | _ => exact ⟨_, rfl⟩

end MapSlice

section NestedMapSlice

variable {obj : Object} {fields : List String}

theorem nestedMapSlice_of_mapList {cs : List Object} (h : valueAt (.map obj) fields = some (.list (cs.map .map))) :
    nestedMapSlice obj fields = (some cs, true, none) := by
  unfold nestedMapSlice
  rw [nestedFieldNoCopy_of_valueAt h]
  exact nestedMapSliceLoop_map fields _ 0 cs []

theorem nestedMapSlice_of_not_mapList {w : Value} (h : valueAt (.map obj) fields = some w)
    (hw : ¬∃ cs : List Object, w = .list (cs.map .map)) : ∃ e, nestedMapSlice obj fields = (none, true, some e) := by
  unfold nestedMapSlice
  rw [nestedFieldNoCopy_of_valueAt h]
  cases w with
  | list vs => exact nestedMapSliceLoop_of_not_maps fields _ 0 vs [] fun ⟨cs, hcs⟩ => hw ⟨cs, by rw [hcs]⟩
  | _ => exact ⟨_, rfl⟩

theorem nestedMapSlice_of_valueAt_none (h : valueAt (.map obj) fields = none) :
    ∃ e, nestedMapSlice obj fields = (none, false, e) := by
  obtain ⟨v, e, he⟩ := nestedFieldNoCopy_of_valueAt_none h
  unfold nestedMapSlice
  rw [he]
  exact ⟨e, rfl⟩

variable (obj fields)

/-- What `NestedMapSlice` returns, by the value at the path: a list of maps is copied out; any
other value gives a nil slice and an error; no value gives a nil slice, not found. -/
theorem nestedMapSlice_cases :
    (∃ cs : List Object, valueAt (.map obj) fields = some (.list (cs.map .map)) ∧ nestedMapSlice obj fields = (some cs, true, none)) ∨
    (∃ w e, valueAt (.map obj) fields = some w ∧ (¬∃ cs : List Object, w = .list (cs.map .map)) ∧
      nestedMapSlice obj fields = (none, true, some e)) ∨
    (valueAt (.map obj) fields = none ∧ ∃ e, nestedMapSlice obj fields = (none, false, e)) := by
  rcases h : valueAt (.map obj) fields with _ | w
  · exact Or.inr (Or.inr ⟨rfl, nestedMapSlice_of_valueAt_none h⟩)
  · by_cases hw : ∃ cs : List Object, w = .list (cs.map .map)
    · obtain ⟨cs, rfl⟩ := hw
      exact Or.inl ⟨cs, rfl, nestedMapSlice_of_mapList h⟩
    · obtain ⟨e, he⟩ := nestedMapSlice_of_not_mapList h hw
      exact Or.inr (Or.inl ⟨w, e, rfl, hw, he⟩)

end NestedMapSlice

/-- `GetConditions` returns the maps of a list of maps at `status.conditions`, and the empty list
in every other case; `NestedMapSlice` reports a found value with an error exactly when the value
at its path is not a list of maps, and never returns a slice with an error. -/
theorem getConditions_nestedMapSlice (t : Object) :
    (∀ cs : List Object, valueAt (.map t) ["status", "conditions"] = some (.list (cs.map .map)) → getConditions t = cs) ∧
    ((¬∃ cs : List Object, valueAt (.map t) ["status", "conditions"] = some (.list (cs.map .map))) → getConditions t = []) ∧
    ∀ fs, (((nestedMapSlice t fs).2.1 = true ∧ (nestedMapSlice t fs).2.2.isSome) ↔
        ∃ v, valueAt (.map t) fs = some v ∧ ¬∃ cs : List Object, v = .list (cs.map .map)) ∧
      ((nestedMapSlice t fs).2.2.isSome → (nestedMapSlice t fs).1 = none) := by
  refine ⟨fun cs hcs => ?_, fun hno => ?_, fun fs => ?_⟩
  · rw [getConditions, nestedMapSlice_of_mapList hcs]
    rfl
  · rcases nestedMapSlice_cases t ["status", "conditions"] with ⟨cs, hcs, -⟩ | ⟨w, e, -, -, h⟩ | ⟨-, e, h⟩
    · exact absurd ⟨cs, hcs⟩ hno
    · rw [getConditions, h]
      rfl
    · rw [getConditions, h]
      cases e <;> rfl
  · rcases nestedMapSlice_cases t fs with ⟨cs, hcs, h⟩ | ⟨w, e, hw, hnot, h⟩ | ⟨hnone, e, h⟩ <;> rw [h]
    · refine ⟨⟨fun ⟨_, he⟩ => (nomatch he), fun ⟨v, hv, hnot⟩ => absurd ⟨cs, ?_⟩ hnot⟩, fun he => nomatch he⟩
      rw [hcs] at hv
      exact (Option.some.inj hv).symm
    · exact ⟨⟨fun _ => ⟨w, hw, hnot⟩, fun _ => ⟨rfl, rfl⟩⟩, fun _ => rfl⟩
    · refine ⟨⟨fun ⟨hf, _⟩ => (nomatch hf), fun ⟨v, hv, _⟩ => ?_⟩, fun _ => rfl⟩
      rw [hnone] at hv
      exact nomatch hv

section Errors

variable (fields : List String)

theorem nestedFieldNoCopyAux_of_nonMap {k : String} {rest : List String} {w : Value}
    (hmap : ∀ m, w ≠ .map m) (hnull : w ≠ .null) :
    ∀ (pre : List String) (i : Nat) (v : Value), valueAt v pre = some w →
      nestedFieldNoCopyAux fields i v (pre ++ k :: rest) =
        (.null, false, some (accessorError (jsonPath (fields.take (i + pre.length + 1))) w))
  | [], i, v, hw => by
    cases hw
    cases w with
    | null => exact absurd rfl hnull
    | map m => exact absurd rfl (hmap m)
    | _ => rfl
  | k' :: pre, i, v, hw => by
    cases v with
    | map m =>
      obtain ⟨v', hv', hw'⟩ := Option.bind_eq_some.1 hw
      rw [List.cons_append, nestedFieldNoCopyAux, hv']
      dsimp only
      rw [nestedFieldNoCopyAux_of_nonMap hmap hnull pre (i + 1) v' hw', List.length_cons, Nat.add_right_comm i 1,
        Nat.add_assoc i]
    | _ => cases hw

/-- The descent stops at the first key whose parent is neither a map nor null, with the accessor
error that names the path up to that key, and the value found there twice, for `%v` and `%T`. -/
theorem nestedFieldNoCopy_of_nonMap {obj : Object} {pre : List String} {k : String} {rest : List String}
    {w : Value} (hw : valueAt (.map obj) pre = some w) (hmap : ∀ m, w ≠ .map m) (hnull : w ≠ .null) :
    nestedFieldNoCopy obj (pre ++ k :: rest) = (.null, false, some (accessorError (jsonPath (pre ++ [k])) w)) := by
  unfold nestedFieldNoCopy
  rw [nestedFieldNoCopyAux_of_nonMap _ hmap hnull pre 0 _ hw, Nat.zero_add, List.take_append_eq_append_take,
    List.take_of_length_le (Nat.le_succ _), Nat.add_sub_cancel_left]
  rfl

/-- The copy loop stops at the first element that is not a map, with an error that names the path
and that element's index; both `%v` and `%T` then get the whole slice, so the message gives the
slice and its type `[]interface{}` where the element and its type were meant. -/
theorem nestedMapSliceLoop_of_nonMap (val : Value) {v : Value} (hv : ∀ m, v ≠ .map m) (rest : List Value) :
    ∀ (pre : List Object) (i : Nat) (acc : List Object),
      nestedMapSliceLoop fields val i (pre.map .map ++ v :: rest) acc =
        (none, true, some ⟨"%v accessor error: %v[%d] is of the type %T, expected map[string]interface\x7b\x7d",
          [.str (jsonPath fields), .int ↑(i + pre.length), .value val, .value val]⟩)
  | [], i, acc => by
    cases v with
    | map m => exact absurd rfl (hv m)
    | _ => rfl
  | c :: pre, i, acc => by
    rw [List.map_cons, List.cons_append, nestedMapSliceLoop, nestedMapSliceLoop_of_nonMap val hv rest pre (i + 1),
      List.length_cons, Nat.add_right_comm i 1, Nat.add_assoc i]

variable {fields}

theorem nestedMapSlice_of_nonMap_entry {obj : Object} {pre : List Object} {v : Value} {rest : List Value}
    (h : valueAt (.map obj) fields = some (.list (pre.map .map ++ v :: rest))) (hv : ∀ m, v ≠ .map m) :
    nestedMapSlice obj fields =
      (none, true, some ⟨"%v accessor error: %v[%d] is of the type %T, expected map[string]interface\x7b\x7d",
        [.str (jsonPath fields), .int ↑pre.length, .value (.list (pre.map .map ++ v :: rest)),
          .value (.list (pre.map .map ++ v :: rest))]⟩) := by
  unfold nestedMapSlice
  rw [nestedFieldNoCopy_of_valueAt h]
  dsimp only
  rw [nestedMapSliceLoop_of_nonMap fields _ hv rest pre 0 [], Nat.zero_add]
  rfl

/-- A value that is not a list is named with the path, twice, for `%v` and `%T`. -/
theorem nestedMapSlice_of_nonList {obj : Object} {w : Value} (h : valueAt (.map obj) fields = some w)
    (hw : ∀ vs, w ≠ .list vs) :
    nestedMapSlice obj fields =
      (none, true, some ⟨"%v accessor error: %v is of the type %T, expected []interface\x7b\x7d",
        [.str (jsonPath fields), .value w, .value w]⟩) := by
  unfold nestedMapSlice
  rw [nestedFieldNoCopy_of_valueAt h]
  cases w with
  | list vs => exact absurd rfl (hw vs)
  | _ => rfl

end Errors

end CliStatus
