import CliStatus.FieldAccess
import Mathlib.Data.List.Infix

/-!
# Resource configs

Three functions of `internal/pkg/resourceconfig`. `GetPruneResources` scans a list of resources for
the inventory annotation, counting the annotated ones and keeping the last; the count then decides
between no resource, the one resource, and an error. The annotations come from apimachinery's
`GetAnnotations`, which reads `metadata.annotations` as a map of strings and gives a nil map for
anything else. The order of the resources never changes the result.

`RawConfigFileProvider.GetConfig` splits a file at every `---` and decodes the pieces in order,
stopping at the first that does not decode. The split loses nothing: its pieces, joined by `---`,
are the file. A stream of documents separated by `---` lines splits into one piece per document,
but a leading `---` line gives an extra empty piece first, which decodes to one more object, and a
`---` line after the last document gives one last.
`RawConfigFileProvider.IsSupported` turns away files named `kustomization.yaml` by their
`filepath.Base`.
-/

namespace CliStatus

/-- apimachinery's `nestedMapNoCopy`: the map at a path. -/
def nestedMapNoCopy (obj : Object) (fields : List String) : Option Object × Bool × Option GoError :=
  let (val, found, err) := nestedFieldNoCopy obj fields
  if !found || err.isSome then (none, found, err)
  else
    match val with
    | .map m => (some m, true, none)
    | _ => (none, false, some (accessorError (jsonPath fields) val))

/-- The loop of `NestedStringMap`: the entries with their strings, or the first value that is not a
string. Go ranges over the map in no fixed order; taking the entries in order changes only which
offending value the error names. -/
def nestedStringMapLoop : Object → Except Value (List (String × String))
  | [] => .ok []
  | (k, .str s) :: rest => (nestedStringMapLoop rest).map ((k, s) :: ·)
  | (_, v) :: _ => .error v

/-- apimachinery's `NestedStringMap`; ranging over a nil map copies nothing. -/
def nestedStringMap (obj : Object) (fields : List String) :
    Option (List (String × String)) × Bool × Option GoError :=
  let (m, found, err) := nestedMapNoCopy obj fields
  if !found || err.isSome then (none, found, err)
  else
    match nestedStringMapLoop (m.getD []) with
    | .ok strMap => (some strMap, true, none)
    | .error v =>
      (none, false, some ⟨"%v accessor error: contains non-string key in the map: %v is of the type %T, expected string",
        [.str (jsonPath fields), .value v, .value v]⟩)

/-- `GetAnnotations`: the map of strings at `metadata.annotations`, or a nil map. -/
def Unstructured.getAnnotations (u : Unstructured) : Option (List (String × String)) :=
  (nestedStringMap u.object ["metadata", "annotations"]).1

/-- The test of the loop of `GetPruneResources`, `annotations[inventory.InventoryAnnotation]` with
its `ok`: a nil map holds no key. The key is a constant of kustomize and a parameter here. -/
def hasInventoryAnnotationKey (inventoryAnnotationKey : String) (res : Unstructured) : Bool :=
  ((res.getAnnotations.getD []).lookup inventoryAnnotationKey).isSome

def getPruneResourcesStep (inventoryAnnotationKey : String) (acc : Nat × Option Unstructured)
    (res : Unstructured) : Nat × Option Unstructured :=
  let (count, result) := acc
  if hasInventoryAnnotationKey inventoryAnnotationKey res then (count + 1, some res) else (count, result)

def getPruneResources (inventoryAnnotationKey : String) (resources : List Unstructured) :
    Option Unstructured × Option GoError :=
  let (count, result) := resources.foldl (getPruneResourcesStep inventoryAnnotationKey) (0, none)
  if count = 0 then (none, none)
  else if count > 1 then (none, some ⟨"found multiple resources with inventory annotations", []⟩)
  else (result, none)

theorem foldl_getPruneResourcesStep (key : String) (resources : List Unstructured) :
    ∀ (count : Nat) (result : Option Unstructured),
      resources.foldl (getPruneResourcesStep key) (count, result) =
        (count + (resources.filter (hasInventoryAnnotationKey key)).length,
          (resources.filter (hasInventoryAnnotationKey key)).getLast?.or result) := by
  induction resources with
  | nil => intro count result; rfl
  | cons r rs ih =>
    intro count result
    rw [List.foldl_cons, getPruneResourcesStep]
    by_cases h : hasInventoryAnnotationKey key r
    · rw [if_pos h, ih, List.filter_cons_of_pos h, List.length_cons, List.getLast?_cons, Nat.add_right_comm,
        Nat.add_assoc]
      cases (rs.filter (hasInventoryAnnotationKey key)).getLast? <;> rfl
    · rw [if_neg h, ih, List.filter_cons_of_neg h]

/-- `GetPruneResources` returns the one annotated resource, nothing when there is none, and an error
and no resource when there are several; a resource it returns is the only annotated one. -/
theorem getPruneResources_annotated (key : String) (resources : List Unstructured) :
    (resources.filter (hasInventoryAnnotationKey key) = [] → getPruneResources key resources = (none, none)) ∧
    (∀ r, resources.filter (hasInventoryAnnotationKey key) = [r] → getPruneResources key resources = (some r, none)) ∧
    (2 ≤ (resources.filter (hasInventoryAnnotationKey key)).length →
      getPruneResources key resources = (none, some ⟨"found multiple resources with inventory annotations", []⟩)) ∧
    ∀ r, (getPruneResources key resources).1 = some r →
      hasInventoryAnnotationKey key r ∧ resources.filter (hasInventoryAnnotationKey key) = [r] := by
  have hmem : ∀ r ∈ resources.filter (hasInventoryAnnotationKey key), hasInventoryAnnotationKey key r :=
    fun r hr => List.of_mem_filter hr
  unfold getPruneResources
  rw [foldl_getPruneResourcesStep]
  generalize resources.filter (hasInventoryAnnotationKey key) = A at hmem ⊢
  rcases A with _ | ⟨r, _ | ⟨r', A⟩⟩
  · simp
  · simp_all
  · simp

/-- The loop keeps the last annotated resource it meets, yet the order of the resources never
matters: when that choice could differ there are several annotated resources, and the result is
the error. -/
theorem getPruneResources_perm (key : String) {resources resources' : List Unstructured}
    (h : resources.Perm resources') : getPruneResources key resources = getPruneResources key resources' := by
  have hf := h.filter (hasInventoryAnnotationKey key)
  unfold getPruneResources
  rw [foldl_getPruneResourcesStep, foldl_getPruneResourcesStep]
  generalize resources.filter (hasInventoryAnnotationKey key) = A at hf
  generalize resources'.filter (hasInventoryAnnotationKey key) = A' at hf
  rcases A with _ | ⟨r, _ | ⟨r', A⟩⟩
  · rw [List.nil_perm.1 hf]
  · rw [List.singleton_perm.1 hf]
  · simp [← hf.length_eq]

theorem getPruneResources_swap :
    let a : Unstructured := ⟨[("metadata", .map [("name", .str "a"), ("annotations", .map [("inventory", .str "x")])])]⟩
    let b : Unstructured := ⟨[("metadata", .map [("name", .str "b"), ("annotations", .map [("inventory", .str "y")])])]⟩
    [a, b].Perm [b, a] ∧ getPruneResources "inventory" [a, b] = getPruneResources "inventory" [b, a] :=
  ⟨.swap _ _ _, getPruneResources_perm "inventory" (.swap _ _ _)⟩

theorem nestedStringMapLoop_map :
    ∀ l : List (String × String), nestedStringMapLoop (l.map fun kv => (kv.1, .str kv.2)) = .ok l
  | [] => rfl
  | (k, s) :: l => by rw [List.map_cons, nestedStringMapLoop, nestedStringMapLoop_map l]; rfl

theorem eq_map_of_nestedStringMapLoop :
    ∀ {m : Object} {l : List (String × String)}, nestedStringMapLoop m = .ok l → m = l.map fun kv => (kv.1, .str kv.2)
  | [], l, h => by cases h; rfl
  | (k, v) :: m, l, h => by
    cases v with
    | str s =>
      rw [nestedStringMapLoop] at h
      cases hm : nestedStringMapLoop m with
      | error e => rw [hm] at h; cases h
      | ok l' => rw [hm] at h; cases h; rw [eq_map_of_nestedStringMapLoop hm]; rfl
    | _ => cases h

theorem nestedStringMapLoop_eq_ok {m : Object} {l : List (String × String)} :
    nestedStringMapLoop m = .ok l ↔ m = l.map fun kv => (kv.1, .str kv.2) :=
  ⟨eq_map_of_nestedStringMapLoop, fun h => h ▸ nestedStringMapLoop_map l⟩

theorem lookup_map_str (key : String) :
    ∀ l : List (String × String), (l.map fun kv => (kv.1, Value.str kv.2)).lookup key = (l.lookup key).map .str
  | [] => rfl
  | (k, v) :: l => by
    simp only [List.map_cons, List.lookup_cons]
    split <;> simp [lookup_map_str key l]

theorem nestedMapNoCopy_of_valueAt_map {obj : Object} {fields : List String} {m : Object}
    (h : valueAt (.map obj) fields = some (.map m)) : nestedMapNoCopy obj fields = (some m, true, none) := by
  unfold nestedMapNoCopy
  rw [nestedFieldNoCopy_of_valueAt h]
  rfl

theorem getAnnotations_eq (u : Unstructured) :
    u.getAnnotations =
      match valueAt (.map u.object) ["metadata", "annotations"] with
      | some (.map m) => (nestedStringMapLoop m).toOption
      | _ => none := by
  unfold Unstructured.getAnnotations nestedStringMap
  rcases h : valueAt (.map u.object) ["metadata", "annotations"] with _ | w
  · obtain ⟨v, e, he⟩ := nestedFieldNoCopy_of_valueAt_none h
    unfold nestedMapNoCopy
    rw [he]
    rfl
  · cases w with
    | map m =>
      rw [nestedMapNoCopy_of_valueAt_map h]
      cases hl : nestedStringMapLoop m <;> simp [hl, Except.toOption]
    | _ =>
      unfold nestedMapNoCopy
      rw [nestedFieldNoCopy_of_valueAt h]
      rfl

theorem exists_eq_map_str {m : Object} (h : ∀ kv ∈ m, ∃ s, kv.2 = .str s) :
    ∃ l : List (String × String), m = l.map fun kv => (kv.1, .str kv.2) := by
  induction m with
  | nil => exact ⟨[], rfl⟩
  | cons kv m ih =>
    obtain ⟨s, hs⟩ := h kv (List.mem_cons_self _ _)
    obtain ⟨l, rfl⟩ := ih fun kv' h' => h kv' (List.mem_cons_of_mem _ h')
    exact ⟨(kv.1, s) :: l, by rw [List.map_cons, ← hs]⟩

theorem getAnnotations_eq_some (u : Unstructured) (l : List (String × String)) :
    u.getAnnotations = some l ↔
      valueAt (.map u.object) ["metadata", "annotations"] = some (.map (l.map fun kv => (kv.1, .str kv.2))) := by
  rw [getAnnotations_eq]
  rcases valueAt (.map u.object) ["metadata", "annotations"] with _ | (_ | _ | _ | _ | _ | _ | _ | _ | m)
  all_goals simp only [reduceCtorEq, false_iff, Option.some.injEq, Value.map.injEq]
  rw [← nestedStringMapLoop_eq_ok]
  cases nestedStringMapLoop m <;> simp [Except.toOption]

/-- `GetAnnotations` returns a map exactly when `metadata.annotations` is a map of strings. A
resource counts as annotated for pruning exactly when that map holds the key, so one value
that is not a string anywhere among its annotations hides the inventory annotation. -/
theorem getAnnotations_spec (u : Unstructured) (key : String) :
    (∀ m, u.getAnnotations = some m ↔
      valueAt (.map u.object) ["metadata", "annotations"] = some (.map (m.map fun kv => (kv.1, .str kv.2)))) ∧
    (hasInventoryAnnotationKey key u = true ↔
      ∃ m, valueAt (.map u.object) ["metadata", "annotations"] = some (.map m) ∧
        (∀ kv ∈ m, ∃ s, kv.2 = .str s) ∧ (m.lookup key).isSome) := by
  refine ⟨getAnnotations_eq_some u, ?_⟩
  unfold hasInventoryAnnotationKey
  constructor
  · intro h
    rcases ha : u.getAnnotations with _ | l
    · rw [ha] at h
      cases h
    refine ⟨_, (getAnnotations_eq_some u l).1 ha, fun _ hkv => ?_, ?_⟩
    · obtain ⟨kv, -, rfl⟩ := List.mem_map.1 hkv
      exact ⟨_, rfl⟩
    · rw [ha, Option.getD_some] at h
      rw [lookup_map_str]
      simpa using h
  · rintro ⟨m, hm, hstr, hk⟩
    obtain ⟨l, rfl⟩ := exists_eq_map_str hstr
    rw [(getAnnotations_eq_some u l).2 hm, Option.getD_some]
    rw [lookup_map_str] at hk
    simpa using hk

/-- `strings.Split(s, "---")`: cut at every occurrence of the separator, leftmost first, with the
current piece kept reversed. -/
def splitDashesAux : List Char → List Char → List String
  | '-' :: '-' :: '-' :: cs, cur => String.mk cur.reverse :: splitDashesAux cs []
  | c :: cs, cur => splitDashesAux cs (c :: cur)
  | [], cur => [String.mk cur.reverse]

def splitDashes (s : String) : List String := splitDashesAux s.toList []

/-- `RawConfigFileProvider`, with the two library calls its `GetConfig` makes: `ioutil.ReadFile`,
and `yaml.Unmarshal` into a `map[string]interface{}`. -/
structure RawConfigFileProvider where
  readFile : String → Except GoError String
  unmarshal : String → Except GoError Object

/-- `GetConfig`: read the file, split it at every `---`, and decode each piece; the first error ends
the call. -/
def RawConfigFileProvider.getConfig (p : RawConfigFileProvider) (path : String) :
    Except GoError (List Unstructured) := do
  let b ← p.readFile path
  let objs := splitDashes b
  objs.mapM fun o => do
    let body ← p.unmarshal o
    pure ⟨body⟩

section Split

theorem dashes_not_prefix_append {c : Char} {p rest : List Char} (hp : ¬ ['-', '-', '-'] <:+: c :: p)
    (hrest : ∀ t, rest ≠ '-' :: t) : ¬ ['-', '-', '-'] <+: c :: (p ++ rest) := by
  rintro ⟨t, ht⟩
  rcases p with _ | ⟨d, _ | ⟨e, p⟩⟩ <;>
    simp only [List.nil_append, List.cons_append, List.singleton_append, List.cons.injEq] at ht
  · exact hrest _ ht.2.symm
  · exact hrest _ ht.2.2.symm
  · obtain ⟨rfl, rfl, rfl, -⟩ := ht
    exact hp (List.prefix_append _ p).isInfix

theorem splitDashesAux_cons {c : Char} {cs : List Char} (h : ¬ ['-', '-', '-'] <+: c :: cs) (cur : List Char) :
    splitDashesAux (c :: cs) cur = splitDashesAux cs (c :: cur) :=
  splitDashesAux.eq_2 cur c cs fun t hc hcs => h ⟨t, by rw [hc, hcs]; rfl⟩

theorem splitDashesAux_append {p rest : List Char} (hp : ¬ ['-', '-', '-'] <:+: p) (hrest : ∀ t, rest ≠ '-' :: t)
    (cur : List Char) : splitDashesAux (p ++ rest) cur = splitDashesAux rest (p.reverse ++ cur) := by
  induction p generalizing cur with
  | nil => rfl
  | cons c p ih =>
    rw [List.cons_append, splitDashesAux_cons (dashes_not_prefix_append hp hrest), ih fun h => hp (List.infix_cons h)]
    simp

theorem flatten_splitDashesAux (cs cur : List Char) :
    ((splitDashesAux cs cur).map fun a => "---".toList ++ a.toList).flatten = "---".toList ++ cur.reverse ++ cs := by
  induction cs, cur using splitDashesAux.induct with
  | case1 cs cur ih => rw [splitDashesAux.eq_1, List.map_cons, List.flatten_cons, ih]; simp
  | case2 c cs cur h ih => rw [splitDashesAux.eq_2 cur c cs h, ih]; simp
  | case3 cur => simp [splitDashesAux]

theorem not_infix_reverse_of_clean {cur cs : List Char}
    (hcl : ∀ i < cur.length, ¬ ['-', '-', '-'] <+: (cur.reverse ++ cs).drop i) :
    ¬ ['-', '-', '-'] <:+: cur.reverse := by
  rintro ⟨s, t, hst⟩
  have hlen := congrArg List.length hst
  simp only [List.length_append, List.length_reverse] at hlen
  refine hcl s.length (by simp at hlen; omega) ?_
  rw [← hst, List.append_assoc, List.append_assoc, List.drop_left]
  exact List.prefix_append _ _

theorem splitDashesAux_free (cs cur : List Char)
    (hcl : ∀ i < cur.length, ¬ ['-', '-', '-'] <+: (cur.reverse ++ cs).drop i) :
    ∀ piece ∈ splitDashesAux cs cur, ¬ ['-', '-', '-'] <:+: piece.toList := by
  induction cs, cur using splitDashesAux.induct with
  | case1 cs cur ih =>
    rw [splitDashesAux.eq_1]
    rintro piece (_ | ⟨_, hp⟩)
    · exact not_infix_reverse_of_clean hcl
    · exact ih (fun i hi => absurd hi (Nat.not_lt_zero _)) piece hp
  | case2 c cs cur h ih =>
    rw [splitDashesAux.eq_2 cur c cs h]
    refine ih fun i hi => ?_
    rw [List.reverse_cons, List.append_assoc, List.singleton_append]
    rcases Nat.lt_or_ge i cur.length with hlt | hge
    · exact hcl i hlt
    · obtain rfl : i = cur.length := by simp at hi; omega
      rw [← List.length_reverse, List.drop_left]
      rintro ⟨t, ht⟩
      simp only [List.cons_append, List.nil_append, List.cons.injEq] at ht
      exact h t ht.1.symm ht.2.symm
  | case3 cur =>
    rw [splitDashesAux.eq_3]
    rintro piece (_ | ⟨_, ⟨⟩⟩)
    exact not_infix_reverse_of_clean hcl

/-- The split that `GetConfig` decodes loses nothing and cuts at every separator: its pieces,
joined again by `---`, are the file, and no piece holds a `---`. -/
theorem splitDashes_roundTrip (s : String) :
    String.intercalate "---" (splitDashes s) = s ∧ ∀ piece ∈ splitDashes s, ¬ ['-', '-', '-'] <:+: piece.toList := by
  refine ⟨?_, splitDashesAux_free _ [] fun i hi => absurd hi (Nat.not_lt_zero _)⟩
  have h := flatten_splitDashesAux s.toList []
  unfold splitDashes
  cases hsp : splitDashesAux s.toList [] with
  | nil => rw [hsp] at h; cases h
  | cons a l =>
    rw [hsp, List.map_cons, List.flatten_cons, List.append_assoc] at h
    refine String.ext (?_ : (String.intercalate.go a "---" l).toList = s.toList)
    rw [toList_intercalate_go]
    simpa using h

variable (u : String → Except GoError Object)

theorem splitDashesAux_join (hu : ∀ s, u ("\n" ++ s) = u s ∧ u (s ++ "\n") = u s) :
    ∀ (k : String) (ks : List String) (cur : List Char), ¬ ['-', '-', '-'] <:+: k.toList →
      (∀ k' ∈ ks, ¬ ['-', '-', '-'] <:+: k'.toList) →
      (splitDashesAux (k.toList ++ (ks.map fun a => "\n---\n".toList ++ a.toList).flatten) cur).map u =
        u (String.mk (cur.reverse ++ k.toList)) :: ks.map u
  | k, [], cur, hk, _ => by
    rw [List.map_nil, List.flatten_nil, splitDashesAux_append hk (fun _ => List.noConfusion)]
    simp [splitDashesAux]
  | k, k' :: ks, cur, hk, hks => by
    have hk' := hks k' (List.mem_cons_self _ _)
    rw [List.map_cons, List.flatten_cons, ← List.append_assoc, List.append_assoc k.toList,
      splitDashesAux_append hk (fun _ h => by cases h)]
    show (String.mk (('\n' :: (k.toList.reverse ++ cur)).reverse) ::
      splitDashesAux (k'.toList ++ _) ['\n']).map u = _
    rw [List.map_cons, splitDashesAux_join hu k' ks ['\n'] hk' fun k'' h => hks k'' (List.mem_cons_of_mem _ h)]
    have h1 : u (String.mk (('\n' :: (k.toList.reverse ++ cur)).reverse)) = u (String.mk (cur.reverse ++ k.toList)) := by
      rw [List.reverse_cons, List.reverse_append, List.reverse_reverse]
      exact (hu (String.mk (cur.reverse ++ k.toList))).2
    have h2 : u (String.mk (['\n'].reverse ++ k'.toList)) = u k' := (hu k').1
    rw [h1, h2]
    rfl

end Split

theorem mapM_unmarshal_eq {u : String → Except GoError Object} :
    ∀ {l l' : List String}, l.map u = l'.map u →
      l.mapM (fun o => Unstructured.mk <$> u o) = l'.mapM (fun o => Unstructured.mk <$> u o)
  | [], [], _ => rfl
  | o :: l, o' :: l', h => by
    obtain ⟨h1, h2⟩ := List.cons.inj h
    rw [List.mapM_cons, List.mapM_cons, h1, mapM_unmarshal_eq h2]

theorem getConfig_eq (p : RawConfigFileProvider) {path b : String} (hfile : p.readFile path = .ok b) :
    p.getConfig path = (splitDashes b).mapM fun o => Unstructured.mk <$> p.unmarshal o := by
  simp only [RawConfigFileProvider.getConfig, hfile]
  rfl

theorem getConfig_separated (p : RawConfigFileProvider) (path d : String) (ds : List String)
    (hd : ∀ k ∈ d :: ds, ¬ ['-', '-', '-'] <:+: k.toList)
    (hu : ∀ s, p.unmarshal ("\n" ++ s) = p.unmarshal s ∧ p.unmarshal (s ++ "\n") = p.unmarshal s)
    (hfile : p.readFile path = .ok (String.intercalate "\n---\n" (d :: ds))) :
    p.getConfig path = (d :: ds).mapM fun o => Unstructured.mk <$> p.unmarshal o := by
  rw [getConfig_eq p hfile]
  refine mapM_unmarshal_eq ?_
  rw [splitDashes, show String.intercalate "\n---\n" (d :: ds) = String.intercalate.go d "\n---\n" ds from rfl,
    toList_intercalate_go, splitDashesAux_join _ hu d ds [] (hd d (List.mem_cons_self _ _))
      fun k h => hd k (List.mem_cons_of_mem _ h)]
  rfl

theorem length_of_mapM_ok {α β ε : Type} {f : α → Except ε β} :
    ∀ {l : List α} {r : List β}, l.mapM f = .ok r → r.length = l.length
  | [], r, h => by cases h; rfl
  | a :: l, r, h => by
    rw [List.mapM_cons] at h
    rcases ha : f a with e | b <;> rw [ha] at h
    · cases h
    rcases hl : l.mapM f with e | bs <;> rw [hl] at h
    · cases h
    cases h
    exact congrArg (· + 1) (length_of_mapM_ok hl)

/-- With a leading `---` line, the split yields an empty piece first, and the file decodes to that
piece's object followed by one object per document: one object more than there are documents. -/
theorem getConfig_leadingSeparator (p : RawConfigFileProvider) (path d : String) (ds : List String)
    (hd : ∀ k ∈ d :: ds, ¬ ['-', '-', '-'] <:+: k.toList)
    (hu : ∀ s, p.unmarshal ("\n" ++ s) = p.unmarshal s ∧ p.unmarshal (s ++ "\n") = p.unmarshal s)
    (hfile : p.readFile path = .ok ("---\n" ++ String.intercalate "\n---\n" (d :: ds))) :
    p.getConfig path = ("" :: d :: ds).mapM (fun o => Unstructured.mk <$> p.unmarshal o) ∧
      ∀ objs, p.getConfig path = .ok objs → objs.length = ds.length + 2 := by
  have h : p.getConfig path = ("" :: d :: ds).mapM (fun o => Unstructured.mk <$> p.unmarshal o) := by
    rw [getConfig_eq p hfile]
    refine mapM_unmarshal_eq ?_
    rw [splitDashes, show ("---\n" ++ String.intercalate "\n---\n" (d :: ds)).toList =
      '-' :: '-' :: '-' :: '\n' :: (String.intercalate.go d "\n---\n" ds).toList from rfl,
      splitDashesAux.eq_1, List.map_cons, toList_intercalate_go]
    show _ :: (splitDashesAux (d.toList ++ _) ['\n']).map _ = _
    rw [splitDashesAux_join _ hu d ds ['\n'] (hd d (List.mem_cons_self _ _)) fun k h => hd k (List.mem_cons_of_mem _ h)]
    exact congrArg (_ :: ·) (congrArg (· :: _) (hu d).1)
  exact ⟨h, fun objs hobjs => by rw [h] at hobjs; exact length_of_mapM_ok hobjs⟩

theorem getConfig_leadingSeparator_configMap :
    let p : RawConfigFileProvider :=
      ⟨fun _ => .ok "---\napiVersion: v1\nkind: ConfigMap", fun _ => .ok []⟩
    ((∀ k ∈ ["apiVersion: v1\nkind: ConfigMap"], ¬ ['-', '-', '-'] <:+: k.toList) ∧
      (∀ s, p.unmarshal ("\n" ++ s) = p.unmarshal s ∧ p.unmarshal (s ++ "\n") = p.unmarshal s) ∧
      p.readFile "config.yaml" = .ok ("---\n" ++ String.intercalate "\n---\n" ["apiVersion: v1\nkind: ConfigMap"])) ∧
    p.getConfig "config.yaml" = ["", "apiVersion: v1\nkind: ConfigMap"].mapM (fun o => Unstructured.mk <$> p.unmarshal o) ∧
      ∀ objs, p.getConfig "config.yaml" = .ok objs → objs.length = 2 :=
  ⟨⟨by decide, fun _ => ⟨rfl, rfl⟩, rfl⟩,
    getConfig_leadingSeparator _ "config.yaml" "apiVersion: v1\nkind: ConfigMap" [] (by decide) (fun _ => ⟨rfl, rfl⟩) rfl⟩

/-- A `---` line after the last document, as many YAML files end, gives an extra empty piece last,
and the file decodes to one object per document followed by that piece's object: one object more
than there are documents. -/
theorem getConfig_trailingSeparator (p : RawConfigFileProvider) (path d : String) (ds : List String)
    (hd : ∀ k ∈ d :: ds, ¬ ['-', '-', '-'] <:+: k.toList)
    (hu : ∀ s, p.unmarshal ("\n" ++ s) = p.unmarshal s ∧ p.unmarshal (s ++ "\n") = p.unmarshal s)
    (hfile : p.readFile path = .ok (String.intercalate "\n---\n" (d :: ds) ++ "\n---\n")) :
    p.getConfig path = ((d :: ds) ++ [""]).mapM (fun o => Unstructured.mk <$> p.unmarshal o) ∧
      ∀ objs, p.getConfig path = .ok objs → objs.length = ds.length + 2 := by
  have hjoin : String.intercalate "\n---\n" (d :: ds) ++ "\n---\n" = String.intercalate "\n---\n" (d :: (ds ++ [""])) := by
    refine String.ext ?_
    show (String.intercalate.go d "\n---\n" ds).toList ++ "\n---\n".toList =
      (String.intercalate.go d "\n---\n" (ds ++ [""])).toList
    rw [toList_intercalate_go, toList_intercalate_go]
    simp
  have hd' : ∀ k ∈ d :: (ds ++ [""]), ¬ ['-', '-', '-'] <:+: k.toList := by
    intro k hk
    rcases List.mem_cons.1 hk with rfl | hk
    · exact hd _ (List.mem_cons_self _ _)
    rcases List.mem_append.1 hk with hk | hk
    · exact hd k (List.mem_cons_of_mem _ hk)
    rw [List.mem_singleton.1 hk]
    decide
  have h := getConfig_separated p path d (ds ++ [""]) hd' hu (hjoin ▸ hfile)
  refine ⟨h, fun objs hobjs => ?_⟩
  rw [h] at hobjs
  simpa using length_of_mapM_ok hobjs

theorem getConfig_trailingSeparator_configMap :
    let p : RawConfigFileProvider :=
      ⟨fun _ => .ok "apiVersion: v1\nkind: ConfigMap\n---\n", fun _ => .ok []⟩
    ((∀ k ∈ ["apiVersion: v1\nkind: ConfigMap"], ¬ ['-', '-', '-'] <:+: k.toList) ∧
      (∀ s, p.unmarshal ("\n" ++ s) = p.unmarshal s ∧ p.unmarshal (s ++ "\n") = p.unmarshal s) ∧
      p.readFile "config.yaml" = .ok (String.intercalate "\n---\n" ["apiVersion: v1\nkind: ConfigMap"] ++ "\n---\n")) ∧
    p.getConfig "config.yaml" = (["apiVersion: v1\nkind: ConfigMap"] ++ [""]).mapM (fun o => Unstructured.mk <$> p.unmarshal o) ∧
      ∀ objs, p.getConfig "config.yaml" = .ok objs → objs.length = 2 :=
  ⟨⟨by decide, fun _ => ⟨rfl, rfl⟩, rfl⟩,
    getConfig_trailingSeparator _ "config.yaml" "apiVersion: v1\nkind: ConfigMap" [] (by decide) (fun _ => ⟨rfl, rfl⟩) rfl⟩

section MapM

variable {α β ε : Type} {f : α → Except ε β}

theorem mapM_eq_ok_iff : ∀ {l : List α} {r : List β}, l.mapM f = .ok r ↔ l.map f = r.map .ok
  | [], [] => iff_of_true rfl rfl
  | [], b :: r => iff_of_false (fun h => by cases h) (fun h => by cases h)
  | a :: l, r => by
    rw [List.mapM_cons, List.map_cons]
    rcases f a with e | b
    · refine iff_of_false (fun h => by cases h) fun h => ?_
      cases r with
      | nil => cases h
      | cons b r => cases (List.cons.inj h).1
    rcases hl : l.mapM f with e | bs
    · refine iff_of_false (fun h => by cases h) fun h => ?_
      cases r with
      | nil => cases h
      | cons b r => cases hl.symm.trans (mapM_eq_ok_iff.2 (List.cons.inj h).2)
    · cases r with
      | nil => exact iff_of_false (fun h => by cases h) fun h => by cases h
      | cons b' r =>
        show Except.ok (b :: bs) = .ok (b' :: r) ↔ _
        rw [List.map_cons, List.cons.injEq, ← mapM_eq_ok_iff, hl]
        simp

variable {e : ε}

theorem exists_first_error_cons {a : α} {l : List α} :
    (∃ pre x post, a :: l = pre ++ x :: post ∧ (∀ y ∈ pre, ∃ b, f y = .ok b) ∧ f x = .error e) ↔
      f a = .error e ∨ (∃ b, f a = .ok b) ∧
        ∃ pre x post, l = pre ++ x :: post ∧ (∀ y ∈ pre, ∃ b, f y = .ok b) ∧ f x = .error e := by
  constructor
  · rintro ⟨_ | ⟨y, pre⟩, x, post, h, hpre, hx⟩ <;> simp only [List.nil_append, List.cons_append, List.cons.injEq] at h
    · obtain ⟨rfl, -⟩ := h
      exact .inl hx
    · obtain ⟨rfl, rfl⟩ := h
      exact .inr ⟨hpre a (List.mem_cons_self _ _), pre, x, post, rfl, fun z hz => hpre z (List.mem_cons_of_mem _ hz), hx⟩
  · rintro (ha | ⟨hb, pre, x, post, rfl, hpre, hx⟩)
    · exact ⟨[], a, l, rfl, fun _ h => absurd h (List.not_mem_nil _), ha⟩
    · exact ⟨a :: pre, x, post, rfl, fun z hz => (List.mem_cons.1 hz).elim (· ▸ hb) (hpre z), hx⟩

theorem mapM_eq_error_iff : ∀ {l : List α}, l.mapM f = .error e ↔
    ∃ pre x post, l = pre ++ x :: post ∧ (∀ y ∈ pre, ∃ b, f y = .ok b) ∧ f x = .error e
  | [] => iff_of_false (fun h => by cases h) fun ⟨pre, x, post, h, _⟩ => by simp at h
  | a :: l => by
    rw [List.mapM_cons, exists_first_error_cons, ← mapM_eq_error_iff]
    rcases f a with e' | b
    · simp [bind, Except.bind]
    · rcases l.mapM f with e' | bs
      · simp [bind, Except.bind]
      · simp [bind, Except.bind, pure, Except.pure]

end MapM

section Decode

variable {x : Except GoError Object}

theorem map_mk_injective : Function.Injective fun x : Except GoError Object => Unstructured.mk <$> x := by
  rintro (_ | _) (_ | _) h <;> cases h <;> rfl

theorem map_mk_eq_error {e : GoError} : Unstructured.mk <$> x = .error e ↔ x = .error e := by
  cases x <;> simp [Functor.map, Except.map]

theorem exists_map_mk_eq_ok : (∃ u, Unstructured.mk <$> x = .ok u) ↔ ∃ obj, x = .ok obj := by
  cases x <;> simp [Functor.map, Except.map]

end Decode

/-- `GetConfig` returns the error of `ReadFile`, or decodes the pieces of the split in order:
it returns one object per piece, each the decoding of its piece, or the error of the first piece
that does not decode. -/
theorem getConfig_spec (p : RawConfigFileProvider) (path : String) :
    (∀ e, p.readFile path = .error e → p.getConfig path = .error e) ∧
    ∀ b, p.readFile path = .ok b →
      (∀ objs, p.getConfig path = .ok objs ↔
        (splitDashes b).map p.unmarshal = objs.map fun u => .ok u.object) ∧
      ∀ e, p.getConfig path = .error e ↔
        ∃ pre o post, splitDashes b = pre ++ o :: post ∧ (∀ x ∈ pre, ∃ obj, p.unmarshal x = .ok obj) ∧
          p.unmarshal o = .error e := by
  refine ⟨fun e h => by simp only [RawConfigFileProvider.getConfig, h]; rfl, fun b h => ⟨fun objs => ?_, fun e => ?_⟩⟩
  · rw [getConfig_eq p h, mapM_eq_ok_iff, ← (List.map_injective_iff.2 map_mk_injective).eq_iff, List.map_map,
      List.map_map]
    rfl
  · rw [getConfig_eq p h, mapM_eq_error_iff]
    simp only [map_mk_eq_error, exists_map_mk_eq_ok]

/-- Go's `filepath.Base` on a Unix path: drop the trailing slashes and keep what follows the last
slash; `.` for the empty path and `/` for a path of slashes only. -/
def filepathBase (path : String) : String :=
  if path = "" then "."
  else
    let last := (path.toList.reverse.dropWhile (· = '/')).takeWhile (· ≠ '/')
    if last = [] then "/" else String.mk last.reverse

/-- `IsSupported`: never a file named `kustomization.yaml`, otherwise whether `os.Stat` succeeds on
the path, which is a parameter. -/
def RawConfigFileProvider.isSupported (_p : RawConfigFileProvider) (statOk : String → Bool) (path : String) :
    Bool :=
  if filepathBase path = "kustomization.yaml" then false
  else statOk path

theorem filepathBase_of_append {pre name : List Char} (n : Nat) (hpre : pre = [] ∨ ∃ d, pre = d ++ ['/'])
    (hname : '/' ∉ name) (hne : name ≠ []) :
    filepathBase (String.mk (pre ++ name ++ List.replicate n '/')) = String.mk name := by
  obtain ⟨c, cs, hc⟩ : ∃ c cs, name.reverse = c :: cs := List.exists_cons_of_ne_nil (by simpa using hne)
  have hc' : ¬(c = '/') := fun h => hname (List.mem_reverse.1 (hc ▸ h ▸ List.mem_cons_self _ _))
  have hpos : ∀ x ∈ name.reverse, decide (x ≠ '/') = true := fun x hx => by
    simpa using fun h : x = '/' => hname (List.mem_reverse.1 (h ▸ hx))
  have htail : pre.reverse.takeWhile (· ≠ '/') = [] := by
    rcases hpre with rfl | ⟨d, rfl⟩
    · rfl
    · simp
  have hpath : String.mk (pre ++ name ++ List.replicate n '/') ≠ "" := fun h =>
    hne (List.append_eq_nil.1 (List.append_eq_nil.1 (congrArg String.data h)).1).2
  dsimp only [filepathBase, String.toList]
  rw [if_neg hpath, List.reverse_append, List.reverse_append, List.reverse_replicate,
    List.dropWhile_append_of_pos fun c hc => by simp [List.eq_of_mem_replicate hc],
    hc, List.cons_append, List.dropWhile_cons_of_neg (by simpa using hc'), ← List.cons_append, ← hc,
    List.takeWhile_append_of_pos hpos, htail, List.append_nil, if_neg (by simpa using hne), List.reverse_reverse]

/-- `IsSupported` turns away every file named `kustomization.yaml`, in any directory and with any
number of trailing slashes, and accepts every other path exactly when `os.Stat` finds it. -/
theorem isSupported_spec (p : RawConfigFileProvider) (statOk : String → Bool) :
    (∀ (dir : String) (n : Nat),
      p.isSupported statOk (dir ++ "/kustomization.yaml" ++ String.mk (List.replicate n '/')) = false) ∧
    (∀ n : Nat, p.isSupported statOk ("kustomization.yaml" ++ String.mk (List.replicate n '/')) = false) ∧
    ∀ path, filepathBase path ≠ "kustomization.yaml" → p.isSupported statOk path = statOk path := by
  have hK : '/' ∉ "kustomization.yaml".toList := by decide
  have hK' : "kustomization.yaml".toList ≠ [] := by decide
  refine ⟨fun dir n => ?_, fun n => ?_, fun path h => if_neg h⟩
  · have hpath : dir ++ "/kustomization.yaml" ++ String.mk (List.replicate n '/') =
        String.mk ((dir.toList ++ ['/']) ++ "kustomization.yaml".toList ++ List.replicate n '/') := by
      refine String.ext (?_ : dir.toList ++ "/kustomization.yaml".toList ++ _ = _)
      rw [show "/kustomization.yaml".toList = '/' :: "kustomization.yaml".toList from rfl]
      simp
    rw [RawConfigFileProvider.isSupported, hpath, filepathBase_of_append n (.inr ⟨_, rfl⟩) hK hK']
    rfl
  · rw [RawConfigFileProvider.isSupported,
      show "kustomization.yaml" ++ String.mk (List.replicate n '/') =
        String.mk ([] ++ "kustomization.yaml".toList ++ List.replicate n '/') from rfl,
      filepathBase_of_append n (.inl rfl) hK hK']
    rfl

end CliStatus
