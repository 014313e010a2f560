import CliStatus.Invariants
import Mathlib.Logic.Function.Basic

/-!
# `Status.Do`

The command's loop: for each resource pointer, `Get` the object from the cluster into it, then
evaluate `IsReady` on it, and collect one `ResourceStatus` per pointer and the errors met on the
way. The objects live behind pointers, so the model threads a heap of them through the loop; the
client is a parameter, since `Do` only calls its `Get`.

The run lemma `foldl_doStep` says what the whole loop appends: one report per pointer, built from
the client's answer to that pointer's call. Because `IsReady` never fails, an entry carries an
error exactly when its fetch did, and the aggregate error lists exactly those errors. With distinct
pointers, each object ends as its own `Get` left it and each entry depends on nothing else, so the
order of the resources only orders the entries and the errors.
-/

namespace CliStatus

/-- A `*unstructured.Unstructured`: the address of an object in the heap. -/
abbrev Ptr := Nat

abbrev Heap := Ptr → Unstructured

/-- `types.NamespacedName`; its `Namespace` field is `ns`, as `namespace` is a keyword here. -/
structure NamespacedName where
  ns : String
  name : String

/-- The part of `client.Client` that `Do` calls: `Get` from a key and the object it fills in (whose
group, version and kind select the resource) to the object read from the cluster, or an error.
A failed `Get` leaves the object as it was. -/
structure Client where
  get : NamespacedName → Unstructured → Except GoError Unstructured

structure ResourceStatus where
  resource : Ptr
  conditions : List Condition
  error : Option GoError

structure Result where
  resources : List ResourceStatus

/-- `errors.Aggregate` of apimachinery: an error that holds a non-empty list of errors. -/
structure Aggregate where
  errors : List GoError
  ne_nil : errors ≠ []

/-- `errors.NewAggregate`: nil for an empty list. Its filtering of nil entries does nothing here,
since every error `Do` collects is non-nil. -/
def newAggregate : List GoError → Option Aggregate
  | [] => none
  | e :: es => some ⟨e :: es, List.cons_ne_nil e es⟩

/-- The `Status` command. `Out` is the text written to it, kept in `World`; `Commit` is not read
by `Do`. -/
structure Status where
  dynamicClient : Client
  resources : List Ptr

/-- What `Do` reads and writes besides its receiver: the objects behind the pointers and the text
written to `Out`. -/
structure World where
  heap : Heap
  out : String

/-- One iteration of the loop of `Do`: the statuses and errors so far, and the heap. -/
def doStep (client : Client) (acc : List ResourceStatus × List GoError × Heap) (u : Ptr) :
    List ResourceStatus × List GoError × Heap :=
  let (rs, errs, heap) := acc
  match client.get ⟨(heap u).getNamespace, (heap u).getName⟩ (heap u) with
  | .error err => (rs ++ [⟨u, [], some err⟩], errs ++ [err], heap)
  | .ok obj =>
    let heap := Function.update heap u obj
    match isReady (heap u) with
    | (_, some err) => (rs ++ [⟨u, [], some err⟩], errs ++ [err], heap)
    | (conditions, none) => (rs ++ [⟨u, conditions, none⟩], errs, heap)

def Status.Do (a : Status) (w : World) : (Result × Option Aggregate) × World :=
  let errs : List GoError := []
  let rs : List ResourceStatus := []
  let w := { w with out := w.out ++ "Doing `cli-experimental apply status`\n" }
  let (rs, errs, heap) := a.resources.foldl (doStep a.dynamicClient) (rs, errs, w.heap)
  let w := { w with heap := heap }
  if errs.length ≠ 0 then (({ resources := rs }, newAggregate errs), w)
  else (({ resources := rs }, none), w)

/-- The call `Do` makes for an object: its namespace and name as the key. -/
def Client.fetch (c : Client) (u : Unstructured) : Except GoError Unstructured :=
  c.get ⟨u.getNamespace, u.getName⟩ u

def store (heap : Heap) (p : Ptr) : Except GoError Unstructured → Heap
  | .ok u => Function.update heap p u
  | .error _ => heap

/-- The client's answers to the calls `Do` makes, in order. A pointer met twice is fetched again
with what the first call wrote into it. -/
def Client.gets (c : Client) (heap : Heap) : List Ptr → List (Except GoError Unstructured)
  | [] => []
  | p :: ps => c.fetch (heap p) :: c.gets (store heap p (c.fetch (heap p))) ps

def reportOf (p : Ptr) : Except GoError Unstructured → ResourceStatus
  | .error err => ⟨p, [], some err⟩
  | .ok u => ⟨p, (isReady u).1, none⟩

@[simp] theorem reportOf_resource (p : Ptr) (r : Except GoError Unstructured) :
    (reportOf p r).resource = p := by
  cases r <;> rfl

theorem reportOf_conditions_ne_nil {p : Ptr} {r : Except GoError Unstructured}
    (h : (reportOf p r).error = none) : (reportOf p r).conditions ≠ [] := by
  cases r with
  | error => cases h
  | ok u =>
    obtain ⟨cs, hu, c, hc, -⟩ := isReady_eq_of_ready u
    simp only [reportOf, hu]
    exact List.ne_nil_of_mem hc

theorem doStep_eq (c : Client) (rs : List ResourceStatus) (errs : List GoError) (heap : Heap) (p : Ptr) :
    doStep c (rs, errs, heap) p =
      (rs ++ [reportOf p (c.fetch (heap p))], errs ++ (reportOf p (c.fetch (heap p))).error.toList,
        store heap p (c.fetch (heap p))) := by
  simp only [doStep, Client.fetch]
  cases c.get ⟨(heap p).getNamespace, (heap p).getName⟩ (heap p) with
  | error err => rfl
  | ok u =>
    obtain ⟨cs, hu, -⟩ := isReady_eq_of_ready u
    simp only [Function.update_same, hu, reportOf, store, Option.toList, List.append_nil]

theorem foldl_doStep (c : Client) (ps : List Ptr) (rs : List ResourceStatus) (errs : List GoError)
    (heap : Heap) : ∃ heap',
      ps.foldl (doStep c) (rs, errs, heap) =
        (rs ++ List.zipWith reportOf ps (c.gets heap ps),
          errs ++ (List.zipWith reportOf ps (c.gets heap ps)).filterMap (·.error), heap') := by
  induction ps generalizing rs errs heap with
  | nil => exact ⟨heap, by simp [Client.gets]⟩
  | cons p ps ih =>
    obtain ⟨heap', h⟩ := ih (rs ++ [reportOf p (c.fetch (heap p))])
      (errs ++ (reportOf p (c.fetch (heap p))).error.toList) (store heap p (c.fetch (heap p)))
    refine ⟨heap', ?_⟩
    rw [List.foldl_cons, doStep_eq, h]
    rcases he : (reportOf p (c.fetch (heap p))).error with _ | e <;> simp [Client.gets, he]

theorem store_apply_of_ne {q p : Ptr} (h : q ≠ p) (heap : Heap) (r : Except GoError Unstructured) :
    store heap p r q = heap q := by
  cases r <;> simp [store, Function.update_noteq h]

theorem store_comm {p q : Ptr} (h : p ≠ q) (heap : Heap) (r s : Except GoError Unstructured) :
    store (store heap p r) q s = store (store heap q s) p r := by
  cases r <;> cases s <;> simp [store, Function.update_comm h]

theorem gets_store_of_not_mem (c : Client) {p : Ptr} {ps : List Ptr} (hp : p ∉ ps) (heap : Heap)
    (r : Except GoError Unstructured) : c.gets (store heap p r) ps = c.gets heap ps := by
  induction ps generalizing heap with
  | nil => rfl
  | cons q qs ih =>
    obtain ⟨hpq, hqs⟩ := List.ne_and_not_mem_of_not_mem_cons hp
    have hq : store heap p r q = heap q := store_apply_of_ne (Ne.symm hpq) heap r
    simp only [Client.gets, hq, store_comm hpq, ih hqs]

theorem gets_of_nodup (c : Client) (heap : Heap) {ps : List Ptr} (h : ps.Nodup) :
    c.gets heap ps = ps.map fun p => c.fetch (heap p) := by
  induction ps generalizing heap with
  | nil => rfl
  | cons p ps ih =>
    obtain ⟨hp, hps⟩ := List.nodup_cons.1 h
    simp only [Client.gets, List.map_cons, gets_store_of_not_mem c hp, ih _ hps]

theorem map_resource_zipWith_reportOf (c : Client) (ps : List Ptr) (heap : Heap) :
    (List.zipWith reportOf ps (c.gets heap ps)).map (·.resource) = ps := by
  induction ps generalizing heap with
  | nil => rfl
  | cons p ps ih => simp [Client.gets, ih]

theorem newAggregate_eq_none_iff (errs : List GoError) : newAggregate errs = none ↔ errs = [] := by
  cases errs <;> simp [newAggregate]

theorem errors_of_newAggregate {errs : List GoError} {ag : Aggregate} (h : newAggregate errs = some ag) :
    ag.errors = errs := by
  cases errs with
  | nil => cases h
  | cons e es => cases h; rfl

theorem Status.do_eq (a : Status) (w : World) : ∃ heap',
    a.Do w =
      (({ resources := List.zipWith reportOf a.resources (a.dynamicClient.gets w.heap a.resources) },
        newAggregate ((List.zipWith reportOf a.resources (a.dynamicClient.gets w.heap a.resources)).filterMap
          (·.error))), ⟨heap', w.out ++ "Doing `cli-experimental apply status`\n"⟩) := by
  obtain ⟨heap', h⟩ := foldl_doStep a.dynamicClient a.resources [] [] w.heap
  refine ⟨heap', ?_⟩
  simp only [Status.Do, h, List.nil_append]
  split_ifs with hz
  · rfl
  · rw [List.length_eq_zero.1 (not_not.1 hz)]
    rfl

/-- The run's result: one entry per pointer, in order, built from the client's answer to that
pointer's call, with conditions whenever there is no error; the error is nil exactly when no
entry has one, and otherwise aggregates the entries' errors in order. -/
theorem Status.do_result (a : Status) (w : World) :
    (a.Do w).1.1.resources = List.zipWith reportOf a.resources (a.dynamicClient.gets w.heap a.resources) ∧
      (a.Do w).1.1.resources.map (·.resource) = a.resources ∧
      (∀ e ∈ (a.Do w).1.1.resources, e.error = none → e.conditions ≠ []) ∧
      ((a.Do w).1.2 = none ↔ ∀ e ∈ (a.Do w).1.1.resources, e.error = none) ∧
      ∀ ag, (a.Do w).1.2 = some ag → ag.errors = (a.Do w).1.1.resources.filterMap (·.error) := by
  obtain ⟨heap', h⟩ := Status.do_eq a w
  rw [h]
  refine ⟨rfl, map_resource_zipWith_reportOf _ _ _, ?_, ?_, fun ag => errors_of_newAggregate⟩
  · simp only [List.mem_iff_get, List.get_eq_getElem, forall_exists_index]
    rintro _ i rfl
    rw [List.getElem_zipWith]
    exact reportOf_conditions_ne_nil
  · rw [newAggregate_eq_none_iff, List.filterMap_eq_nil_iff]

/-- An empty list of resources gives an empty result and no error. -/
example : let r := (Status.Do ⟨⟨fun _ _ => .error ⟨"not found", []⟩⟩, []⟩ ⟨fun _ => ⟨[]⟩, ""⟩).1
    r.1.resources.isEmpty ∧ r.2.isNone := by
  decide

def Client.heapAfter (c : Client) : Heap → List Ptr → Heap
  | heap, [] => heap
  | heap, p :: ps => c.heapAfter (store heap p (c.fetch (heap p))) ps

theorem store_apply_self (heap : Heap) (p : Ptr) (r : Except GoError Unstructured) :
    store heap p r p = match r with
      | .ok u => u
      | .error _ => heap p := by
  cases r <;> simp [store]

theorem foldl_doStep_heap (c : Client) (ps : List Ptr) (rs : List ResourceStatus) (errs : List GoError)
    (heap : Heap) : (ps.foldl (doStep c) (rs, errs, heap)).2.2 = c.heapAfter heap ps := by
  induction ps generalizing rs errs heap with
  | nil => rfl
  | cons p ps ih => rw [List.foldl_cons, doStep_eq, ih]; rfl

theorem heapAfter_of_not_mem (c : Client) {p : Ptr} {ps : List Ptr} (hp : p ∉ ps) (heap : Heap) :
    c.heapAfter heap ps p = heap p := by
  induction ps generalizing heap with
  | nil => rfl
  | cons q qs ih =>
    obtain ⟨hpq, hqs⟩ := List.ne_and_not_mem_of_not_mem_cons hp
    rw [Client.heapAfter, ih hqs, store_apply_of_ne hpq]

theorem heapAfter_of_nodup (c : Client) {p : Ptr} {ps : List Ptr} (hd : ps.Nodup) (hp : p ∈ ps) (heap : Heap) :
    c.heapAfter heap ps p = store heap p (c.fetch (heap p)) p := by
  induction ps generalizing heap with
  | nil => cases hp
  | cons q qs ih =>
    obtain ⟨hq, hqs⟩ := List.nodup_cons.1 hd
    rw [Client.heapAfter]
    by_cases hpq : p = q
    · subst hpq
      exact heapAfter_of_not_mem c hq _
    · have hp' := (List.mem_cons.1 hp).resolve_left hpq
      rw [ih hqs hp', store_apply_of_ne hpq, store_apply_self, store_apply_self, store_apply_of_ne hpq]

theorem Status.do_heap (a : Status) (w : World) : (a.Do w).2.heap = a.dynamicClient.heapAfter w.heap a.resources := by
  have h := foldl_doStep_heap a.dynamicClient a.resources [] [] w.heap
  dsimp only [Status.Do]
  generalize a.resources.foldl _ _ = r at h ⊢
  obtain ⟨rs, errs, heap⟩ := r
  split_ifs <;> exact h

theorem Status.do_resources_of_nodup (a : Status) (w : World) (hd : a.resources.Nodup) :
    (a.Do w).1.1.resources = a.resources.map fun p => reportOf p (a.dynamicClient.fetch (w.heap p)) := by
  obtain ⟨heap', hdo⟩ := Status.do_eq a w
  rw [hdo, gets_of_nodup _ _ hd, List.zipWith_map_right, List.zipWith_same]

/-- What `Do` leaves in the heap: objects behind pointers it was not given are untouched. With
distinct pointers, each object is the one its `Get` read, or is unchanged when the `Get` failed,
and each entry without an error carries the conditions of the object its pointer then holds. -/
theorem Status.do_heap_spec (a : Status) (w : World) :
    (∀ p ∉ a.resources, (a.Do w).2.heap p = w.heap p) ∧
    (a.resources.Nodup → ∀ p ∈ a.resources, (a.Do w).2.heap p =
      match a.dynamicClient.fetch (w.heap p) with
      | .ok u => u
      | .error _ => w.heap p) ∧
    (a.resources.Nodup → ∀ e ∈ (a.Do w).1.1.resources, e.error = none →
      e.conditions = (isReady ((a.Do w).2.heap e.resource)).1) := by
  have hfinal : a.resources.Nodup → ∀ p ∈ a.resources,
      (a.Do w).2.heap p = store w.heap p (a.dynamicClient.fetch (w.heap p)) p := fun hd p hp => by
    rw [Status.do_heap, heapAfter_of_nodup _ hd hp]
  refine ⟨fun p hp => by rw [Status.do_heap, heapAfter_of_not_mem _ hp], fun hd p hp => by rw [hfinal hd p hp, store_apply_self],
    fun hd e he hne => ?_⟩
  rw [Status.do_resources_of_nodup a w hd, List.mem_map] at he
  obtain ⟨p, hp, rfl⟩ := he
  rw [reportOf_resource, hfinal hd p hp, store_apply_self]
  cases hf : a.dynamicClient.fetch (w.heap p) with
  | error err => rw [hf] at hne; cases hne
  | ok u => rfl

theorem Status.do_aggregate (a : Status) (w : World) :
    (a.Do w).1.2 = newAggregate ((a.Do w).1.1.resources.filterMap (·.error)) := by
  obtain ⟨heap', hdo⟩ := Status.do_eq a w
  rw [hdo]

theorem Status.do_world (a : Status) (w : World) :
    (a.Do w).2 = ⟨a.dynamicClient.heapAfter w.heap a.resources, w.out ++ "Doing `cli-experimental apply status`\n"⟩ := by
  obtain ⟨heap', hdo⟩ := Status.do_eq a w
  have hh := Status.do_heap a w
  rw [hdo] at hh ⊢
  rw [← hh]

theorem heapAfter_perm (c : Client) {ps ps' : List Ptr} (hd : ps.Nodup) (hp : ps.Perm ps') (heap : Heap) :
    c.heapAfter heap ps = c.heapAfter heap ps' := by
  funext q
  by_cases hq : q ∈ ps
  · rw [heapAfter_of_nodup c hd hq, heapAfter_of_nodup c (hp.nodup_iff.1 hd) (hp.mem_iff.1 hq)]
  · rw [heapAfter_of_not_mem c hq, heapAfter_of_not_mem c (mt hp.mem_iff.2 hq)]

/-- With distinct resources, no resource's status depends on the others: listing the same
resources in another order reorders the entries and the aggregated errors, and leaves the same
heap and output. -/
theorem Status.do_perm (a : Status) (w : World) {ps : List Ptr} (hd : a.resources.Nodup) (hp : a.resources.Perm ps) :
    (Status.Do ⟨a.dynamicClient, ps⟩ w).1.1.resources.Perm (a.Do w).1.1.resources ∧
    ((Status.Do ⟨a.dynamicClient, ps⟩ w).1.2 = none ↔ (a.Do w).1.2 = none) ∧
    (∀ ag ag', (Status.Do ⟨a.dynamicClient, ps⟩ w).1.2 = some ag' → (a.Do w).1.2 = some ag →
      ag'.errors.Perm ag.errors) ∧
    (Status.Do ⟨a.dynamicClient, ps⟩ w).2 = (a.Do w).2 := by
  have hres : (Status.Do ⟨a.dynamicClient, ps⟩ w).1.1.resources.Perm (a.Do w).1.1.resources := by
    rw [Status.do_resources_of_nodup _ w (hp.nodup_iff.1 hd), Status.do_resources_of_nodup a w hd]
    exact (hp.map _).symm
  have herr := hres.filterMap (·.error)
  refine ⟨hres, ?_, fun ag ag' h' h => ?_, ?_⟩
  · rw [Status.do_aggregate, Status.do_aggregate a, newAggregate_eq_none_iff, newAggregate_eq_none_iff,
      ← List.length_eq_zero, herr.length_eq, List.length_eq_zero]
  · rw [Status.do_aggregate] at h h'
    rw [errors_of_newAggregate h', errors_of_newAggregate h]
    exact herr
  · rw [Status.do_world, Status.do_world, heapAfter_perm _ hd hp]

theorem Status.do_perm_swap :
    let a : Status := ⟨⟨fun _ u => .ok u⟩, [0, 1]⟩
    let w : World := ⟨fun _ => ⟨[]⟩, ""⟩
    (a.resources.Nodup ∧ a.resources.Perm [1, 0]) ∧
      (Status.Do ⟨a.dynamicClient, [1, 0]⟩ w).1.1.resources.Perm (a.Do w).1.1.resources ∧
      ((Status.Do ⟨a.dynamicClient, [1, 0]⟩ w).1.2 = none ↔ (a.Do w).1.2 = none) ∧
      (∀ ag ag', (Status.Do ⟨a.dynamicClient, [1, 0]⟩ w).1.2 = some ag' → (a.Do w).1.2 = some ag →
        ag'.errors.Perm ag.errors) ∧
      (Status.Do ⟨a.dynamicClient, [1, 0]⟩ w).2 = (a.Do w).2 :=
  ⟨⟨by decide, .swap 1 0 []⟩, Status.do_perm _ _ (by decide) (.swap 1 0 [])⟩

/-- A cluster that holds, under every key, a running and ready pod of that namespace and name:
a `Get` of a `v1` `Pod` finds it, and a `Get` of any other kind is not found. -/
def podCluster : Client where
  get k u :=
    if u.groupVersionKind.group = "" ∧ u.groupVersionKind.version = "v1" ∧ u.groupVersionKind.kind = "Pod" then
      .ok ⟨[("apiVersion", .str "v1"), ("kind", .str "Pod"),
        ("metadata", .map [("namespace", .str k.ns), ("name", .str k.name)]),
        ("status", .map [("phase", .str "Running"), ("conditions", .list [conditionValue "Ready" "True" ""])])]⟩
    else .error ⟨"not found", []⟩

/-- The pod `web` in the default namespace, as a caller fills it in before `Do`. -/
def webPod : Unstructured :=
  ⟨[("apiVersion", .str "v1"), ("kind", .str "Pod"), ("metadata", .map [("name", .str "web")])]⟩

theorem podCluster_get_congr (k : NamespacedName) {u u' : Unstructured}
    (h : u.groupVersionKind = u'.groupVersionKind) : podCluster.get k u = podCluster.get k u' := by
  simp only [podCluster, h]

theorem podCluster_get_ok {k : NamespacedName} {u o : Unstructured} (h : podCluster.get k u = .ok o) :
    o.getNamespace = k.ns ∧ o.getName = k.name ∧ o.groupVersionKind = u.groupVersionKind := by
  simp only [podCluster] at h
  split_ifs at h with hp
  cases h
  refine ⟨rfl, rfl, ?_⟩
  rcases hu : u.groupVersionKind with ⟨g, v, kd⟩
  obtain ⟨rfl, rfl, rfl⟩ : g = "" ∧ v = "v1" ∧ kd = "Pod" := by simpa [hu] using hp
  rfl

/-! A client reading a cluster that does not change: its answer depends only on the key and on the
group, version and kind of the object it fills in, and an object it returns has that key and kind.
Fetching an object that a fetch wrote back then gives the same answer, so a pointer listed twice is
reported twice alike, and running `Do` again changes nothing. -/

section Snapshot

variable {c : Client}
  (hsnap : ∀ k u u', u.groupVersionKind = u'.groupVersionKind → c.get k u = c.get k u')
  (hkey : ∀ k u o, c.get k u = .ok o →
    o.getNamespace = k.ns ∧ o.getName = k.name ∧ o.groupVersionKind = u.groupVersionKind)
include hsnap hkey

theorem fetch_of_fetch {u o : Unstructured} (h : c.fetch u = .ok o) : c.fetch o = .ok o := by
  obtain ⟨hns, hn, hg⟩ := hkey _ _ _ h
  unfold Client.fetch at h ⊢
  rw [hns, hn, hsnap _ _ _ hg, h]

theorem fetch_store_self (heap : Heap) (p : Ptr) :
    c.fetch (store heap p (c.fetch (heap p)) p) = c.fetch (heap p) := by
  rw [store_apply_self]
  rcases h : c.fetch (heap p) with e | o
  · rw [h]
  · exact fetch_of_fetch hsnap hkey h

theorem fetch_store (heap : Heap) (p q : Ptr) :
    c.fetch (store heap p (c.fetch (heap p)) q) = c.fetch (heap q) := by
  by_cases hq : q = p
  · subst hq
    exact fetch_store_self hsnap hkey heap q
  · rw [store_apply_of_ne hq]

theorem gets_of_snapshot (heap : Heap) (ps : List Ptr) : c.gets heap ps = ps.map fun p => c.fetch (heap p) := by
  induction ps generalizing heap with
  | nil => rfl
  | cons p ps ih =>
    rw [Client.gets, ih, List.map_cons]
    exact congrArg _ (List.map_congr_left fun q _ => fetch_store hsnap hkey heap p q)

theorem heapAfter_of_snapshot (heap : Heap) (ps : List Ptr) (q : Ptr) :
    c.heapAfter heap ps q = if q ∈ ps then store heap q (c.fetch (heap q)) q else heap q := by
  induction ps generalizing heap with
  | nil => rfl
  | cons p ps ih =>
    rw [Client.heapAfter, ih, fetch_store hsnap hkey]
    by_cases hq : q = p
    · subst hq
      simp only [List.mem_cons_self, if_true, store_apply_self]
      split_ifs <;> cases c.fetch (heap q) <;> rfl
    · simp only [store_apply_self, store_apply_of_ne hq, List.mem_cons, hq, false_or]

end Snapshot

section Snapshot

variable (a : Status) (w : World)
  (hsnap : ∀ k u u', u.groupVersionKind = u'.groupVersionKind → a.dynamicClient.get k u = a.dynamicClient.get k u')
  (hkey : ∀ k u o, a.dynamicClient.get k u = .ok o →
    o.getNamespace = k.ns ∧ o.getName = k.name ∧ o.groupVersionKind = u.groupVersionKind)
include hsnap hkey

theorem Status.do_resources_of_snapshot :
    (a.Do w).1.1.resources = a.resources.map fun p => reportOf p (a.dynamicClient.fetch (w.heap p)) := by
  obtain ⟨heap', hdo⟩ := Status.do_eq a w
  rw [hdo, gets_of_snapshot hsnap hkey, List.zipWith_map_right, List.zipWith_same]

theorem Status.do_heap_of_snapshot (p : Ptr) :
    (a.Do w).2.heap p = if p ∈ a.resources then store w.heap p (a.dynamicClient.fetch (w.heap p)) p else w.heap p := by
  rw [Status.do_heap, heapAfter_of_snapshot hsnap hkey]

end Snapshot

/-- Against a cluster that does not change, each entry of `Do` is the report of its resource's first
fetch and each listed object ends as that fetch left it, even for a resource listed more than once. -/
theorem Status.do_snapshot (a : Status) (w : World)
    (hsnap : ∀ k u u', u.groupVersionKind = u'.groupVersionKind → a.dynamicClient.get k u = a.dynamicClient.get k u')
    (hkey : ∀ k u o, a.dynamicClient.get k u = .ok o →
      o.getNamespace = k.ns ∧ o.getName = k.name ∧ o.groupVersionKind = u.groupVersionKind) :
    (a.Do w).1.1.resources = a.resources.map (fun p => reportOf p (a.dynamicClient.fetch (w.heap p))) ∧
    ∀ p, (a.Do w).2.heap p =
      if p ∈ a.resources then
        match a.dynamicClient.fetch (w.heap p) with
        | .ok u => u
        | .error _ => w.heap p
      else w.heap p := by
  refine ⟨Status.do_resources_of_snapshot a w hsnap hkey, fun p => ?_⟩
  rw [Status.do_heap_of_snapshot a w hsnap hkey, store_apply_self]

theorem Status.do_snapshot_podCluster :
    let a : Status := ⟨podCluster, [0, 1, 0]⟩
    let w : World := ⟨fun p => if p = 0 then webPod else kindObject "v1" "Service", ""⟩
    ((∀ k u u', u.groupVersionKind = u'.groupVersionKind → a.dynamicClient.get k u = a.dynamicClient.get k u') ∧
      ∀ k u o, a.dynamicClient.get k u = .ok o →
        o.getNamespace = k.ns ∧ o.getName = k.name ∧ o.groupVersionKind = u.groupVersionKind) ∧
    (a.Do w).1.1.resources = a.resources.map (fun p => reportOf p (a.dynamicClient.fetch (w.heap p))) ∧
    ∀ p, (a.Do w).2.heap p =
      if p ∈ a.resources then
        match a.dynamicClient.fetch (w.heap p) with
        | .ok u => u
        | .error _ => w.heap p
      else w.heap p :=
  ⟨⟨fun k _ _ => podCluster_get_congr k, fun _ _ _ => podCluster_get_ok⟩,
    Status.do_snapshot _ _ (fun k _ _ => podCluster_get_congr k) (fun _ _ _ => podCluster_get_ok)⟩

/-- Against a cluster that does not change, running `Do` again on the objects it wrote back reports
the same entries and errors and leaves the same objects: each `Get` finds the object the first run
stored. -/
theorem Status.do_twice (a : Status) (w : World)
    (hsnap : ∀ k u u', u.groupVersionKind = u'.groupVersionKind → a.dynamicClient.get k u = a.dynamicClient.get k u')
    (hkey : ∀ k u o, a.dynamicClient.get k u = .ok o →
      o.getNamespace = k.ns ∧ o.getName = k.name ∧ o.groupVersionKind = u.groupVersionKind) :
    (a.Do (a.Do w).2).1 = (a.Do w).1 ∧ (a.Do (a.Do w).2).2.heap = (a.Do w).2.heap := by
  have hfetch : ∀ p ∈ a.resources, a.dynamicClient.fetch ((a.Do w).2.heap p) = a.dynamicClient.fetch (w.heap p) :=
    fun p hp => by rw [Status.do_heap_of_snapshot a w hsnap hkey, if_pos hp, fetch_store_self hsnap hkey]
  have hres : (a.Do (a.Do w).2).1.1.resources = (a.Do w).1.1.resources := by
    rw [Status.do_resources_of_snapshot _ _ hsnap hkey, Status.do_resources_of_snapshot _ _ hsnap hkey]
    exact List.map_congr_left fun p hp => by rw [hfetch p hp]
  refine ⟨Prod.ext (congrArg Result.mk hres) (by rw [Status.do_aggregate, Status.do_aggregate a w, hres]), funext fun p => ?_⟩
  rw [Status.do_heap_of_snapshot a (a.Do w).2 hsnap hkey]
  split_ifs with hp
  · rw [hfetch p hp, store_apply_self, Status.do_heap_of_snapshot a w hsnap hkey, if_pos hp, store_apply_self]
    cases a.dynamicClient.fetch (w.heap p) <;> rfl
  · rfl

theorem Status.do_twice_podCluster :
    let a : Status := ⟨podCluster, [0, 1]⟩
    let w : World := ⟨fun p => if p = 0 then webPod else kindObject "v1" "Service", ""⟩
    ((∀ k u u', u.groupVersionKind = u'.groupVersionKind → a.dynamicClient.get k u = a.dynamicClient.get k u') ∧
      ∀ k u o, a.dynamicClient.get k u = .ok o →
        o.getNamespace = k.ns ∧ o.getName = k.name ∧ o.groupVersionKind = u.groupVersionKind) ∧
    (a.Do (a.Do w).2).1 = (a.Do w).1 ∧ (a.Do (a.Do w).2).2.heap = (a.Do w).2.heap :=
  ⟨⟨fun k _ _ => podCluster_get_congr k, fun _ _ _ => podCluster_get_ok⟩,
    Status.do_twice _ _ (fun k _ _ => podCluster_get_congr k) (fun _ _ _ => podCluster_get_ok)⟩

end CliStatus
