import CliStatus.Value

/-!
# Field access on unstructured objects

`helpers.go` of `internal/pkg/client/unstructured`, and the parts of apimachinery's
`unstructured` package it calls: `NestedFieldNoCopy`, the dotted-path split, the typed readers
with their defaults, `NestedMapSlice` and `GetConditions`, and the group/kind an object
declares through `apiVersion` and `kind`.
-/

namespace CliStatus

/-- `strings.Split` on a one-character separator, scanning with the current piece reversed. -/
def splitAux (sep : Char) : List Char → List Char → List String
  | [], cur => [String.mk cur.reverse]
  | c :: cs, cur => if c = sep then String.mk cur.reverse :: splitAux sep cs [] else splitAux sep cs (c :: cur)

def split (s : String) (sep : Char) : List String := splitAux sep s.toList []

/-- The opening of `GetStringField` and `GetIntField`: split on dots and drop an empty first
segment. -/
def splitFieldPath (fieldPath : String) : List String :=
  let fields := split fieldPath '.'
  if fields.head? = some "" then fields.tail else fields

/-- apimachinery's accessor error for a non-map on the path. -/
def accessorError (path : String) (val : Value) : GoError :=
  ⟨"%v accessor error: %v is of the type %T, expected map[string]interface\x7b\x7d",
    [.str path, .value val, .value val]⟩

/-- The loop of `NestedFieldNoCopy`; `i` is the index of the next field. -/
def nestedFieldNoCopyAux (fields : List String) : Nat → Value → List String → Value × Bool × Option GoError
  | _, val, [] => (val, true, none)
  | i, val, field :: rest =>
    match val with
    | .null => (.null, false, none)
    | .map m =>
      match m.lookup field with
      | some v => nestedFieldNoCopyAux fields (i + 1) v rest
      | none => (.null, false, none)
    | _ => (.null, false, some (accessorError (jsonPath (fields.take (i + 1))) val))

/-- apimachinery's `NestedFieldNoCopy`: the value, whether it was found, and an error when a
non-map stands on the path. -/
def nestedFieldNoCopy (obj : Object) (fields : List String) : Value × Bool × Option GoError :=
  nestedFieldNoCopyAux fields 0 (.map obj) fields

def getStringField (obj : Object) (fieldPath : String) (defaultValue : String) : String :=
  let (val, found, err) := nestedFieldNoCopy obj (splitFieldPath fieldPath)
  if !found || err.isSome then defaultValue
  else
    match val with
    | .str s => s
    | _ => defaultValue

/-- `GetIntField`: `int`, `int32` and `int64` values convert, every other value gives the default. -/
def getIntField (obj : Object) (fieldPath : String) (defaultValue : GoInt) : GoInt :=
  let (val, found, err) := nestedFieldNoCopy obj (splitFieldPath fieldPath)
  if !found || err.isSome then defaultValue
  else
    match val with
    | .int n => n
    | .int32 n => n.toGoInt
    | .int64 n => n
    | _ => defaultValue

/-- The copy loop of `NestedMapSlice`, with its early exit on a non-map element. The slice is
`none` for Go's nil slice. -/
def nestedMapSliceLoop (fields : List String) (val : Value) :
    Nat → List Value → List Object → Option (List Object) × Bool × Option GoError
  | _, [], conditions => (some conditions, true, none)
  | i, .map entry :: rest, conditions => nestedMapSliceLoop fields val (i + 1) rest (conditions ++ [entry])
  | i, _ :: _, _ =>
    (none, true, some ⟨"%v accessor error: %v[%d] is of the type %T, expected map[string]interface\x7b\x7d",
      [.str (jsonPath fields), .int i, .value val, .value val]⟩)

def nestedMapSlice (obj : Object) (fields : List String) : Option (List Object) × Bool × Option GoError :=
  let (val, found, err) := nestedFieldNoCopy obj fields
  if !found || err.isSome then (none, found, err)
  else
    match val with
    | .list array => nestedMapSliceLoop fields val 0 array []
    | _ =>
      (none, true, some ⟨"%v accessor error: %v is of the type %T, expected []interface\x7b\x7d",
        [.str (jsonPath fields), .value val, .value val]⟩)

/-- `GetConditions`; the error it prints is dropped. -/
def getConditions (obj : Object) : List Object :=
  let (conditions, ok, err) := nestedMapSlice obj ["status", "conditions"]
  if err.isSome then []
  else if !ok then []
  else conditions.getD []

structure Unstructured where
  object : Object
deriving Repr

/-- apimachinery's `getNestedString`: the string at a path, or `""`. -/
def getNestedString (obj : Object) (fields : List String) : String :=
  match nestedFieldNoCopy obj fields with
  | (.str s, true, none) => s
  | _ => ""

structure GroupVersion where
  group : String
  version : String

structure GroupVersionKind where
  group : String
  version : String
  kind : String

/-- apimachinery's `ParseGroupVersion`. -/
def parseGroupVersion (gv : String) : Except GoError GroupVersion :=
  if gv.length = 0 ∨ gv = "/" then .ok ⟨"", ""⟩
  else
    match gv.toList.count '/' with
    | 0 => .ok ⟨"", gv⟩
    | 1 =>
      .ok ⟨String.mk (gv.toList.takeWhile (· ≠ '/')), String.mk ((gv.toList.dropWhile (· ≠ '/')).drop 1)⟩
    | _ => .error ⟨"unexpected GroupVersion string: %v", [.str gv]⟩

namespace Unstructured

def unstructuredContent (u : Unstructured) : Object := u.object

def getAPIVersion (u : Unstructured) : String := getNestedString u.object ["apiVersion"]
def getKind (u : Unstructured) : String := getNestedString u.object ["kind"]
def getNamespace (u : Unstructured) : String := getNestedString u.object ["metadata", "namespace"]
def getName (u : Unstructured) : String := getNestedString u.object ["metadata", "name"]

/-- `GroupVersionKind`: the empty kind when `apiVersion` does not parse. -/
def groupVersionKind (u : Unstructured) : GroupVersionKind :=
  match parseGroupVersion u.getAPIVersion with
  | .error _ => ⟨"", "", ""⟩
  | .ok gv => ⟨gv.group, gv.version, u.getKind⟩

end Unstructured

example : splitFieldPath ".status.observedGeneration" = ["status", "observedGeneration"] := by decide
example : (Unstructured.groupVersionKind ⟨[("apiVersion", .str "apps/v1"), ("kind", .str "Deployment")]⟩).group
    = "apps" := by decide

end CliStatus
