import Mathlib.Data.List.Basic

/-!
# Untyped field trees

The values an `unstructured.Unstructured` object holds: Go's `interface{}` as the JSON decoder
and the tests fill it. `int` is Go's platform integer on a 64-bit target; it carries its range,
and the arithmetic the evaluators do on it wraps as Go's does. Errors are kept as the format
string and operands of the `fmt.Errorf` call that made them.
-/

namespace CliStatus

/-- Go's `int` (64-bit): `-2^63 ≤ val < 2^63`. -/
@[ext]
structure GoInt where
  val : Int
  le_val : -9223372036854775808 ≤ val
  val_lt : val < 9223372036854775808
deriving DecidableEq, Repr

/-- Go's `int32`: `-2^31 ≤ val < 2^31`. -/
structure GoInt32 where
  val : Int
  le_val : -2147483648 ≤ val
  val_lt : val < 2147483648
deriving DecidableEq, Repr

namespace GoInt

/-- Two's complement reduction into the range of `int`, modulo `2^64`. -/
def wrap (x : Int) : GoInt :=
  ⟨(x + 9223372036854775808) % 18446744073709551616 - 9223372036854775808, by omega, by omega⟩

instance (n : Nat) : OfNat GoInt n := ⟨wrap n⟩
instance : Neg GoInt := ⟨fun a => wrap (-a.val)⟩
instance : Sub GoInt := ⟨fun a b => wrap (a.val - b.val)⟩
instance : LT GoInt := ⟨fun a b => a.val < b.val⟩
instance : LE GoInt := ⟨fun a b => a.val ≤ b.val⟩
instance (a b : GoInt) : Decidable (a < b) := inferInstanceAs (Decidable (a.val < b.val))
instance (a b : GoInt) : Decidable (a ≤ b) := inferInstanceAs (Decidable (a.val ≤ b.val))
instance : ToString GoInt := ⟨fun a => toString a.val⟩

@[simp] theorem lt_iff {a b : GoInt} : a < b ↔ a.val < b.val := Iff.rfl
@[simp] theorem le_iff {a b : GoInt} : a ≤ b ↔ a.val ≤ b.val := Iff.rfl

theorem val_wrap_of_mem {x : Int} (h1 : -9223372036854775808 ≤ x) (h2 : x < 9223372036854775808) :
    (wrap x).val = x := by
  simp only [wrap]; omega

@[simp] theorem val_sub (a b : GoInt) :
    (a - b).val = (a.val - b.val + 9223372036854775808) % 18446744073709551616 - 9223372036854775808 := rfl

theorem val_sub_of_mem {a b : GoInt} (h1 : -9223372036854775808 ≤ a.val - b.val)
    (h2 : a.val - b.val < 9223372036854775808) : (a - b).val = a.val - b.val :=
  val_wrap_of_mem h1 h2

@[simp] theorem val_zero : (0 : GoInt).val = 0 := rfl
@[simp] theorem val_one : (1 : GoInt).val = 1 := rfl
@[simp] theorem val_neg_one : (-1 : GoInt).val = -1 := rfl

end GoInt

/-- `int(x)` for an `int32` operand. -/
def GoInt32.toGoInt (n : GoInt32) : GoInt := ⟨n.val, by have := n.le_val; omega, by have := n.val_lt; omega⟩

/-- A decoded value. `int64` shares the width of `int` on a 64-bit target but is a distinct
dynamic type; `float64` is kept as its bit pattern, which no reader looks at. -/
inductive Value where
  | null
  | bool (b : Bool)
  | int (n : GoInt)
  | int32 (n : GoInt32)
  | int64 (n : GoInt)
  | float64 (bits : UInt64)
  | str (s : String)
  | list (vs : List Value)
  | map (kvs : List (String × Value))
deriving Repr, Inhabited

/-- `map[string]interface{}`, looked up with `List.lookup` (first binding of a key). -/
abbrev Object := List (String × Value)

inductive FmtArg where
  | str (s : String)
  | int (n : Int)
  | value (v : Value)
deriving Repr

/-- A non-nil `error`. -/
structure GoError where
  format : String
  args : List FmtArg
deriving Repr

/-- `strings.Join(fields, ".")` with a leading dot. -/
def jsonPath (fields : List String) : String := "." ++ String.intercalate "." fields

end CliStatus
