import CliStatus.Unstructured

/-!
# Conditions

The vocabulary of `status.go`: condition types, conditions and their two constructors, and the
signature every evaluator has.
-/

namespace CliStatus

/-- `ConditionReady` and `ConditionSettled` are level conditions, `ConditionFailed` and
`ConditionCompleted` terminal ones. -/
inductive ConditionType where
  | ready
  | settled
  | failed
  | completed
deriving DecidableEq, Repr

structure Condition where
  type : ConditionType
  status : String
  reason : String
deriving DecidableEq, Repr

def newFalseCondition (ctype : ConditionType) : Condition := ⟨ctype, "False", ""⟩

def newCondition (ctype : ConditionType) (reason : String) : Condition := ⟨ctype, "True", reason⟩

/-- The `False` method. -/
def Condition.False (c : Condition) : Condition := { c with status := "False" }

/-- `GetCondition`: the first condition of a type. -/
def getCondition (cs : List Condition) (ct : ConditionType) : Option Condition :=
  cs.find? (·.type = ct)

@[simp] theorem newCondition_type (ct : ConditionType) (r : String) : (newCondition ct r).type = ct := rfl
@[simp] theorem newCondition_status (ct : ConditionType) (r : String) :
    (newCondition ct r).status = "True" := rfl
@[simp] theorem newCondition_reason (ct : ConditionType) (r : String) :
    (newCondition ct r).reason = r := rfl
@[simp] theorem False_type (c : Condition) : c.False.type = c.type := rfl
@[simp] theorem False_status (c : Condition) : c.False.status = "False" := rfl
@[simp] theorem False_reason (c : Condition) : c.False.reason = c.reason := rfl

/-- `GetConditionsFn`. -/
abbrev GetConditionsFn := Unstructured → List Condition × Option GoError

/-- An evaluator's result that is one `Ready` condition, with no error, whose status is `True`
exactly when `p` holds. -/
def ReadyVerdict (p : Prop) (r : List Condition × Option GoError) : Prop :=
  ∃ c, r = ([c], none) ∧ c.type = .ready ∧ (c.status = "True" ↔ p)

namespace ReadyVerdict

variable {p : Prop}

theorem ite {c : Prop} [Decidable c] {a b : List Condition × Option GoError}
    (ha : c → ReadyVerdict p a) (hb : ¬c → ReadyVerdict p b) : ReadyVerdict p (if c then a else b) := by
  by_cases h : c
  · rw [if_pos h]; exact ha h
  · rw [if_neg h]; exact hb h

/-- An exit that keeps the initial `Ready=False` condition and sets its reason. -/
theorem not_ready (h : ¬p) (r : String) :
    ReadyVerdict p ([{ newFalseCondition .ready with reason := r }], none) :=
  ⟨_, rfl, rfl, by simpa [newFalseCondition] using h⟩

/-- An exit that sets the initial condition to `True` with a reason. -/
theorem ready (h : p) (r : String) :
    ReadyVerdict p ([{ newFalseCondition .ready with status := "True", reason := r }], none) :=
  ⟨_, rfl, rfl, by simpa using h⟩

theorem single {r : List Condition × Option GoError} (h : ReadyVerdict p r) :
    ∃ c, r = ([c], none) ∧ c.type = .ready :=
  let ⟨c, hr, ht, _⟩ := h
  ⟨c, hr, ht⟩

end ReadyVerdict

end CliStatus
