import CliStatus.Legacy.Core

/-!
# Evaluators of the `batch` and `policy` groups

`alwaysReady` (for `CronJob`), `jobConditions` and `pdbConditions`. The job evaluator returns
from inside its loop at the first `Complete` or `Failed` entry whose status is `True`, with a
`Ready=True` condition and the terminal condition sharing one message.
-/

namespace CliStatus

def alwaysReady (_u : Unstructured) : List Condition × Option GoError :=
  ([⟨.ready, "True", "always"⟩], none)

/-- The loop of `jobConditions`: the conditions it returns, when it returns. -/
def jobScan (succeeded failed completions : GoInt) : List Object → Option (List Condition)
  | [] => none
  | c :: cs =>
    let status := getStringField c ".status" ""
    let type := getStringField c ".type" ""
    if type = "Complete" then
      if status = "True" then
        let message := s!"Job Completed. succeded: {succeeded}/{completions}"
        some [newCondition .ready message, newCondition .completed message]
      else jobScan succeeded failed completions cs
    else if type = "Failed" then
      if status = "True" then
        let message := s!"Job Failed. failed: {failed}/{completions}"
        some [newCondition .ready message, newCondition .failed message]
      else jobScan succeeded failed completions cs
    else jobScan succeeded failed completions cs

def jobConditions (u : Unstructured) : List Condition × Option GoError :=
  let obj := u.unstructuredContent
  let parallelism := getIntField obj ".spec.parallelism" 1
  let completions := getIntField obj ".spec.completions" parallelism
  let succeeded := getIntField obj ".status.succeeded" 0
  let active := getIntField obj ".status.active" 0
  let failed := getIntField obj ".status.failed" 0
  let conditions := getConditions obj
  let starttime := getStringField obj ".status.startTime" ""
  match jobScan succeeded failed completions conditions with
  | some rv => (rv, none)
  | none =>
    if starttime = "" then
      let message := "Job not started"
      ([(newCondition .ready message).False], none)
    else
      let message := s!"Job in progress. success:{succeeded}, active: {active}, failed: {failed}"
      ([newCondition .ready message], none)

def pdbConditions (u : Unstructured) : List Condition × Option GoError :=
  let obj := u.unstructuredContent
  let readyCondition := newFalseCondition .ready
  let currentHealthy := getIntField obj ".status.currentHealthy" 0
  let desiredHealthy := getIntField obj ".status.desiredHealthy" (-1)
  if desiredHealthy = -1 then
    ([{ readyCondition with reason := "Missing .status.desiredHealthy" }], none)
  else if desiredHealthy > currentHealthy then
    ([{ readyCondition with reason := s!"Budget not met. healthy replicas: {currentHealthy}/{desiredHealthy}" }],
      none)
  else
    ([{ readyCondition with
        status := "True"
        reason := s!"Budget is met. Replicas: {currentHealthy}/{desiredHealthy}" }], none)

theorem alwaysReady_verdict (u : Unstructured) : ReadyVerdict True (alwaysReady u) :=
  ⟨_, rfl, rfl, by simp⟩

theorem pdbConditions_verdict (u : Unstructured) :
    ReadyVerdict (getIntField u.object ".status.desiredHealthy" (-1) ≠ -1 ∧
      getIntField u.object ".status.desiredHealthy" (-1) ≤ getIntField u.object ".status.currentHealthy" 0)
      (pdbConditions u) := by
  dsimp only [pdbConditions, Unstructured.unstructuredContent]
  simp only [GoInt.lt_iff, GoInt.le_iff]
  repeat' (apply ReadyVerdict.ite <;> intro)
  all_goals first
    | (refine ReadyVerdict.not_ready ?_ _; simp_all [Int.not_lt, Int.not_le])
    | (refine ReadyVerdict.ready ?_ _; simp_all [Int.not_lt, Int.not_le])

section Job

variable (succeeded failed completions : GoInt)

/-- An entry the job loop returns at. -/
def isJobFinishedEntry (c : Object) : Bool :=
  (getStringField c ".type" "" = "Complete" ∨ getStringField c ".type" "" = "Failed") ∧
    getStringField c ".status" "" = "True"

/-- What the job loop returns at a finished entry. -/
def jobFinished (c : Object) : List Condition :=
  if getStringField c ".type" "" = "Complete" then
    let message := s!"Job Completed. succeded: {succeeded}/{completions}"
    [newCondition .ready message, newCondition .completed message]
  else
    let message := s!"Job Failed. failed: {failed}/{completions}"
    [newCondition .ready message, newCondition .failed message]

/-- The loop returns at the first finished entry, and runs to its end without one. -/
theorem jobScan_eq (cs : List Object) :
    jobScan succeeded failed completions cs = (cs.find? isJobFinishedEntry).map (jobFinished succeeded failed completions) := by
  induction cs with
  | nil => rfl
  | cons c cs ih =>
    simp only [jobScan, List.find?_cons, ih]
    by_cases hc : getStringField c ".type" "" = "Complete" <;>
      by_cases hf : getStringField c ".type" "" = "Failed" <;>
      by_cases hs : getStringField c ".status" "" = "True" <;>
      simp_all [isJobFinishedEntry, jobFinished]

theorem jobConditions_shape (u : Unstructured) :
    (jobConditions u).2 = none ∧
      ((∃ m, (jobConditions u).1 = [newCondition .ready m, newCondition .completed m] ∨
          (jobConditions u).1 = [newCondition .ready m, newCondition .failed m]) ∨
        ∃ c, (jobConditions u).1 = [c] ∧ c.type = .ready) := by
  dsimp only [jobConditions, Unstructured.unstructuredContent]
  rw [jobScan_eq]
  cases (getConditions u.object).find? isJobFinishedEntry with
  | some c =>
    simp only [Option.map_some', jobFinished]
    split_ifs
    · exact ⟨trivial, .inl ⟨_, .inl rfl⟩⟩
    · exact ⟨trivial, .inl ⟨_, .inr rfl⟩⟩
  | none => split_ifs <;> exact ⟨rfl, .inr ⟨_, rfl, rfl⟩⟩

end Job

end CliStatus
