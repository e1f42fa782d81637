/-
StatusRegistry/Survey.lean

Surveys of a range of values: which of them are registered, and how the
classes follow one another.  A survey counts the events of its look-ups
instead of keeping them.
-/
import StatusRegistry.Lookup

namespace StatusRegistry

/-- The values from `first` to `last`, ends included; none if `first` is beyond `last`. -/
def valuesBetween (first last : UInt16) : List UInt16 :=
  (List.range' first.toNat (last.toNat + 1 - first.toNat)).map UInt16.ofNat

/-! ### Registered values -/

/-- The registered values of a range, and the number of events that looking for them reports. -/
structure ValueSurvey where
  registered : List UInt16
  eventCount : Nat
deriving DecidableEq, Repr

/-- Looks up every value of a range. -/
def surveyValues (first last : UInt16) : ValueSurvey :=
  let outcomes := (valuesBetween first last).map fromValue
  { registered := outcomes.filterMap fun o => o.value.toOption.map StatusCode.value
    eventCount := (outcomes.flatMap (·.events)).length }

/-! ### Runs of classes -/

/-- A range of values of one class. -/
structure ClassRun where
  statusClass : StatusClass
  first : UInt16
  last : UInt16
deriving DecidableEq, Repr

/-- The runs, the last one first, with one more value of class `k` at the end. -/
def ClassRun.extend (runs : List ClassRun) (k : StatusClass) (v : UInt16) : List ClassRun :=
  match runs with
  | r :: earlier =>
    if r.statusClass = k then { r with last := v } :: earlier else ⟨k, v, v⟩ :: r :: earlier
  | [] => [⟨k, v, v⟩]

/-- The longest runs of one class in a range, and the number of events that classifying its values
reports. -/
structure ClassSurvey where
  runs : List ClassRun
  eventCount : Nat
deriving DecidableEq, Repr

/-- Classifies every value of a range. -/
def surveyClasses (first last : UInt16) : ClassSurvey :=
  let values := valuesBetween first last
  { runs := (values.foldl (fun runs v => ClassRun.extend runs (StatusClass.ofUInt16 v).value v)
      []).reverse
    eventCount := (values.flatMap fun v => (StatusClass.ofUInt16 v).events).length }

end StatusRegistry
