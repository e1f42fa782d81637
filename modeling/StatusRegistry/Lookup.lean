/-
StatusRegistry/Lookup.lean

Look-ups in the registry, by exact name and by value.  A look-up that finds
nothing is reported, and fails with what was looked for.
-/
import StatusRegistry.LookupError
import StatusRegistry.Search
import StatusRegistry.StatusCode

namespace StatusRegistry

/-! ### By name -/

/-- The code with exactly this symbolic name. -/
def StatusCode.ofName? (name : String) : Option StatusCode :=
  StatusCode.all.find? (·.name = name)

/-- Looks up a code by its symbolic name; the name has to match exactly. -/
def lookup (name : String) : Logged (Except LookupError StatusCode) :=
  match StatusCode.ofName? name with
  | some c => pure (.ok c)
  | none => do
    Logged.report (.nameMiss name)
    return .error (.unknownName name)

/-- Looks up the value of a code by its symbolic name. -/
def valueOf (name : String) : Logged (Except LookupError UInt16) :=
  (·.map StatusCode.value) <$> lookup name

/-! ### By value -/

/-- The codes as an array, in ascending order of value. -/
def StatusCode.byValue : Array StatusCode :=
  StatusCode.all.toArray

/-- The code with this value. -/
def StatusCode.ofValue? (value : UInt16) : Option StatusCode :=
  (search byValue StatusCode.value value).map fun i => byValue[i]

/-- Looks up a code by its value. -/
def fromValue (value : UInt16) : Logged (Except LookupError StatusCode) :=
  match StatusCode.ofValue? value with
  | some c => pure (.ok c)
  | none => do
    Logged.report (.valueMiss value)
    return .error (.unregisteredValue value)

/-- Converts a 16-bit word to the code with this value. -/
def StatusCode.ofUInt16 (value : UInt16) : Logged (Except LookupError StatusCode) :=
  fromValue value

/-! ### By class -/

/-- The codes of a class, in ascending order of value. -/
def inClass (k : StatusClass) : List StatusCode :=
  StatusCode.all.filter (·.statusClass = k)

end StatusRegistry
