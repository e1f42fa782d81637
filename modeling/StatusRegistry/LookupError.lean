/-
StatusRegistry/LookupError.lean

Why a look-up in the registry fails, and how that is said.
-/

namespace StatusRegistry

/-- The reason why no status code was found. -/
inductive LookupError where
  /-- No code goes by the name. -/
  | unknownName (name : String)
  /-- No code has the value. -/
  | unregisteredValue (value : UInt16)
deriving DecidableEq, Repr

/-- The reason in words.  A name is quoted as it stands, with nothing escaped. -/
def LookupError.message : LookupError → String
  | unknownName name => "Unknown HTTP status code name: '" ++ name ++ "'"
  | unregisteredValue value =>
    "No registered HTTP status code has the value '" ++ toString value.toNat ++ "'"

/-- Two outcomes of a look-up are equal if both found the same, or both failed for the same
reason. -/
instance {α : Type} [DecidableEq α] : DecidableEq (Except LookupError α)
  | .ok a, .ok b => decidable_of_iff (a = b) (by simp)
  | .error d, .error e => decidable_of_iff (d = e) (by simp)
  | .ok _, .error _ => isFalse (by simp)
  | .error _, .ok _ => isFalse (by simp)

end StatusRegistry
