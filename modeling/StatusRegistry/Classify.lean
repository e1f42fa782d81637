/-
StatusRegistry/Classify.lean

The class of any integer.  The hundreds digit alone decides, so a code that is
not registered still has the class of its band.  An integer outside of 100 to
599 has no class, and that is reported, with the integer saturated to 64 bits.
-/
import StatusRegistry.Logged
import StatusRegistry.MachineInt
import StatusRegistry.StatusClass

namespace StatusRegistry

/-- The class of an integer, read as a status code. -/
def classify {t : IntType} (x : MachineInt t) : Logged StatusClass :=
  let code := x.toInt64
  if 100 ≤ code ∧ code ≤ 599 then
    pure (.ofLeadingDigit (code.toInt.toNat / 100))
  else do
    Logged.report (.outOfRange code)
    return .unknown

/-- The class of a 16-bit code. -/
def StatusClass.ofUInt16 (v : UInt16) : Logged StatusClass :=
  classify (.ofUInt16 v)

end StatusRegistry
