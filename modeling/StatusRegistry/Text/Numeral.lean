/-
StatusRegistry/Text/Numeral.lean

Decimal numerals.  A numeral is an optional sign followed by at least one ASCII
digit and nothing else; leading zeros are allowed.  A reader for a fixed width
refuses a numeral whose value does not fit: no value is wrapped or clamped.
-/

namespace StatusRegistry.Text

/-- Whether the character is one of the ten ASCII digits. -/
def isDigit (c : Char) : Bool :=
  '0' ≤ c && c ≤ '9'

/-- The number that a run of digits denotes, the most significant digit first. -/
def digitsValue (ds : List Char) : Nat :=
  ds.foldl (fun n d => 10 * n + (d.toNat - '0'.toNat)) 0

/-- The value of a nonempty run of digits. -/
def readDigits? (t : List Char) : Option Nat :=
  if !t.isEmpty && t.all isDigit then some (digitsValue t) else none

/-- The value of an unsigned numeral; a leading plus sign is allowed. -/
def readNat? : List Char → Option Nat
  | '+' :: t => readDigits? t
  | t => readDigits? t

/-- The value of a signed numeral. -/
def readInt? : List Char → Option Int
  | '-' :: t => (readDigits? t).map fun n => -(n : Int)
  | t => (readNat? t).map fun n => (n : Int)

/-- The value of an unsigned numeral that fits 16 bits. -/
def readUInt16? (t : List Char) : Option UInt16 :=
  (readNat? t).bind fun n => if n < UInt16.size then some (UInt16.ofNat n) else none

/-- The value of a signed numeral that fits 64 bits. -/
def readInt64? (t : List Char) : Option Int64 :=
  (readInt? t).bind fun n =>
    if Int64.minValue.toInt ≤ n ∧ n ≤ Int64.maxValue.toInt then some (Int64.ofInt n) else none

end StatusRegistry.Text
