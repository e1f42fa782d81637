/-
StatusRegistry/MachineInt.lean

The machine integers in which a status code may arrive.  A value of
`MachineInt t` is the integer it denotes, together with the proof that the
type `t` can hold it; so nothing about a value depends on how wide its type is.

`toInt64` brings the values of all types into one.  An integer that fits 64
bits is kept as it is, and any other goes to the end of the range on its own
side: no integer is ever wrapped around.
-/

namespace StatusRegistry

/-! ### Integer types -/

/-- The fixed-width integer types; `usize` and `isize` are as wide as an address, 64 bits. -/
inductive IntType where
  | uint8
  | uint16
  | uint32
  | uint64
  | uint128
  | usize
  | int8
  | int16
  | int32
  | int64
  | int128
  | isize
deriving DecidableEq, Repr

namespace IntType

/-- Whether the type has negative values. -/
def isSigned : IntType → Bool
  | uint8 | uint16 | uint32 | uint64 | uint128 | usize => false
  | int8 | int16 | int32 | int64 | int128 | isize => true

/-- The width of the type. -/
def bits : IntType → Nat
  | uint8 | int8 => 8
  | uint16 | int16 => 16
  | uint32 | int32 => 32
  | uint64 | int64 | usize | isize => 64
  | uint128 | int128 => 128

/-- The number of integers that the type can hold. -/
def size (t : IntType) : Nat :=
  Nat.pow 2 t.bits

/-- The least integer of the type. -/
def min (t : IntType) : Int :=
  if t.isSigned then -(t.size / 2 : Nat) else 0

/-- The greatest integer of the type: of the integers of a signed type, one half is negative. -/
def max (t : IntType) : Int :=
  if t.isSigned then (t.size / 2 : Nat) - 1 else t.size - 1

end IntType

/-! ### Values -/

/-- An integer that the type `t` can hold. -/
structure MachineInt (t : IntType) where
  /-- The integer that the value denotes. -/
  val : Int
  min_le : t.min ≤ val
  le_max : val ≤ t.max
deriving DecidableEq, Repr

namespace MachineInt

variable {t : IntType}

/-- The value of type `t` that denotes `n`, if the type can hold it. -/
def ofInt? (t : IntType) (n : Int) : Option (MachineInt t) :=
  if h : t.min ≤ n ∧ n ≤ t.max then some ⟨n, h.1, h.2⟩ else none

/-- An unsigned 16-bit word as a value. -/
def ofUInt16 (v : UInt16) : MachineInt .uint16 where
  val := v.toNat
  min_le := Int.natCast_nonneg _
  le_max := by
    have := v.toNat_lt
    show (v.toNat : Int) ≤ 65536 - 1
    omega

/-- A signed 64-bit word as a value. -/
def ofInt64 (n : Int64) : MachineInt .int64 where
  val := n.toInt
  min_le := n.le_toInt
  le_max := Int.le_sub_one_of_lt n.toInt_lt

/-- The signed 64-bit word for the value.  What does not fit saturates. -/
def toInt64 (x : MachineInt t) : Int64 :=
  if Int64.minValue.toInt ≤ x.val ∧ x.val ≤ Int64.maxValue.toInt then Int64.ofInt x.val
  else if x.val < 0 then Int64.minValue
  else Int64.maxValue

@[simp] theorem val_ofUInt16 (v : UInt16) : (ofUInt16 v).val = v.toNat := rfl

@[simp] theorem val_ofInt64 (n : Int64) : (ofInt64 n).val = n.toInt := rfl

end MachineInt

end StatusRegistry
