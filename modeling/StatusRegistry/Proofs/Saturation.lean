/-
StatusRegistry/Proofs/Saturation.lean

What becomes of an integer that does not fit 64 bits, and what is reported of
it.  The saturated form of an integer is the integer itself, or the end of the
64-bit range on its side (`saturated`).  It is a function of integers, and knows
no integer types.

Main result: every integer type is brought to 64 bits by saturation
(`toInt_toInt64_eq_saturated`), so order is kept from one type to any other; and
classifying reports the saturated integer if the integer itself lies outside of
100 to 599, and nothing if it lies within (`saturation_is_reported`).

Both ends of the 64-bit range lie outside of 100 to 599.  So an integer that
saturation has changed was outside before, and the report of it is never left
out.
-/
import Mathlib.Algebra.Order.Ring.Int
import StatusRegistry.Proofs.Bands

namespace StatusRegistry

variable {s t : IntType}

/-! ### The saturated form -/

/-- The integer, brought into the 64-bit range. -/
def saturated (n : Int) : Int :=
  max (-2 ^ 63) (min (2 ^ 63 - 1) n)

theorem saturated_of_mem {n : Int} (hmin : -2 ^ 63 ≤ n) (hmax : n ≤ 2 ^ 63 - 1) :
    saturated n = n := by
  unfold saturated
  omega

theorem saturated_mono {m n : Int} (h : m ≤ n) : saturated m ≤ saturated n :=
  max_le_max le_rfl (min_le_min le_rfl h)

/-- Only integers outside of 100 to 599 are changed. -/
theorem saturated_eq_self_of_mem {n : Int} (h : 100 ≤ n ∧ n ≤ 599) : saturated n = n :=
  saturated_of_mem (by omega) (by omega)

namespace MachineInt

theorem toInt_toInt64_eq_saturated (x : MachineInt t) : x.toInt64.toInt = saturated x.val :=
  toInt_toInt64 x

/-- Saturation keeps the order, across all types. -/
theorem toInt64_le_toInt64 {x : MachineInt s} {y : MachineInt t} (h : x.val ≤ y.val) :
    x.toInt64 ≤ y.toInt64 := by
  rw [Int64.le_iff_toInt_le, toInt_toInt64_eq_saturated, toInt_toInt64_eq_saturated]
  exact saturated_mono h

/-- Nothing but the integer decides what it saturates to. -/
theorem toInt64_congr {x : MachineInt s} {y : MachineInt t} (h : x.val = y.val) :
    x.toInt64 = y.toInt64 :=
  Int64.le_antisymm (toInt64_le_toInt64 h.le) (toInt64_le_toInt64 h.ge)

end MachineInt

/-! ### What is reported -/

theorem events_classify (x : MachineInt t) :
    (classify x).events =
      if 100 ≤ x.val ∧ x.val ≤ 599 then [] else [.outOfRange x.toInt64] := by
  rw [classify_eq]
  split <;> rfl

/-- **An integer that does not fit 64 bits is saturated, and that is reported.**  An integer of any
type is brought into the 64-bit range; one that fits stays as it is, the order is kept from type to
type, and equal integers become equal.  Classifying reports one event, for those who trace, if the
integer lies outside of 100 to 599, and the event has the saturated integer in decimal form;
otherwise it reports nothing.  An integer that saturation changes is always reported. -/
theorem saturation_is_reported (x : MachineInt t) :
    x.toInt64.toInt = saturated x.val ∧
    (-2 ^ 63 ≤ x.val → x.val ≤ 2 ^ 63 - 1 → x.toInt64.toInt = x.val) ∧
    (∀ (s : IntType) (y : MachineInt s), x.val ≤ y.val → x.toInt64 ≤ y.toInt64) ∧
    (∀ (s : IntType) (y : MachineInt s), x.val = y.val → x.toInt64 = y.toInt64) ∧
    (x.val < 100 ∨ 599 < x.val → (classify x).events = [.outOfRange x.toInt64]) ∧
    (100 ≤ x.val ∧ x.val ≤ 599 → (classify x).events = []) ∧
    (x.toInt64.toInt ≠ x.val → (classify x).events = [.outOfRange x.toInt64]) ∧
    (∀ e ∈ (classify x).events, e.level = .trace ∧ e.target = "http_status::class" ∧
      e.fields = [("code", toString (saturated x.val))]) := by
  have hout : x.val < 100 ∨ 599 < x.val → (classify x).events = [.outOfRange x.toInt64] := by
    intro h
    rw [events_classify, if_neg (by omega)]
  refine ⟨x.toInt_toInt64_eq_saturated, ?_, ?_, ?_, hout, ?_, ?_, ?_⟩
  · intro hmin hmax
    rw [x.toInt_toInt64_eq_saturated, saturated_of_mem hmin hmax]
  · intro s y h
    exact MachineInt.toInt64_le_toInt64 h
  · intro s y h
    exact MachineInt.toInt64_congr h
  · intro h
    rw [events_classify, if_pos h]
  · -- Within 100 to 599 saturation would have changed nothing.
    intro hchanged
    apply hout
    by_contra hin
    apply hchanged
    rw [x.toInt_toInt64_eq_saturated]
    exact saturated_eq_self_of_mem (by omega)
  · intro e he
    rw [events_classify] at he
    split at he
    · cases he
    · obtain rfl := List.mem_singleton.mp he
      refine ⟨rfl, rfl, ?_⟩
      rw [← x.toInt_toInt64_eq_saturated]
      rfl

/-- The least integer of 128 bits, an integer whose last 64 bits denote 404, and 404 itself in two
types. -/
theorem saturation_of_wide :
    let least : MachineInt .int128 := ⟨-2 ^ 127, by decide, by decide⟩
    let wide : MachineInt .uint128 := ⟨2 ^ 64 + 404, by decide, by decide⟩
    let found : MachineInt .uint64 := ⟨404, by decide, by decide⟩
    let short : MachineInt .int16 := ⟨404, by decide, by decide⟩
    (least.toInt64 ≤ wide.toInt64 ∧ (classify least).events = [.outOfRange least.toInt64]) ∧
    ((classify wide).events = [.outOfRange wide.toInt64] ∧
      ∀ e ∈ (classify wide).events, e.fields = [("code", "9223372036854775807")]) ∧
    (found.toInt64.toInt = 404 ∧ found.toInt64 = short.toInt64 ∧ (classify found).events = []) := by
  intro least wide found short
  obtain ⟨-, -, horder, -, hleast, -⟩ := saturation_is_reported least
  obtain ⟨-, -, -, -, -, -, hwide, hrecord⟩ := saturation_is_reported wide
  obtain ⟨-, hfits, -, hsame, -, hfound, -⟩ := saturation_is_reported found
  refine ⟨⟨horder .uint128 wide (by decide), hleast (.inl (by decide))⟩, ⟨hwide (by decide), ?_⟩,
    ⟨hfits (by decide) (by decide), hsame .int16 short rfl, hfound (by decide)⟩⟩
  intro e he
  exact (hrecord e he).2.2

end StatusRegistry
