/-
StatusRegistry/Proofs/Bands.lean

The class of an integer and the bands of the classes.  There are two accounts of
what class an integer has.  One computes it: the integer is saturated to 64 bits
and divided by one hundred, and the quotient is looked up among the digits.  The
other reads it off the bands: a class covers the integers of its band
(`StatusClass.Covers`).

Main result: for every integer type the two agree (`classify_agrees_with_bands`).
So nothing but the integer decides, and not the type that it comes in.

Saturation is harmless because it moves an integer only to an end of the 64-bit
range, and both ends are far from all bands (`toInt64_mem_iff`).  What is left
is division: an integer lies in the band of a digit if and only if the digit is
its quotient by one hundred (`covers_iff`).
-/
import StatusRegistry.Classify

namespace StatusRegistry

variable {t : IntType}

/-! ### Saturation -/

namespace MachineInt

/-- A value that does not fit 64 bits becomes the end of the range on its own side. -/
theorem toInt_toInt64 (x : MachineInt t) :
    x.toInt64.toInt = max Int64.minValue.toInt (min Int64.maxValue.toInt x.val) := by
  have hmin : Int64.minValue.toInt = -2 ^ 63 := rfl
  have hmax : Int64.maxValue.toInt = 2 ^ 63 - 1 := rfl
  unfold toInt64
  split
  · -- The integer fits, so it lies between the ends already.
    next h =>
    rw [Int64.toInt_ofInt_of_le (by omega) (by omega)]
    omega
  · split <;> omega

/-- Saturation does not move an integer into a range that leaves out both ends, nor out of it. -/
theorem toInt64_mem_iff {a b : Int} (ha : Int64.minValue.toInt < a) (hb : b < Int64.maxValue.toInt)
    (x : MachineInt t) :
    (a ≤ x.toInt64.toInt ∧ x.toInt64.toInt ≤ b) ↔ (a ≤ x.val ∧ x.val ≤ b) := by
  have hlt : Int64.minValue.toInt < Int64.maxValue.toInt := by decide
  rw [toInt_toInt64]
  omega

/-- An integer that fits 64 bits is kept as it is. -/
theorem toInt_toInt64_of_mem {x : MachineInt t} (hmin : Int64.minValue.toInt ≤ x.val)
    (hmax : x.val ≤ Int64.maxValue.toInt) : x.toInt64.toInt = x.val := by
  rw [toInt_toInt64]
  omega

end MachineInt

/-- **What classifying does**, said of the integer itself.  Only the event still shows the saturated
value. -/
theorem classify_eq (x : MachineInt t) :
    classify x =
      if 100 ≤ x.val ∧ x.val ≤ 599 then ⟨.ofLeadingDigit (x.val.toNat / 100), []⟩
      else ⟨.unknown, [.outOfRange x.toInt64]⟩ := by
  -- The test of the range does not see that the integer was saturated before.
  have hrange : (100 ≤ x.toInt64 ∧ x.toInt64 ≤ 599) ↔ (100 ≤ x.val ∧ x.val ≤ 599) := by
    rw [Int64.le_iff_toInt_le, Int64.le_iff_toInt_le]
    exact MachineInt.toInt64_mem_iff (by decide) (by decide) x
  unfold classify
  by_cases h : 100 ≤ x.val ∧ x.val ≤ 599
  · -- In the range nothing has been saturated, and the quotient is that of the integer.
    have hmin : Int64.minValue.toInt ≤ 100 := by decide
    have hmax : 599 ≤ Int64.maxValue.toInt := by decide
    have hval : x.toInt64.toInt = x.val := MachineInt.toInt_toInt64_of_mem (by omega) (by omega)
    rw [if_pos h, ← hval]
    exact if_pos (hrange.mpr h)
  · rw [if_neg h]
    exact if_neg (mt hrange.mp h)

/-! ### Digits -/

namespace StatusClass

variable {k : StatusClass}

/-- The class that is looked up by a digit is the class of that digit. -/
theorem ofLeadingDigit_eq_iff (hk : k ≠ unknown) {m : Nat} :
    ofLeadingDigit m = k ↔ ∃ d, k.leadingDigit? = some d ∧ d.toNat = m := by
  constructor
  · rintro rfl
    unfold ofLeadingDigit at hk ⊢
    split at hk
    · exact ⟨1, rfl, rfl⟩
    · exact ⟨2, rfl, rfl⟩
    · exact ⟨3, rfl, rfl⟩
    · exact ⟨4, rfl, rfl⟩
    · exact ⟨5, rfl, rfl⟩
    · exact absurd rfl hk
  · rintro ⟨d, hd, rfl⟩
    cases k with
    | unknown => exact absurd rfl hk
    | informational | success | redirection | clientError | serverError =>
      cases hd
      rfl

theorem ofLeadingDigit_eq_unknown_iff {m : Nat} :
    ofLeadingDigit m = unknown ↔ m < 1 ∨ 5 < m := by
  match m with
  | 0 | 1 | 2 | 3 | 4 | 5 => decide
  | m + 6 =>
    refine iff_of_true rfl ?_
    omega

/-- The digits of the classes are those from 1 to 5. -/
theorem bounds_of_leadingDigit? {d : UInt16} (h : k.leadingDigit? = some d) :
    1 ≤ d.toNat ∧ d.toNat ≤ 5 := by
  cases k <;> cases h <;> decide

end StatusClass

/-! ### Bands -/

/-- The integer lies in the band. -/
def Band.Covers (b : Band) (n : Int) : Prop :=
  b.first.toNat ≤ n ∧ n ≤ b.last.toNat

/-- The class has a band, and the integer lies in it. -/
def StatusClass.Covers (k : StatusClass) (n : Int) : Prop :=
  ∃ b, k.band? = some b ∧ b.Covers n

/-- The ends of a band are computed in 16 bits, where they are in no danger of wrapping around. -/
theorem Band.covers_ofLeadingDigit_iff {d : UInt16} (hd : d.toNat ≤ 5) {n : Int} :
    (Band.ofLeadingDigit d).Covers n ↔ n / 100 = d.toNat := by
  have hfirst : (d * 100).toNat = d.toNat * 100 := by
    rw [UInt16.toNat_mul]
    exact Nat.mod_eq_of_lt (by change d.toNat * 100 < _; omega)
  have hlast : (d * 100 + 99).toNat = d.toNat * 100 + 99 := by
    rw [UInt16.toNat_add, hfirst]
    exact Nat.mod_eq_of_lt (by change d.toNat * 100 + 99 < _; omega)
  show (((d * 100).toNat : Int) ≤ n ∧ n ≤ ((d * 100 + 99).toNat : Int)) ↔ n / 100 = d.toNat
  rw [hfirst, hlast]
  omega

/-- A class covers the integers whose quotient by one hundred is its digit. -/
theorem StatusClass.covers_iff {k : StatusClass} {n : Int} :
    k.Covers n ↔ ∃ d, k.leadingDigit? = some d ∧ n / 100 = d.toNat := by
  unfold StatusClass.Covers StatusClass.band?
  constructor
  · rintro ⟨b, hb, hn⟩
    obtain ⟨d, hd, rfl⟩ := Option.map_eq_some_iff.mp hb
    exact ⟨d, hd, (Band.covers_ofLeadingDigit_iff (bounds_of_leadingDigit? hd).2).mp hn⟩
  · rintro ⟨d, hd, hn⟩
    refine ⟨Band.ofLeadingDigit d, Option.map_eq_some_iff.mpr ⟨d, hd, rfl⟩, ?_⟩
    exact (Band.covers_ofLeadingDigit_iff (bounds_of_leadingDigit? hd).2).mpr hn

theorem StatusClass.covers_iff_of_leadingDigit? {k : StatusClass} {d : UInt16}
    (hd : k.leadingDigit? = some d) {n : Int} : k.Covers n ↔ n / 100 = d.toNat := by
  simp [covers_iff, hd]

/-- Together the bands are the integers from 100 to 599. -/
theorem exists_covers_iff {n : Int} : (∃ k : StatusClass, k.Covers n) ↔ 100 ≤ n ∧ n ≤ 599 := by
  constructor
  · rintro ⟨k, hk⟩
    obtain ⟨d, hd, hn⟩ := StatusClass.covers_iff.mp hk
    have hbounds := StatusClass.bounds_of_leadingDigit? hd
    omega
  · rintro ⟨hlo, hhi⟩
    have hk : StatusClass.ofLeadingDigit (n.toNat / 100) ≠ .unknown := by
      rw [Ne, StatusClass.ofLeadingDigit_eq_unknown_iff]
      omega
    obtain ⟨d, hd, hn⟩ := (StatusClass.ofLeadingDigit_eq_iff hk).mp rfl
    refine ⟨_, StatusClass.covers_iff.mpr ⟨d, hd, ?_⟩⟩
    omega

/-! ### The two accounts agree -/

theorem value_classify_eq_unknown_iff {x : MachineInt t} :
    (classify x).value = .unknown ↔ x.val < 100 ∨ 599 < x.val := by
  rw [classify_eq]
  split
  · next h =>
    rw [StatusClass.ofLeadingDigit_eq_unknown_iff]
    omega
  · next h =>
    refine iff_of_true rfl ?_
    omega

/-- A class other than `unknown` is given to exactly the integers that it covers. -/
theorem value_classify_eq_iff {x : MachineInt t} {k : StatusClass} (hk : k ≠ .unknown) :
    (classify x).value = k ↔ k.Covers x.val := by
  rw [classify_eq]
  split
  · -- In the range both sides are about the quotient, on the left in `Nat` and on the right in `Int`.
    next h =>
    rw [StatusClass.ofLeadingDigit_eq_iff hk, StatusClass.covers_iff]
    apply exists_congr
    intro d
    apply and_congr_right
    intro _
    omega
  · -- Outside of the range no class covers anything.
    next h =>
    refine iff_of_false (Ne.symm hk) ?_
    intro hc
    exact h (exists_covers_iff.mp ⟨k, hc⟩)

/-- Nothing but the integer decides its class. -/
theorem value_classify_congr {s : IntType} {y : MachineInt s} {x : MachineInt t}
    (h : y.val = x.val) : (classify y).value = (classify x).value := by
  rw [classify_eq, classify_eq, h]
  split <;> rfl

theorem isError_value_classify_iff {x : MachineInt t} :
    (classify x).value.isError = true ↔ 400 ≤ x.val ∧ x.val ≤ 599 := by
  have hclient : (classify x).value = .clientError ↔ x.val / 100 = 4 :=
    (value_classify_eq_iff (by decide)).trans (StatusClass.covers_iff_of_leadingDigit? (d := 4) rfl)
  have hserver : (classify x).value = .serverError ↔ x.val / 100 = 5 :=
    (value_classify_eq_iff (by decide)).trans (StatusClass.covers_iff_of_leadingDigit? (d := 5) rfl)
  simp only [StatusClass.isError, StatusClass.isClientError, StatusClass.isServerError,
    Bool.or_eq_true, decide_eq_true_eq, hclient, hserver]
  omega

/-- **The class of an integer is the class whose band covers it**, whatever the type that it comes
in, and `unknown` if there is none: below 100 and above 599.  Values that denote the same integer
are classified alike, those of 16 bits by themselves included; an integer that does not fit 64 bits
is never brought into a band; and the classes of errors make up the integers from 400 to 599. -/
theorem classify_agrees_with_bands (x : MachineInt t) :
    (∀ k : StatusClass, k ≠ .unknown → ((classify x).value = k ↔ k.Covers x.val)) ∧
    ((classify x).value = .unknown ↔ ∀ k : StatusClass, ¬ k.Covers x.val) ∧
    ((classify x).value = .unknown ↔ x.val < 100 ∨ 599 < x.val) ∧
    (∀ (s : IntType) (y : MachineInt s), y.val = x.val →
      (classify y).value = (classify x).value) ∧
    (∀ v : UInt16, (v.toNat : Int) = x.val →
      (StatusClass.ofUInt16 v).value = (classify x).value) ∧
    (x.val < Int64.minValue.toInt ∨ Int64.maxValue.toInt < x.val →
      (classify x).value = .unknown) ∧
    ((classify x).value.isError = true ↔ 400 ≤ x.val ∧ x.val ≤ 599) := by
  refine ⟨?_, ?_, value_classify_eq_unknown_iff, ?_, ?_, ?_, isError_value_classify_iff⟩
  · intro k hk
    exact value_classify_eq_iff hk
  · rw [← not_exists, exists_covers_iff, value_classify_eq_unknown_iff]
    omega
  · intro s y hy
    exact value_classify_congr hy
  · intro v hv
    show (classify (.ofUInt16 v)).value = (classify x).value
    exact value_classify_congr hv
  · intro hwide
    have hmin : Int64.minValue.toInt < 100 := by decide
    have hmax : 599 < Int64.maxValue.toInt := by decide
    rw [value_classify_eq_unknown_iff]
    omega

/-- An integer whose last 64 bits denote 404, and 404 itself: as a signed integer of 128 bits, as
one of 16 bits, and as a word. -/
theorem classify_of_wide :
    let wide : MachineInt .uint128 := ⟨18446744073709552020, by decide, by decide⟩
    let found : MachineInt .int128 := ⟨404, by decide, by decide⟩
    let short : MachineInt .int16 := ⟨404, by decide, by decide⟩
    (classify wide).value = .unknown ∧ (classify found).value = .clientError ∧
      (classify short).value = (classify found).value ∧
      (StatusClass.ofUInt16 404).value = (classify found).value := by
  intro wide found short
  obtain ⟨-, -, -, -, -, hwide, -⟩ := classify_agrees_with_bands wide
  obtain ⟨hband, -, -, hsame, hword, -, -⟩ := classify_agrees_with_bands found
  refine ⟨hwide (.inr (by decide)), (hband .clientError (by decide)).mpr ?_, hsame .int16 short rfl,
    hword 404 rfl⟩
  exact (StatusClass.covers_iff_of_leadingDigit? rfl).mpr rfl

end StatusRegistry
