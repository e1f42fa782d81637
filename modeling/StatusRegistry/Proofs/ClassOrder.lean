/-
StatusRegistry/Proofs/ClassOrder.lean

The order of the classes.  Classes are ordered as they are declared, and they
are declared in the order of their digits, with `unknown` at the end.

Main result: from 100 on, the class of an integer does not decrease when the
integer grows, in whatever two types the integers come; and the class stays the
same exactly within a band of one hundred, and above 599
(`classes_follow_integers`).  Below 100 the order breaks off, because the class
of what is out of range is the greatest.

The argument is about bands.  Where both integers are in range, each is covered
by a class, and the digits of the classes are the quotients of the integers
(`StatusClass.Covers.le`); where the greater one is not, its class is `unknown`.
-/
import StatusRegistry.Proofs.Bands

namespace StatusRegistry

variable {s t : IntType}

/-! ### The order of declaration -/

namespace StatusClass

variable {j k : StatusClass} {m n : Int}

/-- Classes are compared by the order that `≤` stands for. -/
instance : Std.LawfulOrderOrd StatusClass where
  isLE_compare _ _ := Nat.isLE_compare
  isGE_compare _ _ := Nat.isGE_compare

/-- The order tells classes apart. -/
instance : Std.LawfulEqOrd StatusClass where
  compare_self := Nat.compare_eq_eq.mpr rfl
  eq_of_compare h := rank_injective (Nat.compare_eq_eq.mp h)

/-- Classes are declared in the order of their digits, the first of which is 1. -/
theorem rank_add_one_of_leadingDigit? {d : UInt16} (h : k.leadingDigit? = some d) :
    k.rank + 1 = d.toNat := by
  cases k <;> cases h <;> rfl

/-! ### The order of bands -/

/-- There is no band for `unknown`. -/
theorem Covers.ne_unknown (h : k.Covers n) : k ≠ unknown := by
  rintro rfl
  obtain ⟨b, hb, -⟩ := h
  cases hb

/-- Together with an integer, a class covers the band of one hundred that the integer is in. -/
theorem Covers.covers_iff (hm : k.Covers m) : k.Covers n ↔ m / 100 = n / 100 := by
  obtain ⟨d, hd, hmd⟩ := StatusClass.covers_iff.mp hm
  rw [covers_iff_of_leadingDigit? hd, hmd, eq_comm]

/-- The bands are in the order of the classes. -/
theorem Covers.le (hj : j.Covers m) (hk : k.Covers n) (h : m ≤ n) : j ≤ k := by
  obtain ⟨d, hd, hm⟩ := StatusClass.covers_iff.mp hj
  obtain ⟨e, he, hn⟩ := StatusClass.covers_iff.mp hk
  have hquotients : m / 100 ≤ n / 100 := Int.ediv_le_ediv (by decide) h
  have hdj := rank_add_one_of_leadingDigit? hd
  have hek := rank_add_one_of_leadingDigit? he
  rw [le_def]
  omega

end StatusClass

/-! ### The class of a covered integer -/

variable {x : MachineInt s} {y : MachineInt t} {k : StatusClass}

theorem StatusClass.Covers.value_classify (h : k.Covers x.val) : (classify x).value = k :=
  (value_classify_eq_iff h.ne_unknown).mpr h

/-- Integers have the class of a covered one if they are in its band. -/
theorem value_classify_eq_iff_of_covers (h : k.Covers x.val) :
    (classify x).value = (classify y).value ↔ x.val / 100 = y.val / 100 := by
  rw [h.value_classify, eq_comm, value_classify_eq_iff h.ne_unknown, h.covers_iff]

theorem value_classify_le_of_le (hx : 100 ≤ x.val) (h : x.val ≤ y.val) :
    (classify x).value ≤ (classify y).value := by
  by_cases hy : y.val ≤ 599
  · -- Both integers are in range, so each is in a band.
    obtain ⟨j, hj⟩ := exists_covers_iff.mpr ⟨hx, Int.le_trans h hy⟩
    obtain ⟨k, hk⟩ := exists_covers_iff.mpr ⟨Int.le_trans hx h, hy⟩
    rw [hj.value_classify, hk.value_classify]
    exact hj.le hk h
  · have hyu : (classify y).value = .unknown := value_classify_eq_unknown_iff.mpr (by omega)
    rw [hyu]
    exact StatusClass.le_unknown _

theorem value_classify_eq_iff_of_le (hx : 100 ≤ x.val) (h : x.val ≤ y.val) :
    (classify x).value = (classify y).value ↔
      x.val / 100 = y.val / 100 ∨ (599 < x.val ∧ 599 < y.val) := by
  by_cases hle : x.val ≤ 599
  · obtain ⟨k, hk⟩ := exists_covers_iff.mpr ⟨hx, hle⟩
    rw [value_classify_eq_iff_of_covers hk]
    omega
  · -- Above all bands there is one class only.
    have hxu : (classify x).value = .unknown := value_classify_eq_unknown_iff.mpr (by omega)
    have hyu : (classify y).value = .unknown := value_classify_eq_unknown_iff.mpr (by omega)
    rw [hxu, hyu]
    exact iff_of_true rfl (.inr (by omega))

/-- **The order of classes follows the order of integers**, from 100 on and from type to type.  The
classes of two integers are the same if and only if the integers are in the same band of one
hundred, or both above 599.  An integer below 100 has the greatest class, so no integer has a
greater one.  The order is the one by which classes are compared, and no two classes are equal in
it. -/
theorem classes_follow_integers (x : MachineInt s) (y : MachineInt t) :
    (100 ≤ x.val → x.val ≤ y.val →
      (classify x).value ≤ (classify y).value ∧
      ((classify x).value = (classify y).value ↔
        x.val / 100 = y.val / 100 ∨ (599 < x.val ∧ 599 < y.val))) ∧
    (x.val < 100 →
      (classify x).value = .unknown ∧ (classify y).value ≤ (classify x).value) ∧
    (∀ k : StatusClass, k ≤ .unknown) ∧
    (∀ j k : StatusClass, (compare j k).isLE = true ↔ j ≤ k) ∧
    (∀ j k : StatusClass, compare j k = .eq ↔ j = k) := by
  refine ⟨?_, ?_, StatusClass.le_unknown, fun _ _ => Std.isLE_compare,
    fun _ _ => Std.LawfulEqOrd.compare_eq_iff_eq⟩
  · intro hx h
    exact ⟨value_classify_le_of_le hx h, value_classify_eq_iff_of_le hx h⟩
  · intro hx
    have hunknown : (classify x).value = .unknown := value_classify_eq_unknown_iff.mpr (.inl hx)
    rw [hunknown]
    exact ⟨rfl, StatusClass.le_unknown _⟩

/-- The two ends of a band, the integer after it, an integer whose last 64 bits denote 404, and 404
with the other sign, each in a type of its own. -/
theorem classes_of_ends :
    let first : MachineInt .uint16 := ⟨400, by decide, by decide⟩
    let last : MachineInt .int128 := ⟨499, by decide, by decide⟩
    let after : MachineInt .usize := ⟨500, by decide, by decide⟩
    let wide : MachineInt .uint128 := ⟨18446744073709552020, by decide, by decide⟩
    let negative : MachineInt .int16 := ⟨-404, by decide, by decide⟩
    (classify first).value = (classify last).value ∧
      ((classify last).value ≤ (classify after).value ∧
        (classify last).value ≠ (classify after).value) ∧
      (classify after).value ≤ (classify wide).value ∧
      (classify after).value ≤ (classify negative).value := by
  intro first last after wide negative
  obtain ⟨hfirst, -⟩ := classes_follow_integers first last
  obtain ⟨hlast, -⟩ := classes_follow_integers last after
  obtain ⟨hafter, -⟩ := classes_follow_integers after wide
  obtain ⟨-, hnegative, -⟩ := classes_follow_integers negative after
  obtain ⟨-, hband⟩ := hfirst (by decide) (by decide)
  obtain ⟨hle, hsame⟩ := hlast (by decide) (by decide)
  exact ⟨hband.mpr (by decide), ⟨hle, mt hsame.mp (by decide)⟩, (hafter (by decide) (by decide)).1,
    (hnegative (by decide)).2⟩

end StatusRegistry
