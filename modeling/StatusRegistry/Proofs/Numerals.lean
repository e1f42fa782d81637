/-
StatusRegistry/Proofs/Numerals.lean

What the readers of numerals accept, said without them.  A numeral for `n` is
the decimal form of `n` (as numbers are printed) after any number of zeros,
with or without a plus sign: `IsNumeral n w`.  A signed numeral may have a minus
sign instead: `IsSignedNumeral n w`.

Main results: a text is read as `n` if and only if it is a numeral for `n`
(`readNat?_eq_some_iff`, `readInt?_eq_some_iff`), and as a word of 16 or 64 bits
if and only if it is a numeral for the number that the word stands for
(`readUInt16?_eq_some_iff`, `readInt64?_eq_some_iff`).  The induction behind all
of them is over the digits from the last one on, since that is how a decimal form
grows.
-/
import Mathlib.Data.List.Induction
import StatusRegistry.Text.Numeral

namespace StatusRegistry.Text

/-- The text is the decimal form of `n` after any number of zeros. -/
def IsDecimal (n : Nat) (w : List Char) : Prop :=
  ∃ zeros, w = List.replicate zeros '0' ++ Nat.toDigits 10 n

/-- The text is an unsigned numeral for `n`. -/
def IsNumeral (n : Nat) (w : List Char) : Prop :=
  IsDecimal n w ∨ ∃ ds, w = '+' :: ds ∧ IsDecimal n ds

/-- The text is a signed numeral for `n`: an unsigned one, or a minus sign and a decimal form.  There
are two for zero, up to leading zeros and the plus sign. -/
inductive IsSignedNumeral : Int → List Char → Prop
  | unsigned {n : Nat} {w : List Char} (h : IsNumeral n w) : IsSignedNumeral n w
  | negative {n : Nat} {ds : List Char} (h : IsDecimal n ds) : IsSignedNumeral (-n) ('-' :: ds)

/-! ### Digits -/

theorem isDigit_eq (c : Char) : isDigit c = c.isDigit := by
  simp [isDigit, Char.isDigit, Char.le_def]

theorem digitsValue_eq_ofDigitChars (ds : List Char) :
    digitsValue ds = Nat.ofDigitChars 10 ds 0 := rfl

theorem digitChar_of_isDigit {c : Char} (h : isDigit c = true) :
    ∃ d < 10, c = Nat.digitChar d := by
  rw [isDigit_eq, Char.isDigit_iff_toNat] at h
  have h0 : '0'.toNat = 48 := rfl
  have h9 : '9'.toNat = 57 := rfl
  refine ⟨c.toNat - 48, by omega, ?_⟩
  apply Char.toNat_inj.mp
  rw [Nat.toNat_digitChar_of_lt_ten (by omega)]
  omega

theorem isDigit_of_mem_toDigits {n : Nat} {c : Char} (h : c ∈ Nat.toDigits 10 n) :
    isDigit c = true := by
  rw [isDigit_eq]
  exact Nat.isDigit_of_mem_toDigits (by decide) (by decide) h

/-! ### Decimal forms -/

/-- No two numbers have the same decimal form. -/
theorem toDigits_injective {m n : Nat} (h : Nat.toDigits 10 m = Nat.toDigits 10 n) : m = n := by
  rw [← Nat.ofDigitChars_ten_toDigits (n := m), h, Nat.ofDigitChars_ten_toDigits]

theorem IsDecimal.ne_nil {n : Nat} {w : List Char} (h : IsDecimal n w) : w ≠ [] := by
  obtain ⟨zeros, rfl⟩ := h
  simp

theorem IsDecimal.isDigit {n : Nat} {w : List Char} (h : IsDecimal n w) :
    ∀ c ∈ w, isDigit c = true := by
  obtain ⟨zeros, rfl⟩ := h
  intro c hc
  rcases List.mem_append.mp hc with hz | hd
  · rw [List.eq_of_mem_replicate hz]
    rfl
  · exact isDigit_of_mem_toDigits hd

theorem IsDecimal.digitsValue_eq {n : Nat} {w : List Char} (h : IsDecimal n w) :
    digitsValue w = n := by
  obtain ⟨zeros, rfl⟩ := h
  rw [digitsValue_eq_ofDigitChars, Nat.ofDigitChars_append, Nat.ofDigitChars_replicate_zero,
    Nat.mul_zero, Nat.ofDigitChars_ten_toDigits]

/-- One more digit at the end.  A decimal form grows by the digit, unless the number so far is
zero: then all digits so far are zeros, and the new digit alone is the decimal form. -/
theorem IsDecimal.concat {n d : Nat} {w : List Char} (h : IsDecimal n w) (hd : d < 10) :
    IsDecimal (10 * n + d) (w ++ [Nat.digitChar d]) := by
  obtain ⟨zeros, rfl⟩ := h
  rcases Nat.eq_zero_or_pos n with rfl | hn
  · refine ⟨zeros + 1, ?_⟩
    rw [Nat.mul_zero, Nat.zero_add, Nat.toDigits_of_lt_base hd, List.replicate_succ']
    rfl
  · refine ⟨zeros, ?_⟩
    rw [← Nat.toDigits_append_toDigits (by decide) hn hd, Nat.toDigits_of_lt_base hd,
      List.append_assoc]

/-- Every nonempty run of digits is the decimal form of its value, after some zeros. -/
theorem isDecimal_digitsValue {w : List Char} (hw : ∀ c ∈ w, isDigit c = true) (hne : w ≠ []) :
    IsDecimal (digitsValue w) w := by
  induction w using List.reverseRecOn with
  | nil => exact absurd rfl hne
  | append_singleton w c ih =>
    obtain ⟨d, hd, rfl⟩ := digitChar_of_isDigit (hw c (by simp))
    have hval : digitsValue (w ++ [Nat.digitChar d]) = 10 * digitsValue w + d := by
      simp [digitsValue_eq_ofDigitChars, Nat.ofDigitChars_append,
        Nat.ofDigitChars_cons_digitChar_of_lt_ten hd]
    rw [hval]
    rcases List.eq_nil_or_concat w with rfl | ⟨u, x, rfl⟩
    · refine ⟨0, ?_⟩
      rw [show 10 * digitsValue [] + d = d by simp [digitsValue], Nat.toDigits_of_lt_base hd]
      rfl
    · exact (ih (fun c hc => hw c (List.mem_append_left _ hc)) (by simp)).concat hd

theorem readDigits?_eq_some_iff {w : List Char} {n : Nat} :
    readDigits? w = some n ↔ IsDecimal n w := by
  constructor
  · intro h
    simp only [readDigits?, Bool.and_eq_true, Bool.not_eq_true', List.isEmpty_eq_false_iff,
      List.all_eq_true, Option.ite_none_right_eq_some, Option.some.injEq] at h
    obtain ⟨⟨hne, hw⟩, rfl⟩ := h
    exact isDecimal_digitsValue hw hne
  · intro h
    have hall : w.all isDigit = true := List.all_eq_true.mpr h.isDigit
    have hne : w.isEmpty = false := List.isEmpty_eq_false_iff.mpr h.ne_nil
    simp [readDigits?, hall, hne, h.digitsValue_eq]

/-! ### Numerals -/

/-- A decimal form has no sign. -/
theorem not_isDecimal_cons_plus {n : Nat} {w : List Char} : ¬ IsDecimal n ('+' :: w) := by
  intro h
  have hp : isDigit '+' = true := h.isDigit '+' (by simp)
  cases hp

theorem readNat?_eq_some_iff {w : List Char} {n : Nat} :
    readNat? w = some n ↔ IsNumeral n w := by
  unfold readNat? IsNumeral
  split
  · next ds => simp [readDigits?_eq_some_iff, not_isDecimal_cons_plus]
  · next hplus =>
    rw [readDigits?_eq_some_iff]
    constructor
    · exact Or.inl
    · rintro (h | ⟨ds, rfl, -⟩)
      · exact h
      · exact absurd rfl (hplus ds)

/-- **A 16-bit word is read from exactly the numerals for it.** -/
theorem readUInt16?_eq_some_iff {w : List Char} {v : UInt16} :
    readUInt16? w = some v ↔ IsNumeral v.toNat w := by
  rw [readUInt16?, ← readNat?_eq_some_iff, Option.bind_eq_some_iff]
  constructor
  · rintro ⟨n, hn, hv⟩
    obtain ⟨hlt, rfl⟩ : n < UInt16.size ∧ UInt16.ofNat n = v := by simpa using hv
    rw [hn, UInt16.toNat_ofNat_of_lt' hlt]
  · intro h
    exact ⟨v.toNat, h, by simp [v.toNat_lt_size]⟩

/-- A text is a numeral for one number at most. -/
theorem IsNumeral.unique {m n : Nat} {w : List Char} (hm : IsNumeral m w) (hn : IsNumeral n w) :
    m = n :=
  Option.some.inj ((readNat?_eq_some_iff.mpr hm).symm.trans (readNat?_eq_some_iff.mpr hn))

/-- A numeral is a run of digits, after a plus sign or on its own. -/
theorem IsNumeral.isDigit_or_plus {n : Nat} {w : List Char} (h : IsNumeral n w) :
    ∀ c ∈ w, isDigit c = true ∨ c = '+' := by
  rcases h with h | ⟨ds, rfl, h⟩
  · exact fun c hc => .inl (h.isDigit c hc)
  · exact List.forall_mem_cons.mpr ⟨.inr rfl, fun c hc => .inl (h.isDigit c hc)⟩

/-- Nothing but digits and the plus sign occurs in a numeral. -/
theorem IsNumeral.not_mem {n : Nat} {w : List Char} {x : Char} (h : IsNumeral n w)
    (hdigit : isDigit x = false) (hplus : x ≠ '+') : x ∉ w := by
  intro hx
  rcases h.isDigit_or_plus x hx with hd | hp
  · rw [hdigit] at hd
    cases hd
  · exact hplus hp

/-- There is no space in a numeral. -/
theorem IsNumeral.ne_space {n : Nat} {w : List Char} (h : IsNumeral n w) : ∀ c ∈ w, c ≠ ' ' := by
  rintro c hc rfl
  exact h.not_mem rfl (by decide) hc

/-! ### Signed numerals -/

/-- There is no minus sign in an unsigned numeral. -/
theorem IsNumeral.not_mem_minus {n : Nat} {w : List Char} (h : IsNumeral n w) : '-' ∉ w :=
  h.not_mem rfl (by decide)

theorem readInt?_minus (t : List Char) :
    readInt? ('-' :: t) = (readDigits? t).map fun k : Nat => -(k : Int) := by
  rcases h : readDigits? t with - | k <;> simp [readInt?, h]

theorem readInt?_of_head?_ne {w : List Char} (h : w.head? ≠ some '-') :
    readInt? w = (readNat? w).map fun k : Nat => (k : Int) := by
  unfold readInt?
  split
  · exact absurd rfl h
  · rcases readNat? w with - | k <;> rfl

theorem readInt?_eq_some_iff {w : List Char} {n : Int} :
    readInt? w = some n ↔ IsSignedNumeral n w := by
  constructor
  · intro h
    -- The sign tells which of the two forms the text can have.
    by_cases hminus : w.head? = some '-'
    · obtain ⟨t, rfl⟩ := List.head?_eq_some_iff.mp hminus
      rw [readInt?_minus] at h
      obtain ⟨k, hk, rfl⟩ := Option.map_eq_some_iff.mp h
      exact .negative (readDigits?_eq_some_iff.mp hk)
    · rw [readInt?_of_head?_ne hminus] at h
      obtain ⟨k, hk, rfl⟩ := Option.map_eq_some_iff.mp h
      exact .unsigned (readNat?_eq_some_iff.mp hk)
  · intro h
    cases h with
    | unsigned h =>
      have hminus : w.head? ≠ some '-' := fun hm => h.not_mem_minus (List.mem_of_head? hm)
      rw [readInt?_of_head?_ne hminus, readNat?_eq_some_iff.mpr h]
      rfl
    | negative h =>
      rw [readInt?_minus, readDigits?_eq_some_iff.mpr h]
      rfl

/-- **A signed 64-bit word is read from exactly the numerals for it.** -/
theorem readInt64?_eq_some_iff {w : List Char} {k : Int64} :
    readInt64? w = some k ↔ IsSignedNumeral k.toInt w := by
  rw [readInt64?, ← readInt?_eq_some_iff, Option.bind_eq_some_iff]
  constructor
  · rintro ⟨n, hn, hk⟩
    obtain ⟨⟨hmin, hmax⟩, rfl⟩ :
        (Int64.minValue.toInt ≤ n ∧ n ≤ Int64.maxValue.toInt) ∧ Int64.ofInt n = k := by
      simpa using hk
    rw [hn, Int64.toInt_ofInt_of_le hmin (Int.lt_of_le_sub_one hmax)]
  · intro h
    refine ⟨k.toInt, h, ?_⟩
    rw [if_pos ⟨k.minValue_le_toInt, k.toInt_le⟩, Int64.ofInt_toInt]

theorem readInt64?_eq_none_iff {w : List Char} :
    readInt64? w = none ↔ ∀ k : Int64, ¬ IsSignedNumeral k.toInt w := by
  simp [Option.eq_none_iff_forall_ne_some, readInt64?_eq_some_iff]

/-- A text is a signed numeral for one integer at most. -/
theorem IsSignedNumeral.unique {m n : Int} {w : List Char} (hm : IsSignedNumeral m w)
    (hn : IsSignedNumeral n w) : m = n :=
  Option.some.inj ((readInt?_eq_some_iff.mpr hm).symm.trans (readInt?_eq_some_iff.mpr hn))

/-- There is no minus sign in a positive integer. -/
theorem IsSignedNumeral.not_mem_minus {n : Int} {w : List Char} (h : IsSignedNumeral n w)
    (hn : 0 < n) : '-' ∉ w := by
  cases h with
  | unsigned h => exact h.not_mem_minus
  | negative => omega

/-- Only a minus sign makes an integer negative. -/
theorem IsSignedNumeral.nonneg {n : Int} {w : List Char} (h : IsSignedNumeral n w)
    (hminus : '-' ∉ w) : 0 ≤ n := by
  cases h with
  | unsigned => exact Int.natCast_nonneg _
  | negative => exact absurd List.mem_cons_self hminus

/-- The digits of a signed numeral, and what may stand before them. -/
theorem IsSignedNumeral.exists_digits {n : Int} {w : List Char} (h : IsSignedNumeral n w) :
    ∃ ds, IsDecimal n.natAbs ds ∧ (w = ds ∨ w = '+' :: ds ∨ w = '-' :: ds) := by
  cases h with
  | unsigned h =>
    rcases h with h | ⟨ds, rfl, h⟩
    · exact ⟨w, h, .inl rfl⟩
    · exact ⟨ds, h, .inr (.inl rfl)⟩
  | @negative m ds h =>
    refine ⟨ds, ?_, .inr (.inr rfl)⟩
    rwa [Int.natAbs_neg]

/-- A signed numeral has a digit in it. -/
theorem IsSignedNumeral.exists_digit {n : Int} {w : List Char} (h : IsSignedNumeral n w) :
    ∃ d ∈ w, isDigit d = true := by
  obtain ⟨ds, hds, hw⟩ := h.exists_digits
  obtain ⟨d, hd⟩ := List.exists_mem_of_ne_nil ds hds.ne_nil
  refine ⟨d, ?_, hds.isDigit d hd⟩
  rcases hw with rfl | rfl | rfl
  · exact hd
  · exact List.mem_cons_of_mem _ hd
  · exact List.mem_cons_of_mem _ hd

/-- A numeral has a digit in it. -/
theorem IsNumeral.exists_digit {n : Nat} {w : List Char} (h : IsNumeral n w) :
    ∃ d ∈ w, isDigit d = true :=
  (IsSignedNumeral.unsigned h).exists_digit

end StatusRegistry.Text
