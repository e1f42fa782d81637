/-
StatusRegistry/Proofs/Ascii.lean

What the character maps and properties do on ASCII.  There are 128 ASCII
characters, so a fact about all of them is checked by trying them
(`forall_ascii`); beyond ASCII the case maps of letters do nothing
(`toLower_of_not_ascii`).

The lemmas fall in two groups.  Letters: the full mappings agree with the ASCII
ones, and a letter alone in its cluster has the kind of its case.  Everything
else that occurs in a symbolic name or in a numeral, that is separators and
digits: the full uppercase mapping leaves it as it is.
-/
import StatusRegistry.Text.WhiteSpace
import StatusRegistry.Text.Words

namespace StatusRegistry.Text

/-- Whether the character is one of the 128 ASCII characters. -/
def IsAscii (c : Char) : Prop :=
  c.toNat < 0x80

instance (c : Char) : Decidable (IsAscii c) :=
  inferInstanceAs (Decidable (c.toNat < 0x80))

/-- A property of all ASCII characters is checked code point by code point. -/
theorem forall_ascii {P : Char → Prop} (h : ∀ code : Nat, code < 0x80 → P (Char.ofNat code))
    {c : Char} (hc : IsAscii c) : P c :=
  Char.ofNat_toNat c ▸ h c.toNat hc

/-! ### Which characters are ASCII -/

theorem isAscii_of_isSeparator {c : Char} (h : isSeparator c = true) : IsAscii c := by
  simp only [isSeparator, Bool.or_eq_true, decide_eq_true_eq] at h
  rcases h with (rfl | rfl) | rfl <;> decide

theorem isAscii_of_isDigit {c : Char} (h : isDigit c = true) : IsAscii c := by
  simp only [isDigit, Bool.and_eq_true, decide_eq_true_eq] at h
  exact Nat.lt_of_le_of_lt (UInt32.le_iff_toNat_le.mp h.2) (by decide)

theorem isAscii_of_isUpper {c : Char} (h : c.isUpper = true) : IsAscii c := by
  have hle : c.val ≤ 'Z'.val := (of_decide_eq_true h).2
  exact Nat.lt_of_le_of_lt (UInt32.le_iff_toNat_le.mp hle) (by decide)

theorem isAscii_of_isLower {c : Char} (h : c.isLower = true) : IsAscii c := by
  have hle : c.val ≤ 'z'.val := of_decide_eq_true (Bool.and_eq_true_iff.mp h).2
  exact Nat.lt_of_le_of_lt (UInt32.le_iff_toNat_le.mp hle) (by decide)

/-- A property of the uppercase letters is checked among the ASCII characters. -/
theorem forall_isUpper {P : Char → Prop}
    (h : ∀ code : Nat, code < 0x80 → (Char.ofNat code).isUpper = true → P (Char.ofNat code))
    {c : Char} (hc : c.isUpper = true) : P c :=
  forall_ascii (P := fun c => c.isUpper = true → P c) h (isAscii_of_isUpper hc) hc

/-- A property of the lowercase letters is checked among the ASCII characters. -/
theorem forall_isLower {P : Char → Prop}
    (h : ∀ code : Nat, code < 0x80 → (Char.ofNat code).isLower = true → P (Char.ofNat code))
    {c : Char} (hc : c.isLower = true) : P c :=
  forall_ascii (P := fun c => c.isLower = true → P c) h (isAscii_of_isLower hc) hc

theorem toLower_of_not_ascii {c : Char} (h : ¬ IsAscii c) : c.toLower = c := by
  have hu : ¬ (c.val ≥ 'A'.val ∧ c.val ≤ 'Z'.val) := by
    intro hr
    exact h (isAscii_of_isUpper (decide_eq_true hr))
  exact dif_neg hu

/-! ### The case of ASCII letters does not matter -/

theorem isAscii_toLower {c : Char} (h : IsAscii c) : IsAscii c.toLower :=
  forall_ascii (P := fun c => IsAscii c.toLower) (by decide) h

/-- The full uppercase mapping does not see the case of an ASCII letter. -/
theorem upperChar_toLower (c : Char) : upperChar c.toLower = upperChar c := by
  by_cases h : IsAscii c
  · rw [upperChar_of_ascii (isAscii_toLower h), upperChar_of_ascii h]
    exact forall_ascii (P := fun c => [c.toLower.toUpper] = [c.toUpper]) (by decide) h
  · rw [toLower_of_not_ascii h]

theorem upper_map_toLower (t : List Char) : upper (t.map Char.toLower) = upper t := by
  simp [upper, List.flatMap_map, upperChar_toLower]

theorem upper_eq_of_equalUpToAsciiCase {s t : List Char} (h : equalUpToAsciiCase s t = true) :
    upper s = upper t := by
  have hl : s.map Char.toLower = t.map Char.toLower := by simpa [equalUpToAsciiCase] using h
  rw [← upper_map_toLower s, hl, upper_map_toLower]

theorem isWhiteSpace_toLower (c : Char) : isWhiteSpace c.toLower = isWhiteSpace c := by
  by_cases h : IsAscii c
  · exact forall_ascii (P := fun c => isWhiteSpace c.toLower = isWhiteSpace c) (by decide) h
  · rw [toLower_of_not_ascii h]

/-! ### Separators and digits -/

theorem upperChar_of_isSeparator {c : Char} (h : isSeparator c = true) : upperChar c = [c] := by
  rw [upperChar_of_ascii (isAscii_of_isSeparator h)]
  exact forall_ascii (P := fun c => isSeparator c = true → [c.toUpper] = [c]) (by decide)
    (isAscii_of_isSeparator h) h

theorem upperChar_of_isDigit {c : Char} (h : isDigit c = true) : upperChar c = [c] := by
  rw [upperChar_of_ascii (isAscii_of_isDigit h)]
  exact forall_ascii (P := fun c => isDigit c = true → [c.toUpper] = [c]) (by decide)
    (isAscii_of_isDigit h) h

theorem isSeparator_of_isDigit {c : Char} (h : isDigit c = true) : isSeparator c = false :=
  forall_ascii (P := fun c => isDigit c = true → isSeparator c = false) (by decide)
    (isAscii_of_isDigit h) h

/-- A text of characters that the full uppercase mapping leaves as they are is left as it is. -/
theorem upper_eq_self {t : List Char} (h : ∀ c ∈ t, upperChar c = [c]) : upper t = t := by
  induction t with
  | nil => rfl
  | cons c t ih =>
    obtain ⟨hc, ht⟩ := List.forall_mem_cons.mp h
    rw [upper_cons, hc, ih ht]
    rfl

/-! ### Clusters of one character -/

/-- Between two characters without properties of their own there is a border. -/
theorem joins_other {ctx : Context} (h : ctx.last = .other) : ctx.joins .other = false := by
  simp [Context.joins, h, BreakClass.isControl, BreakClass.isTrailing, BreakClass.isExtend,
    BreakClass.joinsHangul]

theorem clustersFrom_of_breakClass_other {ctx : Context} {t : List Char} (hctx : ctx.last = .other)
    (ht : ∀ x ∈ t, breakClass x = .other) : clustersFrom ctx t = ([], t.map ([·])) := by
  induction t generalizing ctx with
  | nil => rfl
  | cons x t ih =>
    obtain ⟨hx, ht⟩ := List.forall_mem_cons.mp ht
    have hnext : clustersFrom (ctx.next .other) t = ([], t.map ([·])) := ih rfl ht
    simp [clustersFrom, hx, joins_other hctx, hnext]

/-- In a text of characters without properties of their own, every character is a cluster. -/
theorem clusters_of_breakClass_other {t : List Char} (ht : ∀ x ∈ t, breakClass x = .other) :
    clusters t = t.map ([·]) := by
  cases t with
  | nil => rfl
  | cons x t =>
    obtain ⟨hx, ht⟩ := List.forall_mem_cons.mp ht
    have hrest : clustersFrom (.start .other) t = ([], t.map ([·])) :=
      clustersFrom_of_breakClass_other rfl ht
    simp [clusters, hx, hrest]

/-! ### Kinds of one-character clusters -/

theorem clusterKind_of_isSeparator {c : Char} (h : isSeparator c = true) :
    clusterKind [c] = .separator := by
  simp [clusterKind, separatesWords, h]

theorem clusterKind_of_isUpper {c : Char} (h : c.isUpper = true) : clusterKind [c] = .upper :=
  forall_isUpper (P := fun c => clusterKind [c] = .upper) (by decide) h

theorem clusterKind_of_isLower {c : Char} (h : c.isLower = true) : clusterKind [c] = .lower :=
  forall_isLower (P := fun c => clusterKind [c] = .lower) (by decide) h

end StatusRegistry.Text
