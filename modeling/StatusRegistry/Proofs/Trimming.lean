/-
StatusRegistry/Proofs/Trimming.lean

What trimming leaves and what it takes away.  A text is its trimmed form with
white space before and after it (`exists_trim_append`), and a trimmed text does
not end with white space (`eq_nil_of_trim_eq_append`).  Trimming does not see
the case of letters (`trim_map_toLower`), and white space has no case
(`upperChar_of_isWhiteSpace`).

White space is a property given by spans.  A fact about all characters of a few
narrow spans is checked code point by code point (`forall_inSpans`), as is a
fact about ASCII.
-/
import Mathlib.Data.List.DropRight
import StatusRegistry.Proofs.Unseparated

namespace StatusRegistry.Text

/-! ### White space -/

/-- The code points of a span. -/
def Span.codePoints (s : Span) : List Nat :=
  List.range' s.first (s.last + 1 - s.first)

/-- A property of all characters of some spans is checked code point by code point. -/
theorem forall_inSpans {spans : List Span} {P : Char → Prop}
    (h : ∀ s ∈ spans, ∀ code ∈ s.codePoints, P (Char.ofNat code)) {c : Char}
    (hc : inSpans spans c = true) : P c := by
  obtain ⟨s, hs, hfirst, hlast⟩ := inSpans_eq_true_iff.mp hc
  rw [← Char.ofNat_toNat c]
  refine h s hs c.toNat (List.mem_range'_1.mpr ⟨hfirst, ?_⟩)
  omega

theorem upperChar_of_isWhiteSpace {c : Char} (h : isWhiteSpace c = true) : upperChar c = [c] :=
  forall_inSpans (P := fun c => upperChar c = [c]) (by decide +kernel) h

theorem upper_of_isWhiteSpace {w : List Char} (h : ∀ c ∈ w, isWhiteSpace c = true) :
    upper w = w :=
  upper_eq_self fun c hc => upperChar_of_isWhiteSpace (h c hc)

/-- The white space of ASCII: the controls from tab to carriage return, and the space. -/
theorem isWhiteSpace_iff_of_ascii {c : Char} (h : IsAscii c) :
    isWhiteSpace c = true ↔ (0x09 ≤ c.toNat ∧ c.toNat ≤ 0x0D) ∨ c = ' ' :=
  forall_ascii (P := fun c => isWhiteSpace c = true ↔
    (0x09 ≤ c.toNat ∧ c.toNat ≤ 0x0D) ∨ c = ' ') (by decide) h

/-! ### Trimming -/

theorem trimEnd_eq_rdropWhile (t : List Char) : trimEnd t = t.rdropWhile isWhiteSpace := rfl

/-- A text is its trimmed form between two runs of white space. -/
theorem exists_trim_append (t : List Char) :
    ∃ a b, (∀ c ∈ a, isWhiteSpace c = true) ∧ (∀ c ∈ b, isWhiteSpace c = true) ∧
      t = a ++ trim t ++ b := by
  refine ⟨t.takeWhile isWhiteSpace, (trimStart t).rtakeWhile isWhiteSpace,
    fun c => List.mem_takeWhile_imp, fun c => List.mem_rtakeWhile_imp, ?_⟩
  rw [trim, trimEnd_eq_rdropWhile, List.append_assoc, List.rdropWhile_append_rtakeWhile]
  exact List.takeWhile_append_dropWhile.symm

/-- A text without white space is trimmed. -/
theorem trim_eq_self {t : List Char} (h : ∀ c ∈ t, isWhiteSpace c = false) : trim t = t := by
  have hstart : trimStart t = t := by
    cases t with
    | nil => rfl
    | cons c t => exact List.dropWhile_cons_of_neg (by simp [h c])
  rw [trim, hstart, trimEnd_eq_rdropWhile, List.rdropWhile_eq_self_iff]
  intro hne
  simp [h _ (List.getLast_mem hne)]

/-- A trimmed text does not end with white space. -/
theorem eq_nil_of_trim_eq_append {t x b : List Char} (hb : ∀ c ∈ b, isWhiteSpace c = true)
    (h : trim t = x ++ b) : b = [] := by
  -- Trimmed once more, the text loses `b`, but it loses nothing.
  have hx : trimEnd x = x ++ b := by
    rw [← trimEnd_append_right hb, ← h, trim]
    exact List.rdropWhile_idempotent isWhiteSpace (trimStart t)
  have hle : (trimEnd x).length ≤ x.length :=
    (List.rdropWhile_prefix isWhiteSpace x).length_le
  rw [hx, List.length_append] at hle
  exact List.length_eq_zero_iff.mp (by omega)

theorem trim_map_toLower (t : List Char) :
    trim (t.map Char.toLower) = (trim t).map Char.toLower := by
  have hw : isWhiteSpace ∘ Char.toLower = isWhiteSpace := funext isWhiteSpace_toLower
  simp only [trim, trimStart, trimEnd, ← List.map_reverse, List.dropWhile_map, hw]

/-- Trimming takes no letters away: what is left of the text and of its trimmed form without
separators and white space is the same. -/
theorem filter_unseparated_upper_trim (t : List Char) :
    (unseparated (upper (trim t))).filter (!isWhiteSpace ·) =
      (unseparated (upper t)).filter (!isWhiteSpace ·) := by
  have hw : ∀ {w : List Char}, (∀ c ∈ w, isWhiteSpace c = true) →
      (unseparated (upper w)).filter (!isWhiteSpace ·) = [] := by
    intro w hw
    rw [upper_of_isWhiteSpace hw, List.filter_eq_nil_iff]
    intro c hc
    simp [hw c (mem_unseparated.mp hc).1]
  obtain ⟨a, b, ha, hb, h⟩ := exists_trim_append t
  conv_rhs => rw [h]
  simp only [upper_append, unseparated_append, List.filter_append, hw ha, hw hb, List.nil_append,
    List.append_nil]

end StatusRegistry.Text
