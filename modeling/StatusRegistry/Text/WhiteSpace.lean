/-
StatusRegistry/Text/WhiteSpace.lean

The Unicode property `White_Space` and trimming.  Trimming removes the longest
run of white space at either end, so white space added at the ends of a text is
never seen again (`trim_append_left`, `trim_append_right`).
-/
import StatusRegistry.Text.Span

namespace StatusRegistry.Text

/-- The 25 characters with the property `White_Space`. -/
def whiteSpaceSpans : List Span :=
  [⟨0x09, 0x0D⟩, ⟨0x20, 0x20⟩, ⟨0x85, 0x85⟩, ⟨0xA0, 0xA0⟩, ⟨0x1680, 0x1680⟩, ⟨0x2000, 0x200A⟩,
   ⟨0x2028, 0x2029⟩, ⟨0x202F, 0x202F⟩, ⟨0x205F, 0x205F⟩, ⟨0x3000, 0x3000⟩]

/-- Whether the character has the property `White_Space`. -/
def isWhiteSpace (c : Char) : Bool :=
  inSpans whiteSpaceSpans c

/-- The text without the white space at its beginning. -/
def trimStart (t : List Char) : List Char :=
  t.dropWhile isWhiteSpace

/-- The text without the white space at its end. -/
def trimEnd (t : List Char) : List Char :=
  (t.reverse.dropWhile isWhiteSpace).reverse

/-- The text without the white space at its two ends. -/
def trim (t : List Char) : List Char :=
  trimEnd (trimStart t)

/-! ### White space at the ends -/

theorem trimStart_eq_nil {w : List Char} (h : ∀ c ∈ w, isWhiteSpace c = true) :
    trimStart w = [] := by
  have hw : (w ++ []).dropWhile isWhiteSpace = [] := List.dropWhile_append_of_pos h
  simpa [trimStart] using hw

theorem forall_of_trimStart_eq_nil {w : List Char} (h : trimStart w = []) :
    ∀ c ∈ w, isWhiteSpace c = true := by
  have hw : w.takeWhile isWhiteSpace ++ w.dropWhile isWhiteSpace = w :=
    List.takeWhile_append_dropWhile
  rw [show w.dropWhile isWhiteSpace = [] from h, List.append_nil] at hw
  exact hw ▸ List.all_eq_true.mp List.all_takeWhile

theorem trimStart_append_left {w : List Char} (h : ∀ c ∈ w, isWhiteSpace c = true)
    (t : List Char) : trimStart (w ++ t) = trimStart t :=
  List.dropWhile_append_of_pos h

theorem trimEnd_append_right {w : List Char} (h : ∀ c ∈ w, isWhiteSpace c = true)
    (t : List Char) : trimEnd (t ++ w) = trimEnd t := by
  have hw : ∀ c ∈ w.reverse, isWhiteSpace c = true := by simpa using h
  simp [trimEnd, List.dropWhile_append_of_pos hw]

theorem trimStart_append {t : List Char} (ht : trimStart t ≠ []) (w : List Char) :
    trimStart (t ++ w) = trimStart t ++ w := by
  simp_all [trimStart, List.dropWhile_append, List.isEmpty_iff]

theorem trim_append_left {w : List Char} (h : ∀ c ∈ w, isWhiteSpace c = true) (t : List Char) :
    trim (w ++ t) = trim t := by
  rw [trim, trimStart_append_left h, trim]

theorem trim_append_right {w : List Char} (h : ∀ c ∈ w, isWhiteSpace c = true) (t : List Char) :
    trim (t ++ w) = trim t := by
  by_cases ht : trimStart t = []
  · have hb := forall_of_trimStart_eq_nil ht
    rw [trim, trimStart_append_left hb, trimStart_eq_nil h, trim, ht]
  · rw [trim, trimStart_append ht, trimEnd_append_right h, trim]

end StatusRegistry.Text
