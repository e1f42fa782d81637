/-
StatusRegistry/Proofs/Unseparated.lean

What finding words keeps of a text.  `unseparated t` is the text `t` without its
separators, wherever they stand: between words, at the ends, or inside of a
larger cluster.

Main result: a text and the symbolic name that it spells have the same
uppercase letters in the same order, and differ in separators only
(`unseparated_upperSnake`).  The cut into clusters loses nothing, so all the
invariant has to say of a step of `wordsFrom` is that a cluster goes into the
words as it stands unless it is a lone separator, which the result does not
see.  Where words begin plays no part in it.
-/
import StatusRegistry.Proofs.Ascii

namespace StatusRegistry.Text

/-- The text without its spaces, hyphens and underscores. -/
def unseparated (t : List Char) : List Char :=
  t.filter (!isSeparator ·)

@[simp] theorem unseparated_nil : unseparated [] = [] := rfl

@[simp] theorem unseparated_append (s t : List Char) :
    unseparated (s ++ t) = unseparated s ++ unseparated t :=
  List.filter_append s t

@[simp] theorem unseparated_singleton {c : Char} (h : isSeparator c = true) :
    unseparated [c] = [] := by
  simp [unseparated, h]

theorem mem_unseparated {c : Char} {t : List Char} :
    c ∈ unseparated t ↔ c ∈ t ∧ isSeparator c = false := by
  simp [unseparated]

/-! ### Uppercase and separators -/

theorem unseparated_upperChar_of_isSeparator {c : Char} (h : isSeparator c = true) :
    unseparated (upperChar c) = [] := by
  rw [upperChar_of_isSeparator h, unseparated_singleton h]

/-- Separators may as well be left out before the text is mapped to uppercase. -/
theorem unseparated_upper_unseparated (t : List Char) :
    unseparated (upper (unseparated t)) = unseparated (upper t) := by
  induction t with
  | nil => rfl
  | cons c t ih =>
    rw [upper_cons, unseparated_append, ← ih]
    by_cases h : isSeparator c
    · rw [unseparated_upperChar_of_isSeparator h, List.nil_append]
      simp [unseparated, h]
    · rw [← unseparated_append, ← upper_cons]
      simp [unseparated, h]

/-- Texts that differ in separators and in the case of ASCII letters only are alike in uppercase. -/
theorem unseparated_upper_congr {s t : List Char}
    (h : unseparated (s.map Char.toLower) = unseparated (t.map Char.toLower)) :
    unseparated (upper s) = unseparated (upper t) := by
  rw [← upper_map_toLower s, ← unseparated_upper_unseparated, h, unseparated_upper_unseparated,
    upper_map_toLower]

/-- A digit of a text is found in its uppercase form. -/
theorem mem_unseparated_upper_of_isDigit {d : Char} {t : List Char} (hd : isDigit d = true)
    (h : d ∈ t) : d ∈ unseparated (upper t) := by
  refine mem_unseparated.mpr ⟨?_, isSeparator_of_isDigit hd⟩
  refine List.mem_flatMap.mpr ⟨d, h, ?_⟩
  rw [upperChar_of_isDigit hd]
  exact List.mem_singleton_self d

/-! ### Words -/

theorem clusterKind_eq_separator_iff {g : List Char} :
    clusterKind g = .separator ↔ separatesWords g = true := by
  grind [clusterKind]

theorem unseparated_upper_of_separator {g : List Char} (h : clusterKind g = .separator) :
    unseparated (upper g) = [] := by
  rw [clusterKind_eq_separator_iff] at h
  match g, h with
  | [c], h => simpa [upper] using unseparated_upperChar_of_isSeparator h

/-- Words joined by underscores, and words put one behind the other, differ in separators only. -/
theorem unseparated_intercalate (ws : List (List Char)) :
    unseparated (['_'].intercalate ws) = unseparated ws.flatten := by
  induction ws with
  | nil => rfl
  | cons w ws ih =>
    cases ws with
    | nil => simp
    | cons v ws =>
      rw [List.intercalate_cons_cons, unseparated_append, unseparated_append, ih]
      simp [unseparated_singleton (c := '_') rfl]

theorem upper_flatten (ws : List (List Char)) : upper ws.flatten = (ws.map upper).flatten := by
  induction ws with
  | nil => rfl
  | cons w ws ih => simp [ih]

theorem unseparated_wordsFrom (before : Option ClusterKind) (gs : List (List Char)) :
    unseparated (upper ((wordsFrom before gs).1 ++ (wordsFrom before gs).2.flatten)) =
      unseparated (upper gs.flatten) := by
  induction gs generalizing before with
  | nil => rfl
  | cons g gs ih =>
    -- The kind of the cluster before it decides where a word begins, but not what is in the words.
    have h := ih (some (clusterKind g))
    simp only [upper_append, unseparated_append] at h
    simp only [wordsFrom]
    split
    · next hg => simp [unseparated_upper_of_separator hg, h]
    · split <;> simp [h]

theorem unseparated_upper_words (t : List Char) :
    unseparated (upper (words t).flatten) = unseparated (upper t) := by
  have h := unseparated_wordsFrom none (clusters t)
  rw [flatten_clusters] at h
  rw [words, List.flatten_filter_not_isEmpty, List.flatten_cons, h]

/-- **A symbolic name keeps the letters of the text.**  No character is lost, added or moved, but
for separators. -/
theorem unseparated_upperSnake (t : List Char) :
    unseparated (upperSnake t) = unseparated (upper t) := by
  rw [upperSnake, unseparated_intercalate, ← upper_flatten, unseparated_upper_words]

end StatusRegistry.Text
