/-
StatusRegistry/Proofs/AsciiTexts.lean

The texts of ASCII characters that are accepted, described by how they are
written and not by how they are read.  A text stands for a code if it is

* its value, with any zeros before it and perhaps a plus sign, alone or followed
  by a space, more white space, and its title (`StatusCode.ValueForm`);
* its title, in any case;
* its name, spelled word by word (`StatusCode.NameForm`).

Main result: these are all, and the order in which the reader tries them neither
hides a text nor adds one (`parse_ascii_iff`).  White space at the ends of the
title would be trimmed, but there is none: the text was trimmed, and so are
titles.

Words of a name may abut where the case rises, and also where the second one is
capitalized: `IMUsed` is accepted although the case does not rise in it
(`imUsed_abuts_without_rise`).
-/
import StatusRegistry.Proofs.Readings
import StatusRegistry.Proofs.Spelling

namespace StatusRegistry

open Text

/-! ### Forms of a text -/

/-- The text is a numeral for the value of the code, or the numeral, a space, more white space, and
the title in any case. -/
def StatusCode.ValueForm (c : StatusCode) (t : List Char) : Prop :=
  IsNumeral c.value.toNat t ∨
  ∃ n a u, t = n ++ ' ' :: (a ++ u) ∧ IsNumeral c.value.toNat n ∧
    (∀ x ∈ a, (0x09 ≤ x.toNat ∧ x.toNat ≤ 0x0D) ∨ x = ' ') ∧ c.isTitled u = true

/-- The text spells the words of the code's name, where words may stand side by side as `abut`
allows. -/
def StatusCode.NameForm (abut : List Char → List Char → Prop) (c : StatusCode) (t : List Char) :
    Prop :=
  Spelled abut (c.name.toList.splitOn '_') t

/-! ### The reading of a value -/

/-- A title is trimmed, and so is what is equal to it up to case. -/
theorem trim_of_isTitled {c : StatusCode} {u : List Char} (h : c.isTitled u = true) :
    trim u = u := by
  have hl : c.title.toList.map Char.toLower = u.map Char.toLower := by
    simpa [StatusCode.isTitled, equalUpToAsciiCase] using h
  -- Trimming does not see case, so it takes as little away from `u` as from the title.
  have hlength : (trim u).length = u.length := by
    have htitle : trim c.title.toList = c.title.toList := c.entry_wellFormed.title_trimmed
    calc (trim u).length
        = (trim (u.map Char.toLower)).length := by rw [trim_map_toLower, List.length_map]
      _ = (trim c.title.toList).length := by rw [← hl, trim_map_toLower, List.length_map]
      _ = u.length := by rw [htitle, ← List.length_map Char.toLower, hl, List.length_map]
  obtain ⟨a, b, -, -, hu⟩ := exists_trim_append u
  have hsum := congrArg List.length hu
  rw [List.length_append, List.length_append] at hsum
  obtain rfl : a = [] := List.length_eq_zero_iff.mp (by omega)
  obtain rfl : b = [] := List.length_eq_zero_iff.mp (by omega)
  rw [List.nil_append, List.append_nil] at hu
  exact hu.symm

theorem isAscii_of_mem_trim {t : List Char} (ht : ∀ x ∈ t, IsAscii x) : ∀ x ∈ trim t, IsAscii x := by
  intro x hx
  obtain ⟨a, b, -, -, h⟩ := exists_trim_append t
  apply ht
  rw [h]
  exact List.mem_append_left b (List.mem_append_right a hx)

/-- White space after the first space of a trimmed text stands before the title. -/
theorem valueForm_of_gives {t : List Char} {c : StatusCode} (ht : ∀ x ∈ trim t, IsAscii x)
    (h : Reading.value.Gives (trim t) c) : c.ValueForm (trim t) := by
  obtain ⟨hv, hr⟩ := h
  rcases eq_firstWord_or_exists (trim t) with heq | ⟨r, heq, hrem⟩
  · rw [heq]
    exact .inl hv
  · obtain ⟨a, b, ha, hb, hsplit⟩ := exists_trim_append r
    rw [hsplit] at heq
    rcases hr with hnil | htitle
    · -- Only white space would follow the first word, which trimming has taken away.
      rw [hrem] at hnil
      have hspace : ∀ x ∈ ' ' :: (a ++ trim r ++ b), isWhiteSpace x = true := by
        rw [hnil, List.append_nil]
        exact List.forall_mem_cons.mpr ⟨rfl, List.forall_mem_append.mpr ⟨ha, hb⟩⟩
      cases eq_nil_of_trim_eq_append hspace heq
    · rw [hrem] at htitle
      have hend : trim t = (firstWord (trim t) ++ ' ' :: (a ++ trim r)) ++ b := by
        rw [List.append_assoc, List.cons_append]
        exact heq
      obtain rfl := eq_nil_of_trim_eq_append hb hend
      rw [List.append_nil] at heq
      refine .inr ⟨firstWord (trim t), a, trim r, heq, hv, ?_, htitle⟩
      intro x hx
      have hascii : IsAscii x := by
        apply ht
        rw [heq]
        simp [hx]
      exact (isWhiteSpace_iff_of_ascii hascii).mp (ha x hx)

theorem gives_of_valueForm {t : List Char} {c : StatusCode} (ht : ∀ x ∈ t, IsAscii x)
    (h : c.ValueForm t) : Reading.value.Gives t c := by
  rcases h with hv | ⟨n, a, u, rfl, hv, ha, htitle⟩
  · refine ⟨?_, .inl (remainder_eq_nil hv.ne_space)⟩
    rwa [firstWord_eq_self hv.ne_space]
  · have hspace : ∀ x ∈ a, isWhiteSpace x = true := by
      intro x hx
      have hascii : IsAscii x := ht x (by simp [hx])
      exact (isWhiteSpace_iff_of_ascii hascii).mpr (ha x hx)
    refine ⟨?_, .inr ?_⟩
    · rwa [firstWord_append_space hv.ne_space]
    · rwa [remainder_append_space hv.ne_space, trim_append_left hspace, trim_of_isTitled htitle]

/-! ### The reading of a name -/

/-- An ASCII text with the letters of a name has nothing else but separators. -/
theorem isPlain_of_spells {t : List Char} {c : StatusCode} (ht : ∀ x ∈ t, IsAscii x)
    (h : c.Spells t) : ∀ x ∈ t, IsPlain x := by
  intro x hx
  by_cases hsep : isSeparator x = true
  · exact .inr (.inr hsep)
  · have hascii := ht x hx
    have hsep' : isSeparator x.toUpper = false :=
      forall_ascii (P := fun x => ¬ isSeparator x = true → isSeparator x.toUpper = false)
        (by decide) hascii hsep
    -- In uppercase the character is one of the name's, and only letters become letters.
    have hmem : x.toUpper ∈ unseparated (upper t) := by
      refine mem_unseparated.mpr ⟨List.mem_flatMap.mpr ⟨x, hx, ?_⟩, hsep'⟩
      rw [upperChar_of_ascii hascii]
      exact List.mem_singleton_self _
    have hletters : unseparated (upper t) = unseparated c.name.toList := h
    rw [hletters] at hmem
    have hu : x.toUpper.isUpper = true := by
      rcases c.entry_wellFormed.name_letters _ (mem_unseparated.mp hmem).1 with hu | hunder
      · exact hu
      · rw [hunder] at hsep'
        cases hsep'
    exact forall_ascii (P := fun x => x.toUpper.isUpper = true → IsPlain x) (by decide) hascii hu

/-- An ASCII text has the name of a code if and only if it spells the words of the name. -/
theorem symbolicName_eq_iff {t : List Char} {c : StatusCode} (ht : ∀ x ∈ t, IsAscii x) :
    symbolicName t = c.name ↔ c.NameForm Abuts t := by
  have hwords : ∀ w ∈ c.name.toList.splitOn '_', IsWord w := c.entry_wellFormed.name_words
  have hname : symbolicName t = c.name ↔ upperSnake t = c.name.toList := by
    rw [symbolicName, ← String.toList_inj, String.toList_ofList]
  constructor
  · intro h
    have hplain := isPlain_of_spells ht (spells_of_symbolicName h)
    exact (upperSnake_eq_iff hplain hwords).mp (hname.mp h)
  · intro h
    exact hname.mpr ((upperSnake_eq_iff (isPlain_of_spelled h hwords) hwords).mpr h)

/-! ### The accepted texts -/

/-- **The accepted texts of ASCII characters.**  They are written in one of the three forms, and a
text that is written in one of them for a code is accepted as that code. -/
theorem parse_ascii_iff {s : String} (hs : ∀ x ∈ s.toList, IsAscii x) (c : StatusCode) :
    (parse s).value = .ok c ↔
      c.ValueForm (trim s.toList) ∨ c.isTitled (trim s.toList) = true ∨
        c.NameForm Abuts (trim s.toList) := by
  have ht := isAscii_of_mem_trim hs
  rw [parse_eq_ok_iff]
  constructor
  · rintro ⟨r, h⟩
    cases r with
    | value => exact .inl (valueForm_of_gives ht h)
    | title => exact .inr (.inl h)
    | name => exact .inr (.inr ((symbolicName_eq_iff ht).mp h))
  · rintro (hv | htitle | hn)
    · exact ⟨.value, gives_of_valueForm ht hv⟩
    · exact ⟨.title, htitle⟩
    · exact ⟨.name, (symbolicName_eq_iff ht).mpr hn⟩

/-- Separators around a name whose second word is capitalized and abuts the first. -/
theorem parse_imUsed : (parse "-_IMUsed-").value = .ok .imUsed := by
  have hascii : ∀ x ∈ "-_IMUsed-".toList, IsAscii x := by simp [IsAscii]
  have hbefore : ∀ x ∈ "-_".toList, isSeparator x = true := by simp [isSeparator]
  have hafter : ∀ x ∈ "-".toList, isSeparator x = true := by simp [isSeparator]
  refine (parse_ascii_iff hascii .imUsed).mpr (.inr (.inr ?_))
  refine ⟨["IM".toList, "Used".toList], ?_, "-_".toList, "IMUsed".toList, "-".toList, hbefore,
    hafter, ?_, by decide⟩
  · exact .cons ⟨.upper, rfl⟩ (.cons ⟨.capitalized, rfl⟩ .nil)
  · exact .cons (j := []) (.inr ⟨rfl, rfl, .inr rfl⟩) (.single _)

/-! ### Where words abut -/

theorem exists_digit_of_valueForm {c : StatusCode} {t : List Char} (h : c.ValueForm t) :
    ∃ d ∈ t, isDigit d = true := by
  rcases h with hv | ⟨n, a, u, rfl, hv, -, -⟩
  · exact hv.exists_digit
  · obtain ⟨d, hd, hdigit⟩ := hv.exists_digit
    exact ⟨d, List.mem_append_left _ hd, hdigit⟩

/-- Two words that make up a text without separators abut. -/
theorem abut_of_cut {abut : List Char → List Char → Prop} {V W t : List Char}
    (h : Cut abut [V, W] t) (ht : ∀ x ∈ t, ¬ isSeparator x = true) : t = V ++ W ∧ abut V W := by
  have hnil : ∀ {w : List Char}, (∀ x ∈ w, isSeparator x = true) →
      (∀ x ∈ w, ¬ isSeparator x = true) → w = [] := fun hw hnot =>
    List.eq_nil_iff_forall_not_mem.mpr fun x hx => hnot x hx (hw x hx)
  obtain ⟨a, u, b, ha, hb, hu, rfl⟩ := h
  cases hu with
  | @cons _ _ j _ _ hj hs =>
    cases hs
    obtain rfl := hnil ha fun x hx => ht x (by simp [hx])
    obtain rfl := hnil hb fun x hx => ht x (by simp [hx])
    rcases hj with ⟨hne, hj⟩ | ⟨rfl, habut⟩
    · exact absurd (hnil hj fun x hx => ht x (by simp [hx])) hne
    · exact ⟨by simp, habut⟩

/-- There is no way to write the two words so that the case rises between them. -/
theorem not_rises_in_imUsed {k k' : Casing}
    (h : Rises (k.write "IM".toList) (k'.write "USED".toList)) :
    "IMUsed".toList ≠ k.write "IM".toList ++ k'.write "USED".toList := by
  obtain ⟨hlast, -⟩ := h
  revert hlast
  cases k <;> cases k' <;> decide

/-- The case does not rise between the words of `IMUsed`, so if words could abut only where it does,
the text would have none of the three forms; but it is accepted. -/
theorem imUsed_abuts_without_rise :
    (∀ x ∈ "IMUsed".toList, IsAscii x) ∧ (parse "IMUsed").value = .ok .imUsed ∧
      ¬ (StatusCode.ValueForm .imUsed (trim "IMUsed".toList) ∨
        StatusCode.isTitled .imUsed (trim "IMUsed".toList) = true ∨
        StatusCode.NameForm Rises .imUsed (trim "IMUsed".toList)) := by
  have htrim : trim "IMUsed".toList = "IMUsed".toList := by decide
  have hname : symbolicName (trim "IMUsed".toList) = "IM_USED" := by decide +kernel
  refine ⟨by simp [IsAscii], parse_eq_ok_iff.mpr ⟨.name, hname⟩, ?_⟩
  rw [htrim]
  rintro (hv | htitle | ⟨Ws, hwrite, hcut⟩)
  · have hdigit : ¬ ∃ d ∈ "IMUsed".toList, isDigit d = true := by simp [isDigit]
    exact hdigit (exists_digit_of_valueForm hv)
  · revert htitle
    decide
  · have hwords : StatusCode.imUsed.name.toList.splitOn '_' = ["IM".toList, "USED".toList] := by
      decide
    have hsep : ∀ x ∈ "IMUsed".toList, ¬ isSeparator x = true := by simp [isSeparator]
    rw [hwords] at hwrite
    obtain _ | ⟨⟨k, rfl⟩, _ | ⟨⟨k', rfl⟩, ⟨⟩⟩⟩ := hwrite
    obtain ⟨heq, hrises⟩ := abut_of_cut hcut hsep
    exact not_rises_in_imUsed hrises heq

end StatusRegistry
