/-
StatusRegistry/Proofs/Outcomes.lean

The six ways in which reading a text can end, each with what the text has to be
like for it and with what is reported (`Outcome`).

Main result: a text is read in exactly one of them (`parseTrimmed_eq_iff`).
That the six leave nothing out is a matter of the text alone; what the reader
does in each of them is computed.  This is the only place where the reader is
opened: whatever is proved of all texts goes through the six cases.

Beside the cases stands what keeps them apart from one another.  A text that is
a title, or that spells a name word by word, has the letters of the name
(`StatusCode.Spells`); no two names have the same letters, and none has a digit,
as every numeral has.
-/
import Mathlib.Data.List.TakeWhile
import StatusRegistry.Proofs.Numerals
import StatusRegistry.Proofs.Registry

namespace StatusRegistry

open Text

/-! ### The first word and the rest -/

theorem firstWord_eq_self {n : List Char} (hn : ∀ x ∈ n, x ≠ ' ') : firstWord n = n :=
  List.takeWhile_eq_self_iff.mpr (by simpa using hn)

theorem remainder_eq_nil {n : List Char} (hn : ∀ x ∈ n, x ≠ ' ') : remainder n = [] := by
  have hdrop : n.dropWhile (· ≠ ' ') = [] := List.dropWhile_eq_nil_iff.mpr (by simpa using hn)
  rw [remainder, hdrop]
  rfl

theorem firstWord_append_space {n : List Char} (hn : ∀ x ∈ n, x ≠ ' ') (r : List Char) :
    firstWord (n ++ ' ' :: r) = n := by
  rw [firstWord, List.takeWhile_append_of_pos (by simpa using hn)]
  simp

theorem remainder_append_space {n : List Char} (hn : ∀ x ∈ n, x ≠ ' ') (r : List Char) :
    remainder (n ++ ' ' :: r) = trim r := by
  rw [remainder, List.dropWhile_append_of_pos (by simpa using hn)]
  simp

/-- A text has one word only, or a space after the first. -/
theorem eq_firstWord_or_exists (t : List Char) :
    t = firstWord t ∨ ∃ r, t = firstWord t ++ ' ' :: r ∧ remainder t = trim r := by
  have ht : t = firstWord t ++ t.dropWhile (· ≠ ' ') := List.takeWhile_append_dropWhile.symm
  rcases hd : t.dropWhile (· ≠ ' ') with - | ⟨x, r⟩
  · rw [hd, List.append_nil] at ht
    exact .inl ht
  · have hx : x = ' ' := by
      have h := List.head?_dropWhile_not (· ≠ ' ') t
      rw [hd] at h
      simpa using h
    subst hx
    refine .inr ⟨r, by rw [← hd]; exact ht, ?_⟩
    rw [remainder, hd]
    rfl

/-! ### Parts of a text -/

/-- The first word of the text is a numeral that fits 16 bits, registered or not. -/
def StartsWithNumeral (t : List Char) : Prop :=
  ∃ v : UInt16, IsNumeral v.toNat (firstWord t)

/-- The text has the letters of the code's name, in any case, in the same order. -/
def StatusCode.Spells (c : StatusCode) (t : List Char) : Prop :=
  unseparated (upper t) = unseparated c.name.toList

theorem readValue?_eq_some_iff {t : List Char} {v : UInt16} :
    readValue? t = some v ↔ IsNumeral v.toNat (firstWord t) :=
  readUInt16?_eq_some_iff

theorem readValue?_eq_none_iff {t : List Char} : readValue? t = none ↔ ¬ StartsWithNumeral t := by
  simp [Option.eq_none_iff_forall_ne_some, readValue?_eq_some_iff, StartsWithNumeral]

theorem StatusCode.agreesWith_iff {c : StatusCode} {t : List Char} :
    c.agreesWith t = true ↔ remainder t = [] ∨ c.isTitled (remainder t) = true := by
  simp [StatusCode.agreesWith]

theorem value_eq_of_isNumeral {v w : UInt16} {t : List Char} (hv : IsNumeral v.toNat t)
    (hw : IsNumeral w.toNat t) : v = w :=
  UInt16.toNat_inj.mp (hv.unique hw)

theorem spells_of_isTitled {c : StatusCode} {t : List Char} (h : c.isTitled t = true) :
    c.Spells t :=
  StatusCode.unseparated_upper_of_isTitled h

theorem unseparated_symbolicName (t : List Char) :
    unseparated (symbolicName t).toList = unseparated (upper t) := by
  rw [symbolicName, String.toList_ofList, unseparated_upperSnake]

theorem spells_of_symbolicName {c : StatusCode} {t : List Char} (h : symbolicName t = c.name) :
    c.Spells t := by
  rw [StatusCode.Spells, ← h, unseparated_symbolicName]

theorem spells_unique {c d : StatusCode} {t : List Char} (hc : c.Spells t) (hd : d.Spells t) :
    c = d :=
  StatusCode.unseparated_name_injective (hc.symm.trans hd)

/-- A text with a digit spells no name, because names have none. -/
theorem not_spells_of_isDigit {d : Char} {t : List Char} (hd : isDigit d = true) (hmem : d ∈ t)
    (c : StatusCode) : ¬ c.Spells t := by
  intro h
  -- The digit would show up in the uppercase form, and so in the name.
  have hup : d ∈ unseparated (upper t) := mem_unseparated_upper_of_isDigit hd hmem
  have hletters : unseparated (upper t) = unseparated c.name.toList := h
  rw [hletters] at hup
  exact StatusCode.not_mem_name_of_isDigit hd c (mem_unseparated.mp hup).1

/-- A text that spells a name begins with no numeral. -/
theorem not_startsWithNumeral_of_spells {c : StatusCode} {t : List Char} (h : c.Spells t) :
    ¬ StartsWithNumeral t := by
  rintro ⟨v, hv⟩
  obtain ⟨d, hmem, hd⟩ := hv.exists_digit
  exact not_spells_of_isDigit hd ((List.takeWhile_sublist _).mem hmem) c h

/-! ### Outcomes -/

/-- `Outcome t r`: reading the trimmed text `t` may end in `r`. -/
inductive Outcome (t : List Char) : Logged (Except LookupError StatusCode) → Prop
  /-- The first word is the value of a code, and what follows agrees with it. -/
  | value {c : StatusCode} (hv : IsNumeral c.value.toNat (firstWord t))
      (ha : c.agreesWith t = true) : Outcome t ⟨.ok c, []⟩
  /-- The first word is the value of a code, but what follows is not its title. -/
  | titleMismatch {c : StatusCode} (hv : IsNumeral c.value.toNat (firstWord t))
      (ha : ¬ c.agreesWith t = true) : Outcome t ⟨.error (.unknownName (String.ofList t)), []⟩
  /-- The first word is a number, but the value of no code. -/
  | valueMiss {v : UInt16} (hv : IsNumeral v.toNat (firstWord t))
      (hc : ∀ c : StatusCode, c.value ≠ v) :
      Outcome t ⟨.error (.unregisteredValue v), [.valueMiss v]⟩
  /-- The text is the title of a code. -/
  | title {c : StatusCode} (hn : ¬ StartsWithNumeral t) (ht : c.isTitled t = true) :
      Outcome t ⟨.ok c, []⟩
  /-- The text spells the name of a code, word by word. -/
  | name {c : StatusCode} (hn : ¬ StartsWithNumeral t)
      (ht : ∀ d : StatusCode, ¬ d.isTitled t = true) (hs : symbolicName t = c.name) :
      Outcome t ⟨.ok c, []⟩
  /-- The text is none of these. -/
  | nameMiss (hn : ¬ StartsWithNumeral t) (ht : ∀ d : StatusCode, ¬ d.isTitled t = true)
      (hs : ∀ d : StatusCode, d.name ≠ symbolicName t) :
      Outcome t ⟨.error (.unknownName (String.ofList t)), [.nameMiss (symbolicName t)]⟩

/-- The six cases leave nothing out. -/
theorem exists_outcome (t : List Char) : ∃ r, Outcome t r := by
  by_cases hn : StartsWithNumeral t
  · obtain ⟨v, hv⟩ := hn
    rcases hc : StatusCode.ofValue? v with - | c
    · exact ⟨_, .valueMiss hv (StatusCode.ofValue?_eq_none_iff.mp hc)⟩
    · -- The value of a code is read; what follows it decides.
      obtain rfl := StatusCode.ofValue?_eq_some_iff.mp hc
      by_cases ha : c.agreesWith t = true
      · exact ⟨_, .value hv ha⟩
      · exact ⟨_, .titleMismatch hv ha⟩
  · rcases ht : StatusCode.ofTitle? t with - | c
    · have ht' := StatusCode.ofTitle?_eq_none_iff.mp ht
      rcases hs : StatusCode.ofName? (symbolicName t) with - | c
      · exact ⟨_, .nameMiss hn ht' (StatusCode.ofName?_eq_none_iff.mp hs)⟩
      · exact ⟨_, .name hn ht' (StatusCode.ofName?_eq_some_iff.mp hs).symm⟩
    · exact ⟨_, .title hn (StatusCode.ofTitle?_eq_some_iff.mp ht)⟩

/-- What the reader does with a text whose first word is the value of a code. -/
theorem parseTrimmed_of_value {c : StatusCode} {t : List Char}
    (hv : IsNumeral c.value.toNat (firstWord t)) :
    parseTrimmed t =
      ⟨if c.agreesWith t = true then .ok c else .error (.unknownName (String.ofList t)), []⟩ := by
  simp only [parseTrimmed, readValue?_eq_some_iff.mpr hv, StatusCode.ofUInt16, fromValue_value]
  rfl

/-- What the reader does with a text that is no value and no title. -/
theorem parseTrimmed_of_name {t : List Char} (hn : ¬ StartsWithNumeral t)
    (ht : ∀ d : StatusCode, ¬ d.isTitled t = true) :
    parseTrimmed t =
      (·.mapError fun _ => .unknownName (String.ofList t)) <$> lookup (symbolicName t) := by
  simp only [parseTrimmed, readValue?_eq_none_iff.mpr hn, StatusCode.ofTitle?_eq_none_iff.mpr ht]
  rfl

theorem parseTrimmed_of_outcome {t : List Char} {r : Logged (Except LookupError StatusCode)}
    (h : Outcome t r) : parseTrimmed t = r := by
  cases h with
  | value hv ha => rw [parseTrimmed_of_value hv, if_pos ha]
  | titleMismatch hv ha => rw [parseTrimmed_of_value hv, if_neg ha]
  | valueMiss hv hc =>
    simp only [parseTrimmed, readValue?_eq_some_iff.mpr hv, StatusCode.ofUInt16,
      fromValue_of_forall_ne hc]
    rfl
  | title hn ht =>
    simp only [parseTrimmed, readValue?_eq_none_iff.mpr hn, StatusCode.ofTitle?_eq_some_iff.mpr ht]
    rfl
  | name hn ht hs =>
    rw [parseTrimmed_of_name hn ht, hs, lookup_name]
    rfl
  | nameMiss hn ht hs =>
    rw [parseTrimmed_of_name hn ht, lookup_of_forall_ne hs]
    rfl

/-- **A text is read in exactly one of the six ways.** -/
theorem parseTrimmed_eq_iff {t : List Char} {r : Logged (Except LookupError StatusCode)} :
    parseTrimmed t = r ↔ Outcome t r := by
  refine ⟨?_, parseTrimmed_of_outcome⟩
  rintro rfl
  obtain ⟨r, h⟩ := exists_outcome t
  rwa [parseTrimmed_of_outcome h]

/-- A text with a digit in it is no name, so if it begins with no numeral it is not read at all. -/
theorem outcome_of_isDigit {d : Char} {t : List Char} (hd : isDigit d = true) (hmem : d ∈ t)
    (hn : ¬ StartsWithNumeral t) :
    Outcome t ⟨.error (.unknownName (String.ofList t)), [.nameMiss (symbolicName t)]⟩ := by
  have hspells : ∀ c : StatusCode, ¬ c.Spells t := not_spells_of_isDigit hd hmem
  exact .nameMiss hn (fun c hc => hspells c (spells_of_isTitled hc))
    (fun c hc => hspells c (spells_of_symbolicName hc.symm))

theorem parse_outcome (s : String) : Outcome (trim s.toList) (parse s) :=
  parseTrimmed_eq_iff.mp rfl

end StatusRegistry
