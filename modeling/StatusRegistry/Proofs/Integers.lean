/-
StatusRegistry/Proofs/Integers.lean

Integers in text.  An integer of any size is written with decimal digits, any
zeros before them, and perhaps a sign (`IsSignedNumeral`).  The reader of status
codes has a reader of numbers only for 16 bits without a minus sign; whatever is
too large, or has the minus sign, goes on to be read as a title and as a name.

Main result: nothing comes of that (`parse_of_signedNumeral`).  An integer that is
read as a number is looked up as that number; every other integer is an unknown
name, which is reported with all of its digits, but without the minus sign, since
that is a hyphen and hyphens only separate words.

The digits pass through the reader of words unbroken: a word ends between a digit
and a letter, but never between two digits (`wordsFrom_of_isDigit`).  That an
integer is no name needs no such thing.  It has a digit, and names have none.
-/
import StatusRegistry.Proofs.Casing
import StatusRegistry.Proofs.Outcomes
import StatusRegistry.Proofs.Trimming

namespace StatusRegistry

namespace Text

/-! ### Characters of an integer -/

/-- The characters that an integer is written with. -/
def IsIntegerChar (c : Char) : Prop :=
  isDigit c = true ∨ c = '+' ∨ c = '-'

instance (c : Char) : Decidable (IsIntegerChar c) :=
  inferInstanceAs (Decidable (_ ∨ _ ∨ _))

theorem IsSignedNumeral.isIntegerChar {n : Int} {w : List Char} (h : IsSignedNumeral n w) :
    ∀ c ∈ w, IsIntegerChar c := by
  obtain ⟨ds, hds, hw⟩ := h.exists_digits
  have hdigits : ∀ c ∈ ds, IsIntegerChar c := fun c hc => .inl (hds.isDigit c hc)
  rcases hw with rfl | rfl | rfl
  · exact hdigits
  · exact List.forall_mem_cons.mpr ⟨.inr (.inl rfl), hdigits⟩
  · exact List.forall_mem_cons.mpr ⟨.inr (.inr rfl), hdigits⟩

/-- A property of the characters of integers is checked among the ASCII characters. -/
theorem forall_isIntegerChar {P : Char → Prop}
    (h : ∀ code : Nat, code < 0x80 → IsIntegerChar (Char.ofNat code) → P (Char.ofNat code))
    {c : Char} (hc : IsIntegerChar c) : P c := by
  have hascii : IsAscii c := by
    rcases hc with hd | rfl | rfl
    · exact isAscii_of_isDigit hd
    · decide
    · decide
  exact forall_ascii (P := fun c => IsIntegerChar c → P c) h hascii hc

theorem breakClass_of_isIntegerChar {c : Char} (h : IsIntegerChar c) : breakClass c = .other :=
  forall_isIntegerChar (P := fun c => breakClass c = .other) (by decide +kernel) h

theorem not_isWhiteSpace_of_isIntegerChar {c : Char} (h : IsIntegerChar c) :
    isWhiteSpace c = false :=
  forall_isIntegerChar (P := fun c => isWhiteSpace c = false) (by decide) h

theorem clusterKind_of_isDigit {d : Char} (h : isDigit d = true) : clusterKind [d] = .digit := by
  simp [clusterKind, separatesWords, isSeparator_of_isDigit h, h]

/-! ### The words of an integer -/

/-- A word begins at a digit only if a letter is before it. -/
theorem not_startsWord_digit {b : ClusterKind} (hu : b ≠ .upper) (hl : b ≠ .lower)
    (after : Option ClusterKind) : ¬ ClusterKind.startsWord (some b) .digit after = true := by
  cases b <;> simp_all [ClusterKind.startsWord, ClusterKind.changes]

/-- Where no word begins at a digit, all digits go into the word being read. -/
theorem wordsFrom_of_isDigit {before : Option ClusterKind} {ds : List Char}
    (hb : ∀ after, ¬ ClusterKind.startsWord before .digit after = true)
    (hds : ∀ d ∈ ds, isDigit d = true) : wordsFrom before (ds.map ([·])) = (ds, []) := by
  induction ds generalizing before with
  | nil => rfl
  | cons d ds ih =>
    obtain ⟨hd, hds⟩ := List.forall_mem_cons.mp hds
    have hkind := clusterKind_of_isDigit hd
    -- After the first digit there is always a digit before.
    have hnext : wordsFrom (some .digit) (ds.map ([·])) = (ds, []) :=
      ih (not_startsWord_digit (by decide) (by decide)) hds
    rw [List.map_cons, wordsFrom_cons_of_not_startsWord (by simp [hkind]) (by simp [hkind, hb]),
      hkind, hnext]
    rfl

/-- The text without a minus sign at its beginning. -/
def withoutMinus : List Char → List Char
  | '-' :: t => t
  | t => t

theorem withoutMinus_of_head?_ne {t : List Char} (h : t.head? ≠ some '-') : withoutMinus t = t := by
  unfold withoutMinus
  split
  · exact absurd rfl h
  · rfl

/-- An integer is one word, its minus sign left out. -/
theorem words_of_isSignedNumeral {n : Int} {w : List Char} (h : IsSignedNumeral n w) :
    words w = [withoutMinus w] := by
  have hclusters : clusters w = w.map ([·]) :=
    clusters_of_breakClass_other fun c hc => breakClass_of_isIntegerChar (h.isIntegerChar c hc)
  obtain ⟨ds, hds, hw⟩ := h.exists_digits
  have hne := hds.ne_nil
  have hdigits : ∀ d ∈ ds, isDigit d = true := hds.isDigit
  rw [words, hclusters]
  rcases hw with rfl | rfl | rfl
  · -- No sign: the digits are at the beginning of the text.
    have hread : wordsFrom none (w.map ([·])) = (w, []) :=
      wordsFrom_of_isDigit (fun after => by simp [ClusterKind.startsWord]) hdigits
    have hminus : w.head? ≠ some '-' := by
      intro hm
      cases hdigits '-' (List.mem_of_head? hm)
    simp [hread, hne, withoutMinus_of_head?_ne hminus]
  · -- A plus sign has no case and is no digit, so it goes into the word of the digits.
    have hread : wordsFrom (some .other) (ds.map ([·])) = (ds, []) :=
      wordsFrom_of_isDigit (not_startsWord_digit (by decide) (by decide)) hdigits
    have hplus : clusterKind ['+'] = .other := by decide
    rw [List.map_cons, wordsFrom_cons_of_not_startsWord (by simp [hplus])
      (by simp [ClusterKind.startsWord]), hplus, hread]
    rfl
  · -- A minus sign separates words; before it there is an empty one, which is dropped.
    have hread : wordsFrom (some .separator) (ds.map ([·])) = (ds, []) :=
      wordsFrom_of_isDigit (not_startsWord_separator .digit) hdigits
    rw [List.map_cons, wordsFrom_cons_of_separator (by decide), hread]
    simp [hne, withoutMinus]

theorem withoutMinus_subset (t : List Char) : withoutMinus t ⊆ t := by
  unfold withoutMinus
  split
  · exact List.subset_cons_self _ _
  · exact List.Subset.refl _

/-- The symbolic name of an integer is the integer without its minus sign. -/
theorem upperSnake_of_isSignedNumeral {n : Int} {w : List Char} (h : IsSignedNumeral n w) :
    upperSnake w = withoutMinus w := by
  have hfix : ∀ c ∈ withoutMinus w, upperChar c = [c] := by
    intro c hc
    exact forall_isIntegerChar (P := fun c => upperChar c = [c]) (by decide)
      (h.isIntegerChar c (withoutMinus_subset w hc))
  rw [upperSnake, words_of_isSignedNumeral h]
  show ['_'].intercalate [upper (withoutMinus w)] = withoutMinus w
  rw [List.intercalate_singleton, upper_eq_self hfix]

/-- An integer has no space in it or around it: it is trimmed, and all of it is the first word. -/
theorem IsSignedNumeral.one_word {n : Int} {w : List Char} (h : IsSignedNumeral n w) :
    trim w = w ∧ firstWord w = w ∧ remainder w = [] := by
  have hspace : ∀ c ∈ w, c ≠ ' ' := by
    rintro c hc rfl
    cases not_isWhiteSpace_of_isIntegerChar (h.isIntegerChar ' ' hc)
  refine ⟨trim_eq_self ?_, firstWord_eq_self hspace, remainder_eq_nil hspace⟩
  intro c hc
  exact not_isWhiteSpace_of_isIntegerChar (h.isIntegerChar c hc)

end Text

open Text

variable {n : Int} {s : String}

/-! ### Reading an integer -/

/-- The integers that the reader of 16-bit numbers accepts. -/
theorem isNumeral_iff_of_isSignedNumeral {w : List Char} (h : IsSignedNumeral n w) {v : UInt16} :
    IsNumeral v.toNat w ↔ '-' ∉ w ∧ (v.toNat : Int) = n := by
  constructor
  · intro hv
    exact ⟨hv.not_mem_minus, (IsSignedNumeral.unsigned hv).unique h⟩
  · rintro ⟨hm, hv⟩
    cases h with
    | unsigned h =>
      obtain rfl := Int.natCast_inj.mp hv
      exact h
    | negative => exact absurd List.mem_cons_self hm

/-- Such an integer is looked up as a value, and nothing else happens. -/
theorem parse_of_isNumeral {v : UInt16} (h : IsNumeral v.toNat s.toList) :
    parse s = fromValue v := by
  obtain ⟨htrim, hfirst, hrest⟩ := (IsSignedNumeral.unsigned h).one_word
  have hv : IsNumeral v.toNat (firstWord s.toList) := by rwa [hfirst]
  rw [parse, htrim]
  by_cases hc : ∃ c : StatusCode, c.value = v
  · obtain ⟨c, rfl⟩ := hc
    have ha : c.agreesWith s.toList = true := StatusCode.agreesWith_iff.mpr (.inl hrest)
    rw [fromValue_value]
    exact parseTrimmed_of_outcome (.value hv ha)
  · rw [fromValue_of_forall_ne (not_exists.mp hc)]
    exact parseTrimmed_of_outcome (.valueMiss hv (not_exists.mp hc))

/-- Any other integer is looked up as a name in vain. -/
theorem parse_of_not_isNumeral (h : IsSignedNumeral n s.toList)
    (hv : ∀ v : UInt16, ¬ IsNumeral v.toNat s.toList) :
    parse s =
      ⟨.error (.unknownName s), [.nameMiss (String.ofList (withoutMinus s.toList))]⟩ := by
  obtain ⟨htrim, hfirst, -⟩ := h.one_word
  have hn : ¬ StartsWithNumeral s.toList := by
    rintro ⟨v, hw⟩
    rw [hfirst] at hw
    exact hv v hw
  obtain ⟨d, hmem, hd⟩ := h.exists_digit
  rw [parse, htrim, parseTrimmed_of_outcome (outcome_of_isDigit hd hmem hn), symbolicName,
    upperSnake_of_isSignedNumeral h, String.ofList_toList]

/-- **An integer in text is never wrapped, clamped or stripped of its sign.**  Written without a
minus sign, an integer up to 65535 has the outcome and the events that it has as a number of 16 bits:
the code with this value, and no event, or the number as the value that is not registered.  Every
other integer is an unknown name; the error quotes it as it stands, and the one event has it without
the minus sign. -/
theorem parse_of_signedNumeral (h : IsSignedNumeral n s.toList) :
    ('-' ∉ s.toList ∧ n ≤ 65535 →
      ∃ v : UInt16, (v.toNat : Int) = n ∧ parse s = fromValue v ∧
        parse s = StatusCode.ofUInt16 v ∧
        (∀ c : StatusCode, c.value = v → parse s = ⟨.ok c, []⟩) ∧
        ((∀ c : StatusCode, c.value ≠ v) →
          parse s = ⟨.error (.unregisteredValue v), [.valueMiss v]⟩)) ∧
    ('-' ∈ s.toList ∨ 65535 < n →
      parse s =
        ⟨.error (.unknownName s), [.nameMiss (String.ofList (withoutMinus s.toList))]⟩) := by
  constructor
  · rintro ⟨hminus, hle⟩
    -- Nothing is lost in 16 bits, neither below zero nor above 65535.
    have hnonneg : 0 ≤ n := h.nonneg hminus
    have hval : ((UInt16.ofNat n.toNat).toNat : Int) = n := by
      rw [UInt16.toNat_ofNat_of_lt' (by change n.toNat < 65536; omega)]
      omega
    have hparse := parse_of_isNumeral
      ((isNumeral_iff_of_isSignedNumeral h).mpr ⟨hminus, hval⟩)
    refine ⟨UInt16.ofNat n.toNat, hval, hparse, hparse, ?_, ?_⟩
    · intro c hc
      rw [hparse, ← hc, fromValue_value]
    · intro hc
      rw [hparse, fromValue_of_forall_ne hc]
  · intro hout
    apply parse_of_not_isNumeral h
    intro v hv
    obtain ⟨hminus, hval⟩ := (isNumeral_iff_of_isSignedNumeral h).mp hv
    have hlt := v.toNat_lt
    rcases hout with hm | hlarge
    · exact hminus hm
    · omega

/-- A registered value with a sign and zeros, the value with the other sign, and the first number
that is too large. -/
theorem parse_of_integers :
    parse "+00404" = fromValue 404 ∧
    parse "-404" = ⟨.error (.unknownName "-404"), [.nameMiss "404"]⟩ ∧
    parse "065536" = ⟨.error (.unknownName "065536"), [.nameMiss "065536"]⟩ := by
  have hfound : IsSignedNumeral 404 "+00404".toList := .unsigned (.inr ⟨_, rfl, 2, rfl⟩)
  have hnegative : IsSignedNumeral (-404) "-404".toList := .negative ⟨0, rfl⟩
  have hlarge : IsSignedNumeral 65536 "065536".toList := .unsigned (.inl ⟨1, rfl⟩)
  refine ⟨?_, (parse_of_signedNumeral hnegative).2 (.inl (by decide)),
    (parse_of_signedNumeral hlarge).2 (.inr (by decide))⟩
  obtain ⟨v, hv, hparse, -⟩ := (parse_of_signedNumeral hfound).1 (by decide)
  obtain rfl : v = 404 := UInt16.toNat_inj.mp (Int.natCast_inj.mp hv)
  exact hparse

end StatusRegistry
