/-
StatusRegistry/Proofs/Padding.lean

White space around a text.  Here a text is `Blank` if all of its characters are
white space, each by its code point; that the spans which trimming goes by hold
the same characters is `isWhiteSpace_iff_mem_codes`.

What trimming does is said without it: the trimmed form of a text is the one
text from which no white space can be taken off and that becomes the given text
when white space is put around it (`trim_eq_iff`).  It does not matter how much
white space the given text had at its ends already, so more of it changes
nothing (`trim_of_padded`).

Main result: white space around a text is invisible when the text is read, in
the outcome and in what is reported; and a text that an error quotes has none of
it (`parse_of_padded`).
-/
import StatusRegistry.Proofs.Failures
import StatusRegistry.Proofs.Trimming

namespace StatusRegistry

open Text

namespace Text

/-! ### Blank texts -/

/-- The code points with the property `White_Space`, one by one. -/
def whiteSpaceCodes : List Nat :=
  [0x09, 0x0A, 0x0B, 0x0C, 0x0D, 0x20, 0x85, 0xA0, 0x1680, 0x2000, 0x2001, 0x2002, 0x2003, 0x2004,
   0x2005, 0x2006, 0x2007, 0x2008, 0x2009, 0x200A, 0x2028, 0x2029, 0x202F, 0x205F, 0x3000]

theorem isWhiteSpace_iff_mem_codes {c : Char} :
    isWhiteSpace c = true ↔ c.toNat ∈ whiteSpaceCodes := by
  constructor
  · exact forall_inSpans (P := fun c => c.toNat ∈ whiteSpaceCodes) (by decide)
  · intro h
    have hall : ∀ code ∈ whiteSpaceCodes, isWhiteSpace (Char.ofNat code) = true := by decide
    rw [← Char.ofNat_toNat c]
    exact hall c.toNat h

/-- The text is nothing but white space. -/
def Blank (w : List Char) : Prop :=
  ∀ c ∈ w, c.toNat ∈ whiteSpaceCodes

instance (w : List Char) : Decidable (Blank w) :=
  List.decidableBAll (fun c : Char => c.toNat ∈ whiteSpaceCodes) w

variable {t u a b : List Char}

theorem blank_iff : Blank u ↔ ∀ c ∈ u, isWhiteSpace c = true := by
  simp only [Blank, isWhiteSpace_iff_mem_codes]

/-! ### Trimmed forms -/

/-- No white space can be taken off the ends of the text. -/
def Unpadded (t : List Char) : Prop :=
  ∀ a u b, Blank a → Blank b → t = a ++ u ++ b → a = [] ∧ b = []

theorem trim_of_padded (ha : Blank a) (hb : Blank b) (t : List Char) :
    trim (a ++ t ++ b) = trim t := by
  rw [trim_append_right (blank_iff.mp hb), trim_append_left (blank_iff.mp ha)]

/-- A text is its trimmed form, padded. -/
theorem exists_padded (t : List Char) : ∃ a b, Blank a ∧ Blank b ∧ t = a ++ trim t ++ b := by
  obtain ⟨a, b, ha, hb, h⟩ := exists_trim_append t
  exact ⟨a, b, blank_iff.mpr ha, blank_iff.mpr hb, h⟩

theorem trim_trim (t : List Char) : trim (trim t) = trim t := by
  obtain ⟨a, b, ha, hb, h⟩ := exists_padded t
  conv_rhs => rw [h, trim_of_padded ha hb]

theorem length_trim_le (t : List Char) : (trim t).length ≤ t.length := by
  obtain ⟨a, b, -, -, h⟩ := exists_padded t
  have hlength := congrArg List.length h
  simp only [List.length_append] at hlength
  omega

theorem unpadded_trim (t : List Char) : Unpadded (trim t) := by
  intro a u b ha hb h
  -- Without `a` and `b` the trimmed form would be as short as `u`.
  have htrim : trim t = trim u := by
    rw [← trim_trim t, h, trim_of_padded ha hb]
  have hlength := congrArg List.length h
  have hle := length_trim_le u
  rw [htrim] at hlength
  simp only [List.length_append] at hlength
  exact ⟨List.length_eq_zero_iff.mp (by omega), List.length_eq_zero_iff.mp (by omega)⟩

/-- **The trimmed form of a text** is the one text without white space at its ends that the text is
a padding of. -/
theorem trim_eq_iff :
    trim t = u ↔ Unpadded u ∧ ∃ a b, Blank a ∧ Blank b ∧ t = a ++ u ++ b := by
  constructor
  · rintro rfl
    exact ⟨unpadded_trim t, exists_padded t⟩
  · rintro ⟨hu, a, b, ha, hb, rfl⟩
    -- What trimming would take off `u` is blank, so there is none of it.
    obtain ⟨a', b', ha', hb', h⟩ := exists_padded u
    obtain ⟨rfl, rfl⟩ := hu a' (trim u) b' ha' hb' h
    rw [trim_of_padded ha hb]
    simpa using h.symm

end Text

/-! ### Reading a padded text -/

/-- **White space around a text is invisible.**  With any white space before and after it, a text is
read as the same code or with the same error, and the same events are reported, whether or not it
had white space at its ends before.  What an error quotes of a text is never padded. -/
theorem parse_of_padded {before after : String} (hbefore : Blank before.toList)
    (hafter : Blank after.toList) (s : String) :
    parse (before ++ s ++ after) = parse s ∧
    ∀ p, (parse (before ++ s ++ after)).value = .error (.unknownName p) →
      Unpadded p.toList ∧ ∃ a b, Blank a ∧ Blank b ∧ s.toList = a ++ p.toList ++ b := by
  have hparse : parse (before ++ s ++ after) = parse s := by
    rw [parse, parse, String.toList_append, String.toList_append, trim_of_padded hbefore hafter]
  refine ⟨hparse, ?_⟩
  intro p hp
  rw [hparse] at hp
  rw [(parse_outcome s).text_of_unknownName hp, String.toList_ofList]
  exact trim_eq_iff.mp rfl

/-- A value with a title that is not its own, and a space at either end; around it a tab, an
ideographic space and a line separator. -/
theorem parse_of_padded_teapot :
    parse ("\t\u3000" ++ " 404 Teapot " ++ "\u2028") = parse " 404 Teapot " ∧
    Unpadded "404 Teapot".toList := by
  have hbefore : Blank "\t\u3000".toList := by decide
  have hafter : Blank "\u2028".toList := by decide
  obtain ⟨hparse, hquote⟩ := parse_of_padded hbefore hafter " 404 Teapot "
  refine ⟨hparse, (hquote "404 Teapot" ?_).1⟩
  rw [hparse]
  decide +kernel

end StatusRegistry
