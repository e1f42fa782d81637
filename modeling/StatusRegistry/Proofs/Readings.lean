/-
StatusRegistry/Proofs/Readings.lean

A text can be read as a value, as a title, or as a symbolic name, and what each
reading makes of it can be said without the other two (`Reading.Gives`).  The
reader tries them one after the other, and stops at the first word if that is a
numeral.

Main results: the readings never disagree, so a text is accepted if and only if
one of them gives a code, in whatever order they are tried
(`readings_never_compete`); and a text that is accepted without a numeral has
the letters of the code that it stands for, so that texts of the same letters
stand for the same code (`letters_of_accepted`).

Both rest on `StatusCode.Spells`.  A title and a name are spelled letter by
letter, and the letters identify the code; a numeral has a digit, so it is never
read in another way.
-/
import StatusRegistry.Proofs.Outcomes
import StatusRegistry.Proofs.Trimming

namespace StatusRegistry

open Text

/-! ### The three readings -/

/-- The ways to read a text. -/
inductive Reading where
  | value
  | title
  | name
deriving DecidableEq, Repr

/-- `r.Gives t c`: read in the way `r`, the trimmed text `t` stands for the code `c`. -/
def Reading.Gives (r : Reading) (t : List Char) (c : StatusCode) : Prop :=
  match r with
  | value => IsNumeral c.value.toNat (firstWord t) ∧
      (remainder t = [] ∨ c.isTitled (remainder t) = true)
  | title => c.isTitled t = true
  | name => symbolicName t = c.name

/-- The readings are tried in the order of the list, and the first that gives a code gives `c`. -/
inductive FirstGiven (t : List Char) : List Reading → StatusCode → Prop
  | here {r : Reading} {rs : List Reading} {c : StatusCode} (h : r.Gives t c) :
      FirstGiven t (r :: rs) c
  | later {r : Reading} {rs : List Reading} {c : StatusCode} (hr : ∀ d, ¬ r.Gives t d)
      (h : FirstGiven t rs c) : FirstGiven t (r :: rs) c

/-! ### No two readings disagree -/

/-- A reading that gives a code sees its value first, or spells its name. -/
theorem Reading.Gives.isNumeral_or_spells {r : Reading} {t : List Char} {c : StatusCode}
    (h : r.Gives t c) : IsNumeral c.value.toNat (firstWord t) ∨ c.Spells t := by
  cases r with
  | value => exact .inl h.1
  | title => exact .inr (spells_of_isTitled h)
  | name => exact .inr (spells_of_symbolicName h)

theorem Reading.Gives.unique {r r' : Reading} {t : List Char} {c d : StatusCode}
    (hc : r.Gives t c) (hd : r'.Gives t d) : c = d := by
  rcases hc.isNumeral_or_spells with hv | hs <;> rcases hd.isNumeral_or_spells with hv' | hs'
  · exact StatusCode.value_injective (value_eq_of_isNumeral hv hv')
  · exact absurd ⟨_, hv⟩ (not_startsWithNumeral_of_spells hs')
  · exact absurd ⟨_, hv'⟩ (not_startsWithNumeral_of_spells hs)
  · exact spells_unique hs hs'

/-- If no two of the readings disagree, the order in which they are tried does not matter. -/
theorem firstGiven_iff {t : List Char} {rs : List Reading} {c : StatusCode} :
    FirstGiven t rs c ↔ ∃ r ∈ rs, r.Gives t c := by
  constructor
  · intro h
    induction h with
    | here h => exact ⟨_, List.mem_cons_self, h⟩
    | later _ _ ih =>
      obtain ⟨r, hr, hc⟩ := ih
      exact ⟨r, List.mem_cons_of_mem _ hr, hc⟩
  · rintro ⟨r, hr, hc⟩
    induction rs with
    | nil => cases hr
    | cons r' rs ih =>
      -- If the first reading of the list gives a code, it gives the same one.
      by_cases hg : ∃ d, r'.Gives t d
      · obtain ⟨d, hd⟩ := hg
        exact hc.unique hd ▸ .here hd
      · rcases List.mem_cons.mp hr with rfl | hr
        · exact absurd ⟨c, hc⟩ hg
        · exact .later (not_exists.mp hg) (ih hr)

/-! ### What is accepted -/

/-- A text on which a reading gives a code is accepted, as that code. -/
theorem Reading.Gives.outcome {r : Reading} {t : List Char} {c : StatusCode} (h : r.Gives t c) :
    Outcome t ⟨.ok c, []⟩ := by
  cases r with
  | value => exact .value h.1 (StatusCode.agreesWith_iff.mpr h.2)
  | title => exact .title (not_startsWithNumeral_of_spells (spells_of_isTitled h)) h
  | name =>
    have hn := not_startsWithNumeral_of_spells (spells_of_symbolicName h)
    by_cases ht : ∃ d : StatusCode, d.isTitled t = true
    · -- The text is also a title, which is tried first; it is the title of the same code.
      obtain ⟨d, hd⟩ := ht
      obtain rfl := spells_unique (spells_of_isTitled hd) (spells_of_symbolicName h)
      exact .title hn hd
    · exact .name hn (not_exists.mp ht) h

theorem parse_eq_ok_iff {s : String} {c : StatusCode} :
    (parse s).value = .ok c ↔ ∃ r : Reading, r.Gives (trim s.toList) c := by
  constructor
  · intro h
    have ho := parse_outcome s
    generalize parse s = r at ho h
    cases ho with
    | value hv ha =>
      cases h
      exact ⟨.value, hv, StatusCode.agreesWith_iff.mp ha⟩
    | title hn ht =>
      cases h
      exact ⟨.title, ht⟩
    | name hn ht hs =>
      cases h
      exact ⟨.name, hs⟩
    | titleMismatch hv ha => cases h
    | valueMiss hv hc => cases h
    | nameMiss hn ht hs => cases h
  · rintro ⟨r, h⟩
    rw [parse, parseTrimmed_eq_iff.mpr h.outcome]

/-- **The readings never compete.**  No two of them give different codes; where the first word is a
numeral, registered or not, only the first can give one; so a text stands for the code that any
reading gives it, and the order of the readings plays no part. -/
theorem readings_never_compete (s : String) :
    (∀ (r r' : Reading) (c d : StatusCode),
      r.Gives (trim s.toList) c → r'.Gives (trim s.toList) d → c = d) ∧
    (StartsWithNumeral (trim s.toList) → ∀ c : StatusCode,
      ¬ Reading.title.Gives (trim s.toList) c ∧ ¬ Reading.name.Gives (trim s.toList) c) ∧
    (∀ c : StatusCode,
      (parse s).value = .ok c ↔ ∃ r : Reading, r.Gives (trim s.toList) c) ∧
    (∀ order : List Reading, (∀ r, r ∈ order) → ∀ c : StatusCode,
      (parse s).value = .ok c ↔ FirstGiven (trim s.toList) order c) := by
  refine ⟨?_, ?_, ?_, ?_⟩
  · intro r r' c d hc hd
    exact hc.unique hd
  · intro hn c
    constructor
    · intro h
      exact not_startsWithNumeral_of_spells (spells_of_isTitled h) hn
    · intro h
      exact not_startsWithNumeral_of_spells (spells_of_symbolicName h) hn
  · intro c
    exact parse_eq_ok_iff
  · intro order horder c
    rw [parse_eq_ok_iff, firstGiven_iff]
    constructor
    · rintro ⟨r, h⟩
      exact ⟨r, horder r, h⟩
    · rintro ⟨r, -, h⟩
      exact ⟨r, h⟩

/-- The readings of a title, which is a spelling of the name too, and of a value with a sign, which
is found although it is tried last. -/
theorem readings_of_notFound :
    (∀ c, Reading.name.Gives (trim "not found".toList) c → c = .notFound) ∧
    ¬ Reading.title.Gives (trim "+0404 NOT found".toList) .notFound ∧
    FirstGiven (trim "+0404 NOT found".toList) [.name, .title, .value] .notFound ∧
    (parse "+0404 NOT found").value = .ok .notFound := by
  obtain ⟨hunique, -, -, -⟩ := readings_never_compete "not found"
  obtain ⟨-, hnumeral, hany, horder⟩ := readings_never_compete "+0404 NOT found"
  have hvalue : Reading.value.Gives (trim "+0404 NOT found".toList) .notFound :=
    ⟨readValue?_eq_some_iff.mp (by decide), .inr (by decide)⟩
  have hparse := (hany .notFound).mpr ⟨.value, hvalue⟩
  refine ⟨fun c hc => hunique .name .title c .notFound hc ?_, ?_, ?_, hparse⟩
  · show StatusCode.isTitled .notFound _ = true
    decide
  · exact (hnumeral ⟨_, hvalue.1⟩ .notFound).1
  · exact (horder _ (by intro r; cases r <;> simp) .notFound).mp hparse

/-! ### The letters of what is accepted -/

/-- A text that is accepted without a numeral spells the code that it stands for. -/
theorem spells_of_accepted {s : String} {c : StatusCode} (h : (parse s).value = .ok c)
    (hn : ¬ StartsWithNumeral (trim s.toList)) : c.Spells (trim s.toList) := by
  obtain ⟨r, hr⟩ := parse_eq_ok_iff.mp h
  rcases hr.isNumeral_or_spells with hv | hs
  · exact absurd ⟨_, hv⟩ hn
  · exact hs

/-- The letters of the whole text, white space left out, are those of the code. -/
theorem filter_unseparated_upper_of_spells {s : String} {c : StatusCode}
    (h : c.Spells (trim s.toList)) :
    (unseparated (upper s.toList)).filter (!isWhiteSpace ·) = unseparated c.name.toList := by
  have hletters : unseparated (upper (trim s.toList)) = unseparated c.name.toList := h
  rw [← filter_unseparated_upper_trim, hletters, List.filter_eq_self]
  intro x hx
  have hspace := StatusCode.not_isWhiteSpace_of_mem_name (mem_unseparated.mp hx).1
  rw [hspace]
  rfl

/-- **What is accepted is spelled like the code.**  The letters of a text that is accepted without
a numeral are those of the code's name.  So two such texts with the same letters stand for the same
code, with or without the white space at their ends; in particular if they differ in the case of
ASCII letters and in separators only. -/
theorem letters_of_accepted {s : String} {c : StatusCode} (h : (parse s).value = .ok c)
    (hn : ¬ StartsWithNumeral (trim s.toList)) :
    unseparated (upper (trim s.toList)) = c.name.toList.filter (· ≠ '_') ∧
    ∀ (s' : String) (d : StatusCode),
      (parse s').value = .ok d → ¬ StartsWithNumeral (trim s'.toList) →
      (unseparated (upper (trim s'.toList)) = unseparated (upper (trim s.toList)) ∨
        unseparated (upper s'.toList) = unseparated (upper s.toList) ∨
        unseparated (s'.toList.map Char.toLower) = unseparated (s.toList.map Char.toLower)) →
      d = c := by
  have hs := spells_of_accepted h hn
  refine ⟨?_, ?_⟩
  · rw [← StatusCode.unseparated_name]
    exact hs
  intro s' d h' hn' halike
  have hs' := spells_of_accepted h' hn'
  -- White space at the ends has no case, and there is none in a name, so it may be left out.
  have key : unseparated (upper s'.toList) = unseparated (upper s.toList) → d = c := by
    intro hu
    apply StatusCode.unseparated_name_injective
    rw [← filter_unseparated_upper_of_spells hs', hu, filter_unseparated_upper_of_spells hs]
  rcases halike with ht | hu | hl
  · exact spells_unique (ht.symm.trans hs') hs
  · exact key hu
  · exact key (unseparated_upper_congr hl)

/-- The letter in the middle of the first text has two letters in uppercase; the second text has
them both, and white space at its ends. -/
theorem letters_of_processing :
    unseparated (upper (trim "proceßing".toList)) = "PROCESSING".toList ∧
    ∀ c, (parse "\tPROCESSING ").value = .ok c → c = .processing := by
  have hname : symbolicName (trim "proceßing".toList) = "PROCESSING" := by decide +kernel
  have hfirst : (parse "proceßing").value = .ok .processing := parse_eq_ok_iff.mpr ⟨.name, hname⟩
  have hsecond : ¬ StartsWithNumeral (trim "\tPROCESSING ".toList) :=
    readValue?_eq_none_iff.mp (by decide +kernel)
  obtain ⟨hletters, hsame⟩ :=
    letters_of_accepted hfirst (readValue?_eq_none_iff.mp (by decide +kernel))
  refine ⟨hletters.trans (by decide +kernel), fun c hc => hsame _ c hc hsecond (.inl ?_)⟩
  decide +kernel

end StatusRegistry
