/-
StatusRegistry/Proofs/Messages.lean

What the message of an error tells.  A message is a fixed text, then the name or
the value that was looked for, and then an apostrophe.  There is one fixed text
for names and one for values.

Main result: two errors with the same message are the same error.  So the
messages of two texts that cannot be read are equal if and only if both texts
begin with the same number, which is no value, or are the same text up to white
space at their ends (`messages_identify_errors`).

A name is not escaped, so there may be apostrophes in it, and it may read like a
message itself.  That does no harm: the fixed texts stand at the two ends of a
message, and whatever is left between them is the name (`between_inj`).  The
first letter tells which fixed text it is.
-/
import StatusRegistry.Proofs.Failures

namespace StatusRegistry

open Text

/-! ### Fixed texts -/

/-- What stands between two fixed texts is determined by the whole. -/
theorem between_inj {before after s u : String} :
    before ++ s ++ after = before ++ u ++ after ↔ s = u := by
  rw [String.append_left_inj, String.append_right_inj]

/-- What is put behind a text does not change how it begins. -/
theorem head?_append {a : String} {x : Char} (ha : a.toList.head? = some x) (s : String) :
    (a ++ s).toList.head? = some x := by
  rw [String.toList_append, List.head?_append, ha]
  rfl

/-! ### Messages -/

namespace LookupError

theorem message_unknownName_inj {p q : String} :
    (unknownName p).message = (unknownName q).message ↔ p = q :=
  between_inj

theorem message_unregisteredValue_inj {v w : UInt16} :
    (unregisteredValue v).message = (unregisteredValue w).message ↔ v = w := by
  constructor
  · intro h
    have hrepr : Nat.repr v.toNat = Nat.repr w.toNat := between_inj.mp h
    have hdigits := congrArg String.toList hrepr
    rw [Nat.toList_repr, Nat.toList_repr] at hdigits
    exact UInt16.toNat_inj.mp (toDigits_injective hdigits)
  · rintro rfl
    rfl

theorem head?_message_unknownName (p : String) :
    (unknownName p).message.toList.head? = some 'U' :=
  head?_append (head?_append (by decide +kernel) p) _

theorem head?_message_unregisteredValue (v : UInt16) :
    (unregisteredValue v).message.toList.head? = some 'N' :=
  head?_append (head?_append (by decide +kernel) _) _

/-- The message of a name is never that of a value, whatever the name is. -/
theorem message_unknownName_ne (p : String) (v : UInt16) :
    (unknownName p).message ≠ (unregisteredValue v).message := by
  intro h
  have hhead := head?_message_unknownName p
  rw [h, head?_message_unregisteredValue v] at hhead
  cases hhead

/-- **The message of an error identifies it.** -/
theorem message_inj {d e : LookupError} : d.message = e.message ↔ d = e := by
  cases d with
  | unknownName p =>
    cases e with
    | unknownName q => rw [message_unknownName_inj, unknownName.injEq]
    | unregisteredValue v => exact iff_of_false (message_unknownName_ne p v) (by simp)
  | unregisteredValue v =>
    cases e with
    | unknownName p => exact iff_of_false (message_unknownName_ne p v).symm (by simp)
    | unregisteredValue w => rw [message_unregisteredValue_inj, unregisteredValue.injEq]

end LookupError

/-! ### Errors of two texts -/

section

variable {t u : List Char} {r q : Logged (Except LookupError StatusCode)} {d e : LookupError}

/-- The texts begin with numerals for the same number, and no code has that number as its value. -/
def MissSameValue (t u : List Char) : Prop :=
  ∃ v : UInt16, (∀ c : StatusCode, c.value ≠ v) ∧
    IsNumeral v.toNat (firstWord t) ∧ IsNumeral v.toNat (firstWord u)

/-- When two texts fail with the same error.  All that an error keeps of a text is the number, or
else the whole of it. -/
theorem Outcome.error_eq_iff (ht : Outcome t r) (hu : Outcome u q) (hd : r.value = .error d)
    (he : q.value = .error e) :
    d = e ↔ MissSameValue t u ∨
      ((∃ p, d = .unknownName p) ∧ (∃ p, e = .unknownName p) ∧ t = u) := by
  constructor
  · rintro rfl
    cases d with
    | unregisteredValue v =>
      obtain ⟨htv, hc⟩ := ht.unregisteredValue_iff.mp hd
      obtain ⟨huv, -⟩ := hu.unregisteredValue_iff.mp he
      exact .inl ⟨v, hc, htv, huv⟩
    | unknownName p =>
      -- Both texts are the one that the error quotes.
      have hquote : String.ofList t = String.ofList u :=
        (ht.text_of_unknownName hd).symm.trans (hu.text_of_unknownName he)
      exact .inr ⟨⟨p, rfl⟩, ⟨p, rfl⟩, String.ofList_inj.mp hquote⟩
  · rintro (⟨v, hc, htv, huv⟩ | ⟨⟨p, rfl⟩, ⟨p', rfl⟩, rfl⟩)
    · have htr : r.value = .error (.unregisteredValue v) := ht.unregisteredValue_iff.mpr ⟨htv, hc⟩
      have huq : q.value = .error (.unregisteredValue v) := hu.unregisteredValue_iff.mpr ⟨huv, hc⟩
      have hdv : d = .unregisteredValue v := Except.error.inj (hd.symm.trans htr)
      have hev : e = .unregisteredValue v := Except.error.inj (he.symm.trans huq)
      rw [hdv, hev]
    · rw [ht.text_of_unknownName hd, hu.text_of_unknownName he]

end

/-- **Messages identify errors, and so what failed.**  Errors with the same message are the same,
whatever names are in them.  Two texts that cannot be read have the same message if and only if
their first words are numerals for the same number and no code has that value, or both are quoted as
unknown names and they are the same text, white space at the ends left out. -/
theorem messages_identify_errors :
    (∀ d e : LookupError, d.message = e.message ↔ d = e) ∧
    ∀ (a b : String) (d e : LookupError),
      (parse a).value = .error d → (parse b).value = .error e →
      (d.message = e.message ↔
        MissSameValue (trim a.toList) (trim b.toList) ∨
        ((∃ p, d = .unknownName p) ∧ (∃ p, e = .unknownName p) ∧
          trim a.toList = trim b.toList)) := by
  refine ⟨fun d e => LookupError.message_inj, ?_⟩
  intro a b d e ha hb
  rw [LookupError.message_inj]
  exact (parse_outcome a).error_eq_iff (parse_outcome b) ha hb

/-- A number that is no value, written in two ways; and a text with apostrophes, which is quoted as
it stands. -/
theorem messages_of_unregistered :
    ∃ d e f, (parse " +0299 OK").value = .error d ∧ (parse "299").value = .error e ∧
      (parse "404 '299'").value = .error f ∧
      d.message = e.message ∧ MissSameValue "+0299 OK".toList "299".toList ∧
      e.message ≠ f.message := by
  have hd : (parse " +0299 OK").value = .error (.unregisteredValue 299) := by decide +kernel
  have he : (parse "299").value = .error (.unregisteredValue 299) := by decide +kernel
  have hf : (parse "404 '299'").value = .error (.unknownName "404 '299'") := by decide +kernel
  obtain ⟨hinj, hparse⟩ := messages_identify_errors
  refine ⟨_, _, _, hd, he, hf, rfl, ?_, ?_⟩
  · rcases (hparse _ _ _ _ hd he).mp rfl with hmiss | ⟨⟨p, hp⟩, -⟩
    · exact hmiss
    · cases hp
  · rw [Ne, hinj]
    decide

end StatusRegistry
