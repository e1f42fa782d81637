/-
StatusRegistry/Proofs/Citations.lean

The written forms of a citation.  Both have the same shape: a number between two
fixed texts, and then the section, which may be any text.

Main result: a citation is determined by its link, and by its phrase
(`written_forms_identify`).

The section is not quoted, so it may look like the fixed texts, and it may begin
with a digit.  But a number ends at the first character that is no digit, and in
both forms that is the first character of the text between the number and the
section (`toDigits_append_inj`).  What comes after it is never looked at.
-/
import StatusRegistry.Citation
import StatusRegistry.Proofs.Numerals

namespace StatusRegistry

open Text

/-! ### Where a number ends -/

namespace Text

/-- A number in decimal form is the longest run of digits. -/
theorem takeWhile_toDigits_append {x : Char} (hx : isDigit x = false) (n : Nat) (r : List Char) :
    (Nat.toDigits 10 n ++ x :: r).takeWhile isDigit = Nat.toDigits 10 n := by
  have hdigits : ∀ c ∈ Nat.toDigits 10 n, isDigit c = true := by
    intro c hc
    exact isDigit_of_mem_toDigits hc
  rw [List.takeWhile_append_of_pos hdigits, List.takeWhile_cons_of_neg (by simp [hx]),
    List.append_nil]

/-- A number can be told from what follows it, if that does not begin with a digit. -/
theorem toDigits_append_inj {x : Char} (hx : isDigit x = false) {m n : Nat} {r u : List Char} :
    Nat.toDigits 10 m ++ x :: r = Nat.toDigits 10 n ++ x :: u ↔ m = n ∧ r = u := by
  constructor
  · intro h
    -- The whole begins with each of the two numbers as its longest run of digits.
    have hnumber : m = n := by
      apply toDigits_injective
      rw [← takeWhile_toDigits_append hx m r, h, takeWhile_toDigits_append hx n u]
    subst hnumber
    exact ⟨rfl, List.tail_eq_of_cons_eq (List.append_cancel_left h)⟩
  · rintro ⟨rfl, rfl⟩
    rfl

end Text

/-! ### A number and a text -/

/-- A number between two fixed texts, and a text after them. -/
def numberedText (before between : String) (n : Nat) (s : String) : String :=
  before ++ toString n ++ between ++ s

/-- The number and the text are determined by the whole, if no digit follows the number. -/
theorem numberedText_inj {before between : String} {x : Char} {r : List Char}
    (hbetween : between.toList = x :: r) (hx : isDigit x = false) {m n : Nat} {s u : String} :
    numberedText before between m s = numberedText before between n u ↔ m = n ∧ s = u := by
  constructor
  · intro h
    have hlist := congrArg String.toList h
    simp only [numberedText, String.toList_append, Nat.toString_eq_repr, Nat.toList_repr, hbetween,
      List.append_assoc, List.cons_append] at hlist
    obtain ⟨hnumber, hrest⟩ := (toDigits_append_inj hx).mp (List.append_cancel_left hlist)
    exact ⟨hnumber, String.toList_inj.mp (List.append_cancel_left hrest)⟩
  · rintro ⟨rfl, rfl⟩
    rfl

/-! ### Citations -/

namespace Citation

theorem mk_eq_mk_iff {m n : UInt16} {s u : String} :
    (⟨m, s⟩ : Citation) = ⟨n, u⟩ ↔ m.toNat = n.toNat ∧ s = u := by
  rw [Citation.mk.injEq, UInt16.toNat_inj]

theorem url_eq (c : Citation) :
    c.url =
      numberedText "https://tools.ietf.org/html/rfc" "#section-" c.rfc.toNat c.sectionNumber := rfl

theorem phrase_eq (c : Citation) :
    c.phrase = numberedText "RFC " ", Section " c.rfc.toNat c.sectionNumber := rfl

/-- **The written forms of a citation identify it.**  Two citations, of any numbers and any texts as
their sections, are equal if and only if their links are equal, and if and only if their phrases
are. -/
theorem written_forms_identify (m n : UInt16) (s u : String) :
    ((⟨m, s⟩ : Citation) = ⟨n, u⟩ ↔ url ⟨m, s⟩ = url ⟨n, u⟩) ∧
    ((⟨m, s⟩ : Citation) = ⟨n, u⟩ ↔ phrase ⟨m, s⟩ = phrase ⟨n, u⟩) := by
  constructor
  · rw [mk_eq_mk_iff, url_eq, url_eq]
    exact (numberedText_inj (x := '#') rfl rfl).symm
  · rw [mk_eq_mk_iff, phrase_eq, phrase_eq]
    exact (numberedText_inj (x := ',') rfl rfl).symm

end Citation

end StatusRegistry
