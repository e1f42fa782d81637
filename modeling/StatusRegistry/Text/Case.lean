/-
StatusRegistry/Text/Case.lean

Full case mappings of characters and of texts.  A text is mapped character by
character.  No mapping here looks at its surroundings: the one rule of the
standard that does, the final form of sigma, needs a cased letter before the
sigma, and lowercase is only ever taken of one grapheme cluster, in which a
sigma has none before it.
-/
import StatusRegistry.Text.CaseTable

namespace StatusRegistry.Text

/-- The full uppercase mapping of a character. -/
def upperChar (c : Char) : List Char :=
  if c.toNat < 0x80 then [c.toUpper] else upperMapping.image c

/-- The full lowercase mapping of a character. -/
def lowerChar (c : Char) : List Char :=
  if c.toNat < 0x80 then [c.toLower] else lowerMapping.image c

/-- The full uppercase mapping of a text. -/
def upper (t : List Char) : List Char :=
  t.flatMap upperChar

/-- The full lowercase mapping of a text. -/
def lower (t : List Char) : List Char :=
  t.flatMap lowerChar

/-- Whether two texts are equal up to the case of their ASCII letters. -/
def equalUpToAsciiCase (s t : List Char) : Bool :=
  s.map Char.toLower == t.map Char.toLower

/-! ### Basic facts -/

@[simp] theorem upper_nil : upper [] = [] := rfl

@[simp] theorem upper_cons (c : Char) (t : List Char) :
    upper (c :: t) = upperChar c ++ upper t := rfl

@[simp] theorem upper_append (s t : List Char) : upper (s ++ t) = upper s ++ upper t := by
  simp [upper]

theorem upperChar_of_ascii {c : Char} (h : c.toNat < 0x80) : upperChar c = [c.toUpper] := by
  simp [upperChar, h]

end StatusRegistry.Text
