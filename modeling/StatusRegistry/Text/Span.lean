/-
StatusRegistry/Text/Span.lean

Sets of characters as closed ranges of code points.  Every character property
that is not decided by ASCII alone is a list of spans, so a property is data
and one membership test serves all of them.
-/

namespace StatusRegistry.Text

/-- A closed range of code points. -/
structure Span where
  first : Nat
  last : Nat
deriving DecidableEq, Repr

/-- Whether the code point `n` lies in the span, ends included. -/
def Span.contains (s : Span) (n : Nat) : Bool :=
  s.first ≤ n && n ≤ s.last

/-- Whether the character lies in one of the spans. -/
def inSpans (spans : List Span) (c : Char) : Bool :=
  spans.any (·.contains c.toNat)

theorem inSpans_eq_true_iff {spans : List Span} {c : Char} :
    inSpans spans c = true ↔ ∃ s ∈ spans, s.first ≤ c.toNat ∧ c.toNat ≤ s.last := by
  simp [inSpans, Span.contains]

end StatusRegistry.Text
