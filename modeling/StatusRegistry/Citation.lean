/-
StatusRegistry/Citation.lean

Citations of the documents that define status codes.  A citation is an RFC
number and the number of a section in it, and it has two written forms: a link
and a short phrase.
-/

namespace StatusRegistry

/-- A section of an RFC. -/
structure Citation where
  rfc : UInt16
  /-- The section within the RFC, such as `10.4.5`; it is text, and goes into the written forms
  as it stands. -/
  sectionNumber : String
deriving DecidableEq, Repr

namespace Citation

/-- The link to the section. -/
def url (c : Citation) : String :=
  "https://tools.ietf.org/html/rfc" ++ toString c.rfc.toNat ++ "#section-" ++ c.sectionNumber

/-- The phrase that names the section. -/
def phrase (c : Citation) : String :=
  "RFC " ++ toString c.rfc.toNat ++ ", Section " ++ c.sectionNumber

end Citation

end StatusRegistry
