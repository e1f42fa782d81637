/-
StatusRegistry/StatusClass.lean

The classes of status codes.  The hundreds digit of a code decides its class,
so a class other than `unknown` is a band of one hundred codes; everything
outside of 100 to 599 is `unknown`.

Classes are ordered as they are declared, hence by their bands, with `unknown`
at the end.
-/

namespace StatusRegistry

/-- The class of a status code. -/
inductive StatusClass where
  | informational
  | success
  | redirection
  | clientError
  | serverError
  /-- The class of everything outside of the five bands. -/
  | unknown
deriving DecidableEq, Repr

/-- A closed range of codes. -/
structure Band where
  first : UInt16
  last : UInt16
deriving DecidableEq, Repr

namespace Band

/-- The codes with the given hundreds digit. -/
def ofLeadingDigit (digit : UInt16) : Band where
  first := digit * 100
  last := digit * 100 + 99

/-- Whether the code lies in the band, ends included. -/
def contains (b : Band) (v : UInt16) : Bool :=
  b.first ≤ v && v ≤ b.last

end Band

namespace StatusClass

/-! ### The leading digit -/

/-- The hundreds digit of the codes of the class. -/
def leadingDigit? : StatusClass → Option UInt16
  | informational => some 1
  | success => some 2
  | redirection => some 3
  | clientError => some 4
  | serverError => some 5
  | unknown => none

/-- The class of the codes with the given hundreds digit. -/
def ofLeadingDigit : Nat → StatusClass
  | 1 => informational
  | 2 => success
  | 3 => redirection
  | 4 => clientError
  | 5 => serverError
  | _ => unknown

/-- The codes of the class; `unknown` has no band. -/
def band? (k : StatusClass) : Option Band :=
  k.leadingDigit?.map Band.ofLeadingDigit

/-! ### Text -/

/-- The title of the class. -/
def title : StatusClass → String
  | informational => "Informational"
  | success => "Success"
  | redirection => "Redirection"
  | clientError => "Client Error"
  | serverError => "Server Error"
  | unknown => "Unknown"

/-- The written form of the class, such as `4xx Client Error`. -/
def label (k : StatusClass) : String :=
  match k.leadingDigit? with
  | some digit => toString digit.toNat ++ "xx " ++ k.title
  | none => k.title

/-! ### Predicates -/

def isInformational (k : StatusClass) : Bool := k = informational

def isSuccess (k : StatusClass) : Bool := k = success

def isRedirection (k : StatusClass) : Bool := k = redirection

def isClientError (k : StatusClass) : Bool := k = clientError

def isServerError (k : StatusClass) : Bool := k = serverError

/-- Whether the class is one of the two classes of errors. -/
def isError (k : StatusClass) : Bool := k.isClientError || k.isServerError

/-! ### Order -/

/-- The position of the class in the order of declaration. -/
def rank : StatusClass → Nat
  | informational => 0
  | success => 1
  | redirection => 2
  | clientError => 3
  | serverError => 4
  | unknown => 5

instance : Ord StatusClass := ⟨fun j k => compare j.rank k.rank⟩

instance : LE StatusClass := ⟨fun j k => j.rank ≤ k.rank⟩

instance (j k : StatusClass) : Decidable (j ≤ k) := inferInstanceAs (Decidable (j.rank ≤ k.rank))

theorem le_def {j k : StatusClass} : j ≤ k ↔ j.rank ≤ k.rank := Iff.rfl

theorem rank_injective {j k : StatusClass} (h : j.rank = k.rank) : j = k := by
  cases j <;> cases k <;> first | rfl | cases h

theorem le_unknown (k : StatusClass) : k ≤ unknown := by
  cases k <;> decide

end StatusClass

end StatusRegistry
