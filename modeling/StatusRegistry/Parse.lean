/-
StatusRegistry/Parse.lean

Reading a status code from text.  White space around the text does not count.
There are three ways to write a code:

* its value, alone or followed by a space and its title: `404`,
  `404 Not Found`;
* its title, in any case: `not found`;
* its symbolic name, in any of the usual spellings of a name: `NotFound`,
  `not-found`, `NOT_FOUND`.

A text whose first word is a numeral is only ever read as a value.  A text that
cannot be read fails with the text itself, but what is reported of a name is
the symbolic name that was looked for.
-/
import StatusRegistry.Lookup
import StatusRegistry.Text.WhiteSpace
import StatusRegistry.Text.Words

namespace StatusRegistry

open Text

/-! ### The first word -/

/-- The text before the first space; all of it if there is none. -/
def firstWord (t : List Char) : List Char :=
  t.takeWhile (· ≠ ' ')

/-- The text after the first space, without the white space at its ends. -/
def remainder (t : List Char) : List Char :=
  trim ((t.dropWhile (· ≠ ' ')).drop 1)

/-! ### The three readings -/

/-- Whether the text is the title of the code, up to the case of ASCII letters. -/
def StatusCode.isTitled (c : StatusCode) (t : List Char) : Bool :=
  equalUpToAsciiCase c.title.toList t

/-- The value that the first word denotes. -/
def readValue? (t : List Char) : Option UInt16 :=
  readUInt16? (firstWord t)

/-- Whether what follows the first word agrees with the code. -/
def StatusCode.agreesWith (c : StatusCode) (t : List Char) : Bool :=
  (remainder t).isEmpty || c.isTitled (remainder t)

/-- The code whose title the text is. -/
def StatusCode.ofTitle? (t : List Char) : Option StatusCode :=
  StatusCode.all.find? (·.isTitled t)

/-- The symbolic name that the text spells. -/
def symbolicName (t : List Char) : String :=
  String.ofList (upperSnake t)

/-! ### Reading a text -/

/-- Reads a trimmed text. -/
def parseTrimmed (t : List Char) : Logged (Except LookupError StatusCode) :=
  let unknown := LookupError.unknownName (String.ofList t)
  match readValue? t with
  | some v => do
    let found ← StatusCode.ofUInt16 v
    return found.bind fun c => if c.agreesWith t then .ok c else .error unknown
  | none =>
    match StatusCode.ofTitle? t with
    | some c => pure (.ok c)
    | none => do
      let found ← lookup (symbolicName t)
      return found.mapError fun _ => unknown

/-- Reads a status code from text. -/
def parse (s : String) : Logged (Except LookupError StatusCode) :=
  parseTrimmed (trim s.toList)

/-- Whether two texts are read alike: as the same code, or with the same error. -/
def parsesAlike (a b : String) : Logged Bool := do
  let x ← parse a
  let y ← parse b
  return x = y

end StatusRegistry
