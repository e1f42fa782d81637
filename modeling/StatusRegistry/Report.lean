/-
StatusRegistry/Report.lean

The answers of the command line.  Every argument gets one line, which depends
on that argument alone; without arguments the whole registry is listed.
-/
import StatusRegistry.Parse

namespace StatusRegistry

/-! ### Lines -/

/-- The text, filled up with spaces on its right to at least `width` characters. -/
def padRight (width : Nat) (s : String) : String :=
  s ++ String.ofList (List.replicate (width - s.length) ' ')

/-- What is said of a code that was found. -/
def StatusCode.description (c : StatusCode) : String :=
  c.display ++ " (" ++ c.statusClass.label ++ ", " ++ c.citation.url ++ ")"

/-- What is said of an argument.  An integer that is no code is still classified. -/
def describe (arg : String) : String :=
  match (parse arg).value with
  | .ok c => c.description
  | .error e =>
    match Text.readInt64? arg.toList with
    | some n => "unregistered, " ++ (classify (.ofInt64 n)).value.label
    | none => e.message

/-- The line that answers an argument. -/
def answer (arg : String) : String :=
  arg ++ ": " ++ describe arg ++ "\n"

/-- The line of a code in the list of all codes: two columns, the first 40 characters wide. -/
def StatusCode.tableLine (c : StatusCode) : String :=
  padRight 40 c.display ++ " " ++ c.citation.phrase ++ "\n"

/-- The list of all codes. -/
def table : String :=
  String.join (StatusCode.all.map (·.tableLine))

/-! ### The report -/

/-- What a run of the command line leaves behind. -/
structure Report where
  exitStatus : UInt8
  output : String
deriving DecidableEq, Repr

/-- The report for a list of arguments.  Every argument has an answer, so no run fails. -/
def report (args : List String) : Report where
  exitStatus := 0
  output := if args.isEmpty then table else String.join (args.map answer)

end StatusRegistry
