/-
StatusRegistry/Proofs/Answers.lean

What the command line prints.  `Answers arg line` says that `line` is a right
answer to the argument `arg`, and has one case for each kind of argument:

* an integer of 64 bits that is the value of a code, or that is not;
* any other text that stands for a code, or that does not.

The two kinds of integers are told apart by the number alone.  The program takes
a way around: it reads the argument as a status code first, where numbers have
16 bits and no minus sign, and as an integer only when that has failed.  Both
readers of numbers agree wherever they meet, since an integer that the first does
not take is never the value of a code
(`value_parse_eq_ok_iff_of_isSignedNumeral`).

Without arguments the codes are listed.  `IsRow c row` says what the row of a
code looks like: two columns, of which the first is filled up with spaces.

Main result: a run with arguments prints one right answer for each of them, in
order, and nothing else; there is one right answer only; and a run without
arguments prints one row for each code, in ascending order of value
(`report_answers_each`).  Both runs print what a function gives for each element
of a list, and that suffices, because each line depends on its own element only
(`forall₂_map_of_iff`).
-/
import Mathlib.Data.List.Forall2
import StatusRegistry.Proofs.Indexes
import StatusRegistry.Proofs.Integers
import StatusRegistry.Report

namespace StatusRegistry

open Text

variable {arg line : String}

/-! ### Right answers -/

/-- The line for an argument that stands for a code. -/
def foundLine (arg : String) (c : StatusCode) : String :=
  arg ++ ": " ++ (c.display ++ " (" ++ c.statusClass.label ++ ", " ++ c.citation.url ++ ")") ++ "\n"

/-- The line is a right answer to the argument. -/
inductive Answers (arg : String) : String → Prop
  /-- An integer that is the value of a code: the code is described. -/
  | registered {n : Int64} {c : StatusCode} (hn : IsSignedNumeral n.toInt arg.toList)
      (hc : (c.value.toNat : Int) = n.toInt) : Answers arg (foundLine arg c)
  /-- An integer that is not: its class is told all the same. -/
  | unregistered {n : Int64} (hn : IsSignedNumeral n.toInt arg.toList)
      (hc : ∀ c : StatusCode, (c.value.toNat : Int) ≠ n.toInt) :
      Answers arg
        (arg ++ ": " ++ ("unregistered, " ++ (classify (.ofInt64 n)).value.label) ++ "\n")
  /-- No integer, but a text that stands for a code: the code is described. -/
  | code {c : StatusCode} (hn : ∀ n : Int64, ¬ IsSignedNumeral n.toInt arg.toList)
      (hc : (parse arg).value = .ok c) : Answers arg (foundLine arg c)
  /-- Neither: the reason is told. -/
  | failure {e : LookupError} (hn : ∀ n : Int64, ¬ IsSignedNumeral n.toInt arg.toList)
      (he : (parse arg).value = .error e) : Answers arg (arg ++ ": " ++ e.message ++ "\n")

/-- There is a right answer to every argument. -/
theorem exists_answers (arg : String) : ∃ line, Answers arg line := by
  rcases hn : readInt64? arg.toList with - | n
  · have hn' := readInt64?_eq_none_iff.mp hn
    rcases hp : (parse arg).value with e | c
    · exact ⟨_, .failure hn' hp⟩
    · exact ⟨_, .code hn' hp⟩
  · have hn' := readInt64?_eq_some_iff.mp hn
    by_cases hc : ∃ c : StatusCode, (c.value.toNat : Int) = n.toInt
    · obtain ⟨c, hc⟩ := hc
      exact ⟨_, .registered hn' hc⟩
    · exact ⟨_, .unregistered hn' (not_exists.mp hc)⟩

/-! ### What the program answers -/

/-- An integer stands for the code that has it as its value, and for no other. -/
theorem value_parse_eq_ok_iff_of_isSignedNumeral {n : Int} {c : StatusCode}
    (h : IsSignedNumeral n arg.toList) :
    (parse arg).value = .ok c ↔ (c.value.toNat : Int) = n := by
  constructor
  · intro hp
    by_cases hv : ∃ v : UInt16, IsNumeral v.toNat arg.toList
    · obtain ⟨v, hv⟩ := hv
      rw [parse_of_isNumeral hv] at hp
      rw [value_fromValue_eq_ok_iff.mp hp]
      exact ((isNumeral_iff_of_isSignedNumeral h).mp hv).2
    · rw [parse_of_not_isNumeral h (not_exists.mp hv)] at hp
      cases hp
  · intro hc
    -- Values are positive, so the integer has no minus sign, and it fits 16 bits.
    have hpos : 0 < n := by
      have hbounds := c.value_bounds
      omega
    have hv := (isNumeral_iff_of_isSignedNumeral h).mpr ⟨h.not_mem_minus hpos, hc⟩
    rw [parse_of_isNumeral hv, fromValue_value]

theorem answer_of_ok {c : StatusCode} (h : (parse arg).value = .ok c) :
    answer arg = foundLine arg c := by
  rw [answer, describe, h]
  rfl

theorem answer_of_error_of_isSignedNumeral {e : LookupError} {n : Int64}
    (he : (parse arg).value = .error e) (hn : IsSignedNumeral n.toInt arg.toList) :
    answer arg =
      arg ++ ": " ++ ("unregistered, " ++ (classify (.ofInt64 n)).value.label) ++ "\n" := by
  simp only [answer, describe, he, readInt64?_eq_some_iff.mpr hn]

theorem answer_of_error_of_not_isSignedNumeral {e : LookupError}
    (he : (parse arg).value = .error e) (hn : ∀ n : Int64, ¬ IsSignedNumeral n.toInt arg.toList) :
    answer arg = arg ++ ": " ++ e.message ++ "\n" := by
  simp only [answer, describe, he, readInt64?_eq_none_iff.mpr hn]

/-- **The program gives the right answer**, and there is no other. -/
theorem answers_iff : Answers arg line ↔ line = answer arg := by
  have hright : ∀ {l}, Answers arg l → l = answer arg := by
    intro l h
    cases h with
    | registered hn hc =>
      exact (answer_of_ok ((value_parse_eq_ok_iff_of_isSignedNumeral hn).mpr hc)).symm
    | code hn hc => exact (answer_of_ok hc).symm
    | @unregistered n hn hc =>
      rcases hp : (parse arg).value with e | c
      · exact (answer_of_error_of_isSignedNumeral hp hn).symm
      · exact absurd ((value_parse_eq_ok_iff_of_isSignedNumeral hn).mp hp) (hc c)
    | failure hn he => exact (answer_of_error_of_not_isSignedNumeral he hn).symm
  constructor
  · exact hright
  · rintro rfl
    obtain ⟨l, hl⟩ := exists_answers arg
    exact hright hl ▸ hl

/-! ### The list of all codes -/

/-- The row has the code in its first column, with spaces after it up to a width of 40 characters,
and the phrase of its citation in the second. -/
def IsRow (c : StatusCode) (row : String) : Prop :=
  ∃ fill : Nat, c.display.length + fill = max 40 c.display.length ∧
    row = c.display ++ String.ofList (List.replicate fill ' ') ++ " " ++ c.citation.phrase ++ "\n"

/-- **The program writes the row of a code**, and there is no other. -/
theorem isRow_iff {c : StatusCode} {row : String} : IsRow c row ↔ row = c.tableLine := by
  constructor
  · rintro ⟨fill, hfill, rfl⟩
    have hwidth : fill = 40 - c.display.length := by omega
    rw [hwidth]
    rfl
  · rintro rfl
    exact ⟨40 - c.display.length, by omega, rfl⟩

/-! ### The report -/

/-- A function that gives the one right line for each element gives the right lines for a list. -/
theorem forall₂_map_of_iff {α : Type} {R : α → String → Prop} {f : α → String}
    (h : ∀ a line, R a line ↔ line = f a) (l : List α) : List.Forall₂ R l (l.map f) := by
  rw [List.forall₂_map_right_iff, List.forall₂_same]
  intro a _
  exact (h a (f a)).mpr rfl

theorem output_report {args : List String} (h : args ≠ []) :
    (report args).output = String.join (args.map answer) := by
  cases args with
  | nil => exact absurd rfl h
  | cons arg args => rfl

/-- **A run with arguments answers each of them**, in order, by one line that depends on this
argument alone, and prints nothing else; so the output for two lists of arguments is the output for
the first, followed by the output for the second.  It never fails.  **A run without arguments lists
the codes**: it prints one row for each code, by ascending value, and nothing else, and does not fail
either. -/
theorem report_answers_each (args : List String) (h : args ≠ []) :
    (report args).exitStatus = 0 ∧
    (∀ arg, ∃! line, Answers arg line) ∧
    (∃ lines, List.Forall₂ Answers args lines ∧ (report args).output = String.join lines) ∧
    (∀ more : List String, more ≠ [] →
      (report (args ++ more)).output = (report args).output ++ (report more).output) ∧
    (∀ c, ∃! row, IsRow c row) ∧
    (∃ rows, List.Forall₂ IsRow StatusCode.all rows ∧ report [] = ⟨0, String.join rows⟩) ∧
    (∀ c : StatusCode, c ∈ StatusCode.all) ∧
    StatusCode.all.Pairwise (fun c d => c.value < d.value) := by
  refine ⟨rfl, ?_, ?_, ?_, ?_, ?_, StatusCode.mem_all, StatusCode.pairwise_value_all⟩
  · intro arg
    exact ⟨answer arg, answers_iff.mpr rfl, fun line hline => answers_iff.mp hline⟩
  · have hlines : List.Forall₂ Answers args (args.map answer) :=
      forall₂_map_of_iff (R := Answers) (f := answer) (fun _ _ => answers_iff) args
    exact ⟨args.map answer, hlines, output_report h⟩
  · intro more hmore
    have happend : args ++ more ≠ [] := by simp [h]
    rw [output_report happend, output_report h, output_report hmore, List.map_append,
      String.join_append]
  · intro c
    exact ⟨c.tableLine, isRow_iff.mpr rfl, fun row hrow => isRow_iff.mp hrow⟩
  · have hrows : List.Forall₂ IsRow StatusCode.all (StatusCode.all.map (·.tableLine)) :=
      forall₂_map_of_iff (R := IsRow) (f := (·.tableLine)) (fun _ _ => isRow_iff) StatusCode.all
    exact ⟨_, hrows, rfl⟩

/-- A value with a sign and a zero, the other zero, and a value between spaces; and the first row of
the list. -/
theorem report_of_arguments :
    (report ["+0404", "-0"]).output =
      "+0404: 404 Not Found (4xx Client Error, https://tools.ietf.org/html/rfc2616#section-10.4.5)\n" ++
      "-0: unregistered, Unknown\n" ∧
    (report (["+0404", "-0"] ++ [" 404 "])).output =
      (report ["+0404", "-0"]).output ++ (report [" 404 "]).output ∧
    ∃ later, (report []).output =
      "100 Continue                             RFC 2616, Section 10.1.1\n" ++ later := by
  obtain ⟨-, hunique, ⟨lines, hlines, houtput⟩, happend, hrow, ⟨rows, hrows, hlist⟩, -⟩ :=
    report_answers_each ["+0404", "-0"] (by decide)
  refine ⟨?_, happend [" 404 "] (by decide), ?_⟩
  · obtain _ | ⟨hfirst, _ | ⟨hsecond, ⟨⟩⟩⟩ := hlines
    have hfound : IsSignedNumeral (404 : Int64).toInt "+0404".toList :=
      .unsigned (.inr ⟨_, rfl, 1, rfl⟩)
    have hzero : IsSignedNumeral (0 : Int64).toInt "-0".toList := by
      show IsSignedNumeral (-((0 : Nat) : Int)) _
      exact .negative ⟨0, rfl⟩
    have hnone : ∀ c : StatusCode, (c.value.toNat : Int) ≠ (0 : Int64).toInt := by
      intro c hc
      have hbounds := c.value_bounds
      have hz : (0 : Int64).toInt = 0 := rfl
      omega
    rw [houtput, (hunique _).unique hfirst (.registered (c := .notFound) hfound rfl),
      (hunique _).unique hsecond (.unregistered hzero hnone)]
    decide +kernel
  · obtain ⟨first, later, hfirst, -, rfl⟩ := List.forall₂_cons_left_iff.mp hrows
    have hcontinue : IsRow .continueRequest
        "100 Continue                             RFC 2616, Section 10.1.1\n" :=
      ⟨28, by decide +kernel, by decide +kernel⟩
    refine ⟨String.join later, ?_⟩
    rw [hlist, (hrow _).unique hfirst hcontinue, String.join_cons]

end StatusRegistry
