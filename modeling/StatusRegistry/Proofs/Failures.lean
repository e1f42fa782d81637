/-
StatusRegistry/Proofs/Failures.lean

How reading a text fails, and what is reported of it.

There are three steps that can fail, and `Step.FailsOn` says of each when it
does, in terms of the text alone:

* `value`: the first word is a number, but no code has that value;
* `title`: a code has that value, but what follows is not its title;
* `name`: the text is neither a value nor a title, and no code has its name.

Main result: the reader reports nothing when it accepts a text, one event at
most when it does not, and the error together with the events tells which step
has failed (`failures_of_parse`).  The error quotes the text as it was given,
while the event names what was looked for, so the one is no copy of the other.
But the name in the event has the letters of the text that is quoted, all of
them and in their order; the two differ in separators and in case only
(`letters_of_missed_name`).
-/
import StatusRegistry.Proofs.Outcomes

namespace StatusRegistry

open Text

/-! ### Steps that fail -/

/-- The steps of reading a text that can fail. -/
inductive Step where
  | value
  | title
  | name
deriving DecidableEq, Repr

/-- When the step fails on the trimmed text `t`. -/
def Step.FailsOn (step : Step) (t : List Char) : Prop :=
  match step with
  | value => ∃ v : UInt16, IsNumeral v.toNat (firstWord t) ∧ ∀ c : StatusCode, c.value ≠ v
  | title => ∃ c : StatusCode, IsNumeral c.value.toNat (firstWord t) ∧ remainder t ≠ [] ∧
      ¬ c.isTitled (remainder t) = true
  | name => ¬ StartsWithNumeral t ∧ (∀ c : StatusCode, ¬ c.isTitled t = true) ∧
      ∀ c : StatusCode, c.name ≠ symbolicName t

/-- The step that has failed, as the kind of the error and the events tell it. -/
def failedStep : LookupError → List Event → Step
  | .unregisteredValue _, _ => .value
  | .unknownName _, [] => .title
  | .unknownName _, _ :: _ => .name

/-! ### What an outcome reports -/

section

variable {t : List Char} {r : Logged (Except LookupError StatusCode)}

theorem Outcome.unique {r' : Logged (Except LookupError StatusCode)} (h : Outcome t r)
    (h' : Outcome t r') : r = r' :=
  (parseTrimmed_eq_iff.mpr h).symm.trans (parseTrimmed_eq_iff.mpr h')

theorem Outcome.events_of_ok {c : StatusCode} (h : Outcome t r) (hr : r.value = .ok c) :
    r.events = [] := by
  cases h with
  | value | title | name => rfl
  | titleMismatch | valueMiss | nameMiss => cases hr

theorem Outcome.events_length_le (h : Outcome t r) : r.events.length ≤ 1 := by
  cases h <;> simp

/-- An event of the reader is one of the registry's, for those who debug. -/
theorem Outcome.event_of_mem {e : Event} (h : Outcome t r) (he : e ∈ r.events) :
    e.level = .debug ∧ e.target = "http_status::registry" := by
  cases h with
  | value | title | name | titleMismatch => cases he
  | valueMiss | nameMiss =>
    obtain rfl := List.mem_singleton.mp he
    exact ⟨rfl, rfl⟩

theorem Outcome.unregisteredValue_iff {v : UInt16} (h : Outcome t r) :
    r.value = .error (.unregisteredValue v) ↔
      IsNumeral v.toNat (firstWord t) ∧ ∀ c : StatusCode, c.value ≠ v := by
  constructor
  · intro hr
    cases h with
    | valueMiss hv hc =>
      cases hr
      exact ⟨hv, hc⟩
    | value | title | name | titleMismatch | nameMiss => cases hr
  · rintro ⟨hv, hc⟩
    rw [h.unique (.valueMiss hv hc)]

theorem Outcome.events_of_unregisteredValue {v : UInt16} (h : Outcome t r)
    (hr : r.value = .error (.unregisteredValue v)) : r.events = [.valueMiss v] := by
  obtain ⟨hv, hc⟩ := h.unregisteredValue_iff.mp hr
  rw [h.unique (.valueMiss hv hc)]

/-- The text that an error quotes is the text that was read. -/
theorem Outcome.text_of_unknownName {p : String} (h : Outcome t r)
    (hr : r.value = .error (.unknownName p)) : p = String.ofList t := by
  cases h with
  | titleMismatch | nameMiss =>
    cases hr
    rfl
  | value | title | name | valueMiss => cases hr

/-- The error and the events tell a step that fails. -/
theorem Outcome.failsOn {e : LookupError} (h : Outcome t r) (hr : r.value = .error e) :
    (failedStep e r.events).FailsOn t := by
  cases h with
  | value | title | name => cases hr
  | titleMismatch hv ha =>
    cases hr
    rw [StatusCode.agreesWith_iff, not_or] at ha
    exact ⟨_, hv, ha⟩
  | valueMiss hv hc =>
    cases hr
    exact ⟨_, hv, hc⟩
  | nameMiss hn ht hs =>
    cases hr
    exact ⟨hn, ht, hs⟩

/-- Where a step fails, so does the reader, in the way that tells the step. -/
theorem Step.FailsOn.exists_error {step : Step} (h : step.FailsOn t) (ho : Outcome t r) :
    ∃ e, r.value = .error e ∧ failedStep e r.events = step := by
  cases step with
  | value =>
    obtain ⟨v, hv, hc⟩ := h
    rw [ho.unique (.valueMiss hv hc)]
    exact ⟨_, rfl, rfl⟩
  | title =>
    obtain ⟨c, hv, hne, ht⟩ := h
    have ha : ¬ c.agreesWith t = true := by
      rw [StatusCode.agreesWith_iff, not_or]
      exact ⟨hne, ht⟩
    rw [ho.unique (.titleMismatch hv ha)]
    exact ⟨_, rfl, rfl⟩
  | name =>
    obtain ⟨hn, ht, hs⟩ := h
    rw [ho.unique (.nameMiss hn ht hs)]
    exact ⟨_, rfl, rfl⟩

/-- **The error and the events determine the step that has failed.** -/
theorem Outcome.failsOn_iff {step : Step} (h : Outcome t r) :
    step.FailsOn t ↔ ∃ e, r.value = .error e ∧ failedStep e r.events = step := by
  constructor
  · intro hf
    exact hf.exists_error h
  · rintro ⟨e, he, rfl⟩
    exact h.failsOn he

/-- An unknown name after a numeral: the title is wrong, which is not reported. -/
theorem Outcome.unknownName_of_numeral {p : String} (h : Outcome t r)
    (hr : r.value = .error (.unknownName p)) (hn : StartsWithNumeral t) :
    r.events = [] ∧ Step.title.FailsOn t := by
  have hf := h.failsOn hr
  -- An event would tell that a name was looked for, which is not done after a numeral.
  rcases he : r.events with - | ⟨e, es⟩
  · rw [he] at hf
    exact ⟨rfl, hf⟩
  · rw [he] at hf
    exact absurd hn hf.1

/-- An unknown name without a numeral: no code has the name that the text spells. -/
theorem Outcome.unknownName_of_not_numeral {p : String} (h : Outcome t r)
    (hr : r.value = .error (.unknownName p)) (hn : ¬ StartsWithNumeral t) :
    r.events = [.nameMiss (symbolicName t)] ∧ ∀ c : StatusCode, c.name ≠ symbolicName t := by
  cases h with
  | nameMiss _ _ hs => exact ⟨rfl, hs⟩
  | titleMismatch hv => exact absurd ⟨_, hv⟩ hn
  | value | title | name | valueMiss => cases hr

/-- A name is reported when all else has failed, and it is the one that was looked for. -/
theorem Outcome.nameMiss_mem_iff {m : String} (h : Outcome t r) :
    .nameMiss m ∈ r.events ↔ Step.name.FailsOn t ∧ m = symbolicName t := by
  constructor
  · intro hm
    cases h with
    | value | title | name | titleMismatch => cases hm
    | valueMiss => cases List.mem_singleton.mp hm
    | nameMiss hn ht hs =>
      cases List.mem_singleton.mp hm
      exact ⟨⟨hn, ht, hs⟩, rfl⟩
  · rintro ⟨⟨hn, ht, hs⟩, rfl⟩
    rw [h.unique (.nameMiss hn ht hs)]
    exact List.mem_singleton_self _

end

/-! ### How reading fails -/

/-- **What the reader reports, and of what.**  Nothing of a text that it accepts; of a number that
is no value, the number, whatever follows it; of any other text that begins with a numeral,
nothing; of the rest, the name that it looked for.  An unknown name is quoted as it was given. -/
theorem failures_of_parse (s : String) :
    (∀ c, (parse s).value = .ok c → (parse s).events = []) ∧
    (∀ v, (parse s).value = .error (.unregisteredValue v) ↔
      IsNumeral v.toNat (firstWord (trim s.toList)) ∧ ∀ c : StatusCode, c.value ≠ v) ∧
    (∀ v, (parse s).value = .error (.unregisteredValue v) → (parse s).events = [.valueMiss v]) ∧
    (∀ p, (parse s).value = .error (.unknownName p) →
      p = String.ofList (trim s.toList) ∧
      (StartsWithNumeral (trim s.toList) →
        (parse s).events = [] ∧ Step.title.FailsOn (trim s.toList)) ∧
      (¬ StartsWithNumeral (trim s.toList) →
        (parse s).events = [.nameMiss (symbolicName (trim s.toList))] ∧
          ∀ c : StatusCode, c.name ≠ symbolicName (trim s.toList))) ∧
    (parse s).events.length ≤ 1 ∧
    (∀ e ∈ (parse s).events, e.level = .debug ∧ e.target = "http_status::registry") ∧
    (∀ step : Step, step.FailsOn (trim s.toList) ↔
      ∃ e, (parse s).value = .error e ∧ failedStep e (parse s).events = step) := by
  have h := parse_outcome s
  refine ⟨?_, ?_, ?_, ?_, h.events_length_le, ?_, ?_⟩
  · intro c hc
    exact h.events_of_ok hc
  · intro v
    exact h.unregisteredValue_iff
  · intro v hv
    exact h.events_of_unregisteredValue hv
  · intro p hp
    exact ⟨h.text_of_unknownName hp, h.unknownName_of_numeral hp,
      h.unknownName_of_not_numeral hp⟩
  · intro e he
    exact h.event_of_mem he
  · intro step
    exact h.failsOn_iff

/-- A text for each step that can fail. -/
theorem failures_of_texts :
    (parse "00299 OK").events = [.valueMiss 299] ∧
    ((parse " 404 Not-Found ").events = [] ∧ Step.title.FailsOn (trim " 404 Not-Found ".toList)) ∧
    (parse "+ 404").events = [.nameMiss (symbolicName (trim "+ 404".toList))] := by
  obtain ⟨-, -, hvalue, -⟩ := failures_of_parse "00299 OK"
  obtain ⟨-, -, -, htitle, -⟩ := failures_of_parse " 404 Not-Found "
  obtain ⟨-, -, -, hname, -⟩ := failures_of_parse "+ 404"
  refine ⟨hvalue 299 (by decide +kernel), ?_, ?_⟩
  · obtain ⟨-, hnumeral, -⟩ := htitle "404 Not-Found" (by decide +kernel)
    exact hnumeral ⟨404, readValue?_eq_some_iff.mp (by decide +kernel)⟩
  · obtain ⟨-, -, hother⟩ := hname "+ 404" (by decide +kernel)
    exact (hother (readValue?_eq_none_iff.mp (by decide))).1

/-! ### The name that was looked for -/

/-- **The name in the event is the text in the error**, but for separators and case.  With spaces,
hyphens and underscores left out, the name that was looked for is the full uppercase form of the
text that is quoted: no character is lost, added or moved. -/
theorem letters_of_missed_name {s p m : String} (hp : (parse s).value = .error (.unknownName p))
    (hm : .nameMiss m ∈ (parse s).events) :
    unseparated m.toList = unseparated (upper p.toList) := by
  have h := parse_outcome s
  obtain ⟨-, rfl⟩ := h.nameMiss_mem_iff.mp hm
  rw [h.text_of_unknownName hp, String.toList_ofList, unseparated_symbolicName]

/-- A letter that has two letters in uppercase, a lone hyphen, which is dropped, and a hyphen with
an accent, which is not. -/
theorem letters_of_missed_street :
    (parse "\t-straße4 -\u0301x").events = [.nameMiss "STRASSE_4_-\u0301X"] ∧
    unseparated "STRASSE_4_-\u0301X".toList = unseparated (upper "-straße4 -\u0301x".toList) := by
  have htrim : trim "\t-straße4 -\u0301x".toList = "-straße4 -\u0301x".toList := by decide +kernel
  have hname : symbolicName "-straße4 -\u0301x".toList = "STRASSE_4_-\u0301X" := by decide +kernel
  have hnumeral : ¬ StartsWithNumeral "-straße4 -\u0301x".toList :=
    readValue?_eq_none_iff.mp (by decide +kernel)
  have hparse : parse "\t-straße4 -\u0301x" =
      ⟨.error (.unknownName "-straße4 -\u0301x"), [.nameMiss "STRASSE_4_-\u0301X"]⟩ := by
    rw [parse, htrim, ← hname]
    exact parseTrimmed_of_outcome (outcome_of_isDigit (d := '4') rfl (by decide +kernel) hnumeral)
  refine ⟨congrArg Logged.events hparse, letters_of_missed_name (congrArg Logged.value hparse) ?_⟩
  rw [hparse]
  exact List.mem_singleton_self _

end StatusRegistry
