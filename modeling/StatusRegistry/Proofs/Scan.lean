/-
StatusRegistry/Proofs/Scan.lean

Looking up a value without halving: the table is read from the front, and the
first code with the value is taken (`scanValue`).

Main result: the look-up by value, which halves, has the outcome and the events
of the scan (`fromValue_eq_scan`).

That is so for every ascending array (`map_search_eq_find?`).  Of the table no
more is needed than that its values ascend.
-/
import StatusRegistry.Proofs.Indexes

namespace StatusRegistry

/-! ### The look-up by value -/

theorem StatusCode.ofValue?_eq_find? (v : UInt16) :
    StatusCode.ofValue? v = StatusCode.all.find? (·.value = v) :=
  map_search_eq_find? StatusCode.ascending_byValue

/-- Looks up a code by its value, reading the table from the front. -/
def scanValue (v : UInt16) : Logged (Except LookupError StatusCode) :=
  match StatusCode.all.find? (·.value = v) with
  | some c => ⟨.ok c, []⟩
  | none => ⟨.error (.unregisteredValue v), [.valueMiss v]⟩

theorem fromValue_eq_scanValue (v : UInt16) : fromValue v = scanValue v := by
  rw [fromValue, scanValue, StatusCode.ofValue?_eq_find?]
  rcases StatusCode.all.find? (·.value = v) with - | c <;> rfl

theorem hasValue_iff {c : StatusCode} {v : UInt16} : c.hasValue v = true ↔ c.value = v :=
  beq_iff_eq

theorem isValueOf_iff {c : StatusCode} {v : UInt16} :
    StatusCode.isValueOf v c = true ↔ c.value = v :=
  beq_iff_eq.trans eq_comm

/-- **The look-up by value agrees with a scan of the table**, in the outcome and in the events: the
first code with the value, and no event, or the value as one that is not registered, and one event
for those who debug.  So does the conversion from a word.  An index that halving finds is within the
table, and leads to the code that is looked up.  A code is looked up by a value if and only if it is
equal to the value, whichever of the two stands on the left. -/
theorem fromValue_eq_scan (v : UInt16) :
    fromValue v = scanValue v ∧
    StatusCode.ofUInt16 v = scanValue v ∧
    (∀ i, search StatusCode.byValue StatusCode.value v = some i →
      ∃ h : i.val < StatusCode.all.length, fromValue v = ⟨.ok StatusCode.all[i.val], []⟩) ∧
    (∀ c : StatusCode, (fromValue v).value = .ok c ↔ c.hasValue v = true) ∧
    (∀ c : StatusCode, c.hasValue v = true ↔ StatusCode.isValueOf v c = true) ∧
    (Event.valueMiss v).level = .debug ∧ (Event.valueMiss v).target = "http_status::registry" ∧
    (Event.valueMiss v).fields = [("value", toString v.toNat)] := by
  refine ⟨fromValue_eq_scanValue v, fromValue_eq_scanValue v, ?_, ?_, ?_, rfl, rfl, rfl⟩
  · intro i hi
    have hlt : i.val < StatusCode.all.length := i.isLt
    have hvalue : StatusCode.all[i.val].value = v :=
      (search_eq_some_iff StatusCode.ascending_byValue).mp hi
    exact ⟨hlt, by rw [← hvalue, fromValue_value]⟩
  · intro c
    rw [value_fromValue_eq_ok_iff, hasValue_iff]
  · intro c
    rw [hasValue_iff, isValueOf_iff]

/-- The last code of the table, and a value in the gap before it. -/
theorem fromValue_at_end :
    (∃ h : 49 < StatusCode.all.length, fromValue 511 = ⟨.ok StatusCode.all[49], []⟩) ∧
    fromValue 509 = ⟨.error (.unregisteredValue 509), [.valueMiss 509]⟩ := by
  obtain ⟨-, -, hindex, -⟩ := fromValue_eq_scan 511
  obtain ⟨hscan, -⟩ := fromValue_eq_scan 509
  refine ⟨hindex ⟨49, by decide⟩ ?_, ?_⟩
  · exact (search_eq_some_iff StatusCode.ascending_byValue).mpr rfl
  · rw [hscan]
    decide +kernel

end StatusRegistry
