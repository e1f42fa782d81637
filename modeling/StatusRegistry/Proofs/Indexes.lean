/-
StatusRegistry/Proofs/Indexes.lean

The two indexes of the registry.  One finds a code by its name, by reading the
table from the front; the other finds a code by its value, by halving.  Each of
them goes from some key to a code, and a code leads back to both of its keys.

Main result: the indexes are inverse to each other (`indexes_inverse`).  Looking
up the value of a name, and then the code of that value, ends at the code that
has the name; so it does in the other order.  A name that no code has is quoted
as it stands, in the error and in the one event that is reported.

Behind it stands what each look-up finds (`value_lookup_eq_ok_iff`,
`value_fromValue_eq_ok_iff`), said of the code alone.  How the table is read
plays no part any more.
-/
import StatusRegistry.Proofs.Registry

namespace StatusRegistry

variable {name : String} {v : UInt16} {c : StatusCode}

/-! ### What a look-up finds -/

theorem value_lookup_eq_ok_iff : (lookup name).value = .ok c ↔ c.name = name := by
  rw [← StatusCode.ofName?_eq_some_iff, lookup]
  rcases StatusCode.ofName? name with - | d <;> simp

theorem value_fromValue_eq_ok_iff : (fromValue v).value = .ok c ↔ c.value = v := by
  rw [← StatusCode.ofValue?_eq_some_iff, fromValue]
  rcases StatusCode.ofValue? v with - | d <;> simp

theorem valueOf_name (c : StatusCode) : valueOf c.name = ⟨.ok c.value, []⟩ := by
  rw [valueOf, lookup_name]
  rfl

theorem valueOf_of_forall_ne (h : ∀ c : StatusCode, c.name ≠ name) :
    valueOf name = ⟨.error (.unknownName name), [.nameMiss name]⟩ := by
  rw [valueOf, lookup_of_forall_ne h]
  rfl

/-- Only the name of a code has a value. -/
theorem exists_name_of_value_valueOf_eq_ok (h : (valueOf name).value = .ok v) :
    ∃ c : StatusCode, c.name = name ∧ c.value = v := by
  by_cases hex : ∃ c : StatusCode, c.name = name
  · obtain ⟨c, rfl⟩ := hex
    rw [valueOf_name] at h
    exact ⟨c, rfl, Except.ok.inj h⟩
  · rw [valueOf_of_forall_ne (not_exists.mp hex)] at h
    cases h

/-! ### There and back -/

/-- **The indexes are inverse to each other.**  A name has a value if and only if the value is that
of a code with this name, and that very code is found by the name.  Of a name that no code has, both
look-ups by name report one event, for those who debug, and fail; both carry the name as it stands.
Of what is found nothing is reported. -/
theorem indexes_inverse (name : String) (v : UInt16) :
    ((valueOf name).value = .ok v ↔ ∃ c, (fromValue v).value = .ok c ∧ c.name = name) ∧
    (∀ c, (fromValue v).value = .ok c → c.name = name → (lookup name).value = .ok c) ∧
    ((∀ c : StatusCode, c.name ≠ name) →
      lookup name = ⟨.error (.unknownName name), [.nameMiss name]⟩ ∧
      valueOf name = ⟨.error (.unknownName name), [.nameMiss name]⟩ ∧
      (Event.nameMiss name).level = .debug ∧ (Event.nameMiss name).fields = [("name", name)]) ∧
    (∀ c, (lookup name).value = .ok c → (lookup name).events = []) ∧
    (∀ w, (valueOf name).value = .ok w → (valueOf name).events = []) := by
  refine ⟨?_, ?_, ?_, ?_, ?_⟩
  · constructor
    · intro h
      obtain ⟨c, hname, hvalue⟩ := exists_name_of_value_valueOf_eq_ok h
      exact ⟨c, value_fromValue_eq_ok_iff.mpr hvalue, hname⟩
    · rintro ⟨c, hc, rfl⟩
      obtain rfl := value_fromValue_eq_ok_iff.mp hc
      rw [valueOf_name]
  · -- The value plays no part: the name alone leads to its code.
    intro c _ hname
    exact value_lookup_eq_ok_iff.mpr hname
  · intro h
    exact ⟨lookup_of_forall_ne h, valueOf_of_forall_ne h, rfl, rfl⟩
  · intro c h
    obtain rfl := value_lookup_eq_ok_iff.mp h
    rw [lookup_name]
  · intro w h
    obtain ⟨c, rfl, -⟩ := exists_name_of_value_valueOf_eq_ok h
    rw [valueOf_name]

/-- A name and its value, and two texts that are almost the name. -/
theorem indexes_of_notFound :
    ((valueOf "NOT_FOUND").value = .ok 404 ∧ (lookup "NOT_FOUND").value = .ok .notFound) ∧
    (valueOf "not_found").events = [.nameMiss "not_found"] ∧
    (lookup " NOT_FOUND").value = .error (.unknownName " NOT_FOUND") := by
  obtain ⟨hvalue, hcode, -⟩ := indexes_inverse "NOT_FOUND" 404
  obtain ⟨-, -, hlower, -⟩ := indexes_inverse "not_found" 404
  obtain ⟨-, -, hpadded, -⟩ := indexes_inverse " NOT_FOUND" 404
  have hfound : (fromValue 404).value = .ok .notFound := value_fromValue_eq_ok_iff.mpr rfl
  refine ⟨⟨hvalue.mpr ⟨.notFound, hfound, rfl⟩, hcode .notFound hfound rfl⟩, ?_, ?_⟩
  · rw [(hlower (StatusCode.ofName?_eq_none_iff.mp (by decide +kernel))).2.1]
  · rw [(hpadded (StatusCode.ofName?_eq_none_iff.mp (by decide +kernel))).1]

end StatusRegistry
