/-
StatusRegistry/Proofs/Registry.lean

What holds of the table of codes, and what follows for looking codes up.

The table is finite, so what all its rows have in common is evaluated
(`Entry.WellFormed`, `entry_wellFormed`), as is that no two codes have the same
name without underscores (`unseparated_name_injective`), that values ascend
(`ascending_byValue`) and that they lie from 100 to 599 (`value_bounds`).  These
are the only four places where the table is opened.

Every look-up then finds a code if and only if the code has what is looked for
(`ofName?_eq_some_iff`, `ofTitle?_eq_some_iff`, `ofValue?_eq_some_iff`): a scan
for the first match is as good as any, because there is one match at most.
-/
import Mathlib.Data.List.Nodup
import StatusRegistry.Parse
import StatusRegistry.Proofs.Casing
import StatusRegistry.Proofs.Search
import StatusRegistry.Proofs.Unseparated

namespace StatusRegistry

open Text

/-! ### The rows of the table -/

/-- What a row of the table has to be like. -/
structure Entry.WellFormed (e : Entry) : Prop where
  name_letters : ∀ x ∈ e.name.toList, x.isUpper = true ∨ x = '_'
  /-- Between the underscores there are words. -/
  name_words : ∀ w ∈ e.name.toList.splitOn '_', IsWord w
  title_trimmed : trim e.title.toList = e.title.toList
  /-- The title and the name have the same letters. -/
  title_spells : unseparated (upper e.title.toList) = unseparated e.name.toList

instance (e : Entry) : Decidable e.WellFormed :=
  decidable_of_iff
    ((e.name.toList.all fun x => x.isUpper || x = '_') = true ∧
      (∀ w ∈ e.name.toList.splitOn '_', IsWord w) ∧ trim e.title.toList = e.title.toList ∧
      unseparated (upper e.title.toList) = unseparated e.name.toList)
    ⟨fun ⟨hl, hw, ht, hs⟩ => ⟨by simpa using hl, hw, ht, hs⟩,
      fun h => ⟨by simpa using h.1, h.2, h.3, h.4⟩⟩

namespace StatusCode

theorem entry_wellFormed (c : StatusCode) : c.entry.WellFormed := by
  have h : ∀ c ∈ all, c.entry.WellFormed := by decide +kernel
  exact h c (mem_all c)

theorem nodup_unseparated_names : (all.map fun c => unseparated c.name.toList).Nodup := by
  decide +kernel

/-- Names differ in more than underscores. -/
theorem unseparated_name_injective {c d : StatusCode}
    (h : unseparated c.name.toList = unseparated d.name.toList) : c = d :=
  List.inj_on_of_nodup_map nodup_unseparated_names (mem_all c) (mem_all d) h

theorem name_injective {c d : StatusCode} (h : c.name = d.name) : c = d :=
  unseparated_name_injective (by rw [h])

/-- There is no digit in a name. -/
theorem not_mem_name_of_isDigit {x : Char} (hx : isDigit x = true) (c : StatusCode) :
    x ∉ c.name.toList := by
  intro hmem
  rcases c.entry_wellFormed.name_letters x hmem with hu | rfl
  · have hnot : isDigit x = false := forall_isUpper (P := fun x => isDigit x = false) (by decide) hu
    rw [hx] at hnot
    cases hnot
  · cases hx

theorem not_isWhiteSpace_of_mem_name {x : Char} {c : StatusCode} (h : x ∈ c.name.toList) :
    isWhiteSpace x = false := by
  rcases c.entry_wellFormed.name_letters x h with hu | rfl
  · exact forall_isUpper (P := fun x => isWhiteSpace x = false) (by decide) hu
  · rfl

/-- The only separators in a name are underscores. -/
theorem unseparated_name (c : StatusCode) :
    unseparated c.name.toList = c.name.toList.filter (· ≠ '_') := by
  apply List.filter_congr
  intro x hx
  rcases c.entry_wellFormed.name_letters x hx with hu | rfl
  · exact forall_isUpper (P := fun x => (!isSeparator x) = decide (x ≠ '_')) (by decide) hu
  · rfl

/-! ### Titles -/

/-- A text that is the title of a code spells its name. -/
theorem unseparated_upper_of_isTitled {c : StatusCode} {t : List Char} (h : c.isTitled t = true) :
    unseparated (upper t) = unseparated c.name.toList := by
  rw [← upper_eq_of_equalUpToAsciiCase h]
  exact c.entry_wellFormed.title_spells

theorem isTitled_unique {c d : StatusCode} {t : List Char} (hc : c.isTitled t = true)
    (hd : d.isTitled t = true) : c = d :=
  unseparated_name_injective
    ((unseparated_upper_of_isTitled hc).symm.trans (unseparated_upper_of_isTitled hd))

/-! ### Looking up -/

/-- A scan for the first code with a property that no two codes share. -/
theorem find?_all_eq_some_iff {p : StatusCode → Bool} {c : StatusCode}
    (hp : ∀ {c d}, p c = true → p d = true → c = d) : all.find? p = some c ↔ p c = true := by
  constructor
  · exact List.find?_some
  · intro hc
    rcases hf : all.find? p with - | d
    · exact absurd hc (List.find?_eq_none.mp hf c (mem_all c))
    · rw [hp (List.find?_some hf) hc]

theorem ofName?_eq_some_iff {name : String} {c : StatusCode} :
    ofName? name = some c ↔ c.name = name := by
  rw [ofName?, find?_all_eq_some_iff fun hc hd => name_injective (by simp_all), decide_eq_true_iff]

theorem ofName?_eq_none_iff {name : String} : ofName? name = none ↔ ∀ c : StatusCode, c.name ≠ name := by
  simp [Option.eq_none_iff_forall_ne_some, ofName?_eq_some_iff]

theorem ofTitle?_eq_some_iff {t : List Char} {c : StatusCode} :
    ofTitle? t = some c ↔ c.isTitled t = true :=
  find?_all_eq_some_iff isTitled_unique

theorem ofTitle?_eq_none_iff {t : List Char} :
    ofTitle? t = none ↔ ∀ c : StatusCode, ¬ c.isTitled t = true := by
  simp [Option.eq_none_iff_forall_ne_some, ofTitle?_eq_some_iff]

/-! ### Looking up a value -/

theorem pairwise_value_all : all.Pairwise fun c d => c.value < d.value := by
  decide +kernel

/-- Every code has three digits, the first of them from 1 to 5. -/
theorem value_bounds (c : StatusCode) : 100 ≤ c.value.toNat ∧ c.value.toNat ≤ 599 := by
  have h : ∀ c ∈ all, 100 ≤ c.value.toNat ∧ c.value.toNat ≤ 599 := by decide +kernel
  exact h c (mem_all c)

theorem ascending_byValue : Ascending byValue value := by
  intro i j hij
  exact List.pairwise_iff_getElem.mp pairwise_value_all i j i.isLt j.isLt hij

theorem ofValue?_eq_some_iff {v : UInt16} {c : StatusCode} : ofValue? v = some c ↔ c.value = v := by
  simp only [ofValue?, Option.map_eq_some_iff, search_eq_some_iff ascending_byValue]
  constructor
  · rintro ⟨i, hv, rfl⟩
    exact hv
  · rintro rfl
    obtain ⟨i, hi, h⟩ := List.getElem_of_mem (mem_all c)
    exact ⟨⟨i, hi⟩, congrArg value h, h⟩

theorem ofValue?_eq_none_iff {v : UInt16} : ofValue? v = none ↔ ∀ c : StatusCode, c.value ≠ v := by
  simp [Option.eq_none_iff_forall_ne_some, ofValue?_eq_some_iff]

theorem value_injective {c d : StatusCode} (h : c.value = d.value) : c = d :=
  Option.some.inj ((ofValue?_eq_some_iff.mpr rfl).symm.trans (ofValue?_eq_some_iff.mpr h.symm))

end StatusCode

/-! ### The look-ups that report -/

theorem lookup_name (c : StatusCode) : lookup c.name = ⟨.ok c, []⟩ := by
  rw [lookup, StatusCode.ofName?_eq_some_iff.mpr rfl]
  rfl

theorem lookup_of_forall_ne {name : String} (h : ∀ c : StatusCode, c.name ≠ name) :
    lookup name = ⟨.error (.unknownName name), [.nameMiss name]⟩ := by
  rw [lookup, StatusCode.ofName?_eq_none_iff.mpr h]
  rfl

theorem fromValue_value (c : StatusCode) : fromValue c.value = ⟨.ok c, []⟩ := by
  rw [fromValue, StatusCode.ofValue?_eq_some_iff.mpr rfl]
  rfl

theorem fromValue_of_forall_ne {v : UInt16} (h : ∀ c : StatusCode, c.value ≠ v) :
    fromValue v = ⟨.error (.unregisteredValue v), [.valueMiss v]⟩ := by
  rw [fromValue, StatusCode.ofValue?_eq_none_iff.mpr h]
  rfl

end StatusRegistry
