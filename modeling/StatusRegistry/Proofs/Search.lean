/-
StatusRegistry/Proofs/Search.lean

Search by halving is right on an array whose keys ascend strictly
(`Ascending`): it finds an index if and only if the key there is the target
(`search_eq_some_iff`).

The invariant of the loop is that the index sought, if there is one, lies in
the window from `lo` up to `hi`.  A step keeps it, because all keys on the other
side of the middle are too small or too large.  That a reported index holds the
target needs no order at all.

Halving also finds what a scan from the front finds (`map_search_eq_find?`).  A
scan takes the first element with the key and halving takes any, but where keys
ascend strictly there is no second one.
-/
import StatusRegistry.Search

namespace StatusRegistry

variable {α : Type} {xs : Array α} {key : α → UInt16} {target : UInt16}

/-- Later elements have greater keys. -/
def Ascending (xs : Array α) (key : α → UInt16) : Prop :=
  ∀ (i j : Fin xs.size), i < j → key xs[i] < key xs[j]

theorem Ascending.injective (hs : Ascending xs key) {i j : Fin xs.size}
    (h : key xs[i] = key xs[j]) : i = j := by
  rcases Nat.lt_trichotomy i j with hij | hij | hij
  · exact absurd (hs i j hij) (h ▸ UInt16.lt_irrefl _)
  · exact Fin.ext hij
  · exact absurd (hs j i hij) (h ▸ UInt16.lt_irrefl _)

/-! ### Whatever the order -/

/-- An index that is reported holds the target. -/
theorem key_of_searchFrom_eq_some {lo hi : Nat} {hi_le : hi ≤ xs.size} {i : Fin xs.size}
    (h : searchFrom xs key target lo hi hi_le = some i) : key xs[i] = target := by
  fun_induction searchFrom xs key target lo hi hi_le with
  | case1 lo hi hi_le hlt mid hm heq =>
    obtain rfl := Option.some.inj h
    exact heq
  | case2 lo hi hi_le hlt mid hm hne hless ih => exact ih h
  | case3 lo hi hi_le hlt mid hm hne hless ih => exact ih h
  | case4 lo hi hi_le hlt => cases h

/-! ### In an ascending array -/

/-- The target is found if it is in the window. -/
theorem searchFrom_eq_some (hs : Ascending xs key) {lo hi : Nat} {hi_le : hi ≤ xs.size}
    {i : Fin xs.size} (hlo : lo ≤ i) (hhi : i < hi) (hkey : key xs[i] = target) :
    searchFrom xs key target lo hi hi_le = some i := by
  fun_induction searchFrom xs key target lo hi hi_le with
  | case1 lo hi hi_le hlt mid hm heq =>
    exact congrArg some (hs.injective (i := ⟨mid, hm⟩) (heq.trans hkey.symm))
  | case2 lo hi hi_le hlt mid hm hne hless ih =>
    -- The middle is too small, and so is everything before it.
    refine ih (Nat.lt_of_not_le fun hle => ?_) hhi hkey
    rcases Nat.lt_or_eq_of_le hle with hlt' | heq
    · exact UInt16.lt_asymm hless (hkey ▸ hs i ⟨mid, hm⟩ hlt')
    · exact hne (by simpa [← heq] using hkey)
  | case3 lo hi hi_le hlt mid hm hne hless ih =>
    -- The middle is too large, and so is everything after it.
    refine ih hlo (Nat.lt_of_not_le fun hle => ?_) hkey
    rcases Nat.lt_or_eq_of_le hle with hlt' | heq
    · exact hless (hkey ▸ hs ⟨mid, hm⟩ i hlt')
    · exact hne (by simpa [heq] using hkey)
  | case4 lo hi hi_le hlt => exact absurd (Nat.lt_of_le_of_lt hlo hhi) hlt

/-- **The search finds exactly the index of the target.** -/
theorem search_eq_some_iff (hs : Ascending xs key) {i : Fin xs.size} :
    search xs key target = some i ↔ key xs[i] = target :=
  ⟨key_of_searchFrom_eq_some, searchFrom_eq_some hs (Nat.zero_le _) i.isLt⟩

/-! ### Halving and scanning -/

/-- In an ascending array, halving finds nothing only if there is nothing to find. -/
theorem search_eq_none_iff (hs : Ascending xs key) :
    search xs key target = none ↔ ∀ x ∈ xs, key x ≠ target := by
  rw [Option.eq_none_iff_forall_ne_some]
  constructor
  · intro h x hx hkey
    obtain ⟨i, hi, rfl⟩ := Array.getElem_of_mem hx
    exact h ⟨i, hi⟩ ((search_eq_some_iff hs).mpr hkey)
  · intro h i hi
    exact h xs[i] (Array.getElem_mem i.isLt) ((search_eq_some_iff hs).mp hi)

/-- In an ascending array, no two elements have the same key. -/
theorem Ascending.eq_of_mem (hs : Ascending xs key) {x y : α} (hx : x ∈ xs) (hy : y ∈ xs)
    (h : key x = key y) : x = y := by
  obtain ⟨i, hi, rfl⟩ := Array.getElem_of_mem hx
  obtain ⟨j, hj, rfl⟩ := Array.getElem_of_mem hy
  have hij : (⟨i, hi⟩ : Fin xs.size) = ⟨j, hj⟩ := hs.injective h
  obtain rfl : i = j := congrArg Fin.val hij
  rfl

/-- **Halving finds what a scan finds**, in every ascending array. -/
theorem map_search_eq_find? (hs : Ascending xs key) :
    (search xs key target).map (fun i => xs[i]) = xs.toList.find? (key · = target) := by
  rcases hi : search xs key target with - | i
  · have hnone := (search_eq_none_iff hs).mp hi
    symm
    rw [Option.map_none, List.find?_eq_none]
    intro x hx
    simpa using hnone x (Array.mem_toList_iff.mp hx)
  · have hkey : key xs[i] = target := (search_eq_some_iff hs).mp hi
    have hmem : xs[i] ∈ xs := Array.getElem_mem i.isLt
    rcases hx : xs.toList.find? (key · = target) with - | x
    · -- The scan passes the element that halving has found, so it cannot end with nothing.
      have hne := List.find?_eq_none.mp hx xs[i] (Array.mem_toList_iff.mpr hmem)
      exact absurd hkey (by simpa using hne)
    · have hxkey : key x = target := by simpa using List.find?_some hx
      have hxmem : x ∈ xs := Array.mem_toList_iff.mp (List.mem_of_find?_eq_some hx)
      rw [Option.map_some, hs.eq_of_mem hmem hxmem (hkey.trans hxkey.symm)]

end StatusRegistry
