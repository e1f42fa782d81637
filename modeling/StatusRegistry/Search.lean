/-
StatusRegistry/Search.lean

Search by halving in an array that is sorted by a key.  The window of indices
that may still hold the target shrinks by at least half in every step, and the
bound of the window is carried along, so every read is within the array and so
is the index that is found.
-/

namespace StatusRegistry

variable {α : Type}

/-- The search among the indices from `lo` up to, but without, `hi`. -/
def searchFrom (xs : Array α) (key : α → UInt16) (target : UInt16) (lo hi : Nat)
    (hi_le : hi ≤ xs.size) : Option (Fin xs.size) :=
  if h : lo < hi then
    let mid := lo + (hi - lo) / 2
    have hm : mid < xs.size := by omega
    if key xs[mid] = target then some ⟨mid, hm⟩
    else if key xs[mid] < target then searchFrom xs key target (mid + 1) hi hi_le
    else searchFrom xs key target lo mid (by omega)
  else none
termination_by hi - lo

/-- An index whose element has the key `target`, if the array, sorted by its keys, has one. -/
def search (xs : Array α) (key : α → UInt16) (target : UInt16) : Option (Fin xs.size) :=
  searchFrom xs key target 0 xs.size (Nat.le_refl _)

end StatusRegistry
