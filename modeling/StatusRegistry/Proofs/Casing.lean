/-
StatusRegistry/Proofs/Casing.lean

Words in ASCII letters, and the three ways to write one: in lowercase, in
uppercase, and capitalized (`Casing`).

Two views of a written word are kept apart.  `Casing.write` writes a given
word.  `IsCased` says of a run of letters that it looks like a written word:
after the first letter there are lowercase letters only, or there are uppercase
letters throughout.  They agree (`isCased_write`, `exists_write`), and the word
that was written is found by mapping to uppercase (`upper_write`).

Main result: the reader of words goes through a written word without ending it
(`wordsFrom_of_isCased`).  A lowercase letter never begins a word after a letter;
an uppercase letter after another one does if a lowercase letter follows, so the
letter after a word must not be a lowercase one.

In a text of letters and separators every character is a cluster of its own
(`clusters_of_isPlain`).
-/
import StatusRegistry.Proofs.Ascii

namespace StatusRegistry.Text

/-! ### Letters and separators -/

/-- An ASCII letter, or a separator. -/
def IsPlain (x : Char) : Prop :=
  x.isUpper = true ∨ x.isLower = true ∨ isSeparator x = true

instance (x : Char) : Decidable (IsPlain x) :=
  inferInstanceAs (Decidable (_ ∨ _ ∨ _))

theorem isAscii_of_isPlain {x : Char} (h : IsPlain x) : IsAscii x := by
  rcases h with hu | hl | hs
  · exact isAscii_of_isUpper hu
  · exact isAscii_of_isLower hl
  · exact isAscii_of_isSeparator hs

/-- What is plain and no separator is a letter. -/
theorem IsPlain.isLetter {x : Char} (h : IsPlain x) (hsep : ¬ isSeparator x = true) :
    x.isUpper = true ∨ x.isLower = true := by
  rcases h with hu | hl | hs
  · exact .inl hu
  · exact .inr hl
  · exact absurd hs hsep

theorem breakClass_of_isPlain {x : Char} (h : IsPlain x) : breakClass x = .other :=
  forall_ascii (P := fun x => IsPlain x → breakClass x = .other) (by decide +kernel)
    (isAscii_of_isPlain h) h

theorem clusters_of_isPlain {t : List Char} (ht : ∀ x ∈ t, IsPlain x) :
    clusters t = t.map ([·]) :=
  clusters_of_breakClass_other fun x hx => breakClass_of_isPlain (ht x hx)

/-! ### Ways to write a word -/

/-- How the letters of a word are written. -/
inductive Casing where
  | lower
  | upper
  /-- The first letter in uppercase, the others in lowercase. -/
  | capitalized
deriving DecidableEq, Repr

/-- Writes a word that is given in uppercase. -/
def Casing.write : Casing → List Char → List Char
  | .lower, w => w.map Char.toLower
  | .upper, w => w
  | .capitalized, [] => []
  | .capitalized, x :: w => x :: w.map Char.toLower

/-- A word as symbolic names have them: uppercase letters, one at least. -/
structure IsWord (w : List Char) : Prop where
  ne_nil : w ≠ []
  isUpper : ∀ x ∈ w, x.isUpper = true

instance (w : List Char) : Decidable (IsWord w) :=
  decidable_of_iff (w ≠ [] ∧ w.all Char.isUpper = true)
    ⟨fun ⟨hne, hu⟩ => ⟨hne, List.all_eq_true.mp hu⟩,
      fun h => ⟨h.ne_nil, List.all_eq_true.mpr h.isUpper⟩⟩

/-- The letters look like one word: those after the first are all in lowercase, or all letters are
in uppercase. -/
inductive IsCased : List Char → Prop
  | lowerTail {x : Char} {xs : List Char} (hx : x.isUpper = true ∨ x.isLower = true)
      (hxs : ∀ y ∈ xs, y.isLower = true) : IsCased (x :: xs)
  | upper {x : Char} {xs : List Char} (h : ∀ y ∈ x :: xs, y.isUpper = true) : IsCased (x :: xs)

theorem IsCased.exists_cons {W : List Char} (h : IsCased W) : ∃ x xs, W = x :: xs := by
  cases h <;> exact ⟨_, _, rfl⟩

theorem IsCased.ne_nil {W : List Char} (h : IsCased W) : W ≠ [] := by
  obtain ⟨x, xs, rfl⟩ := h.exists_cons
  exact List.cons_ne_nil x xs

theorem IsCased.isLetter {W : List Char} (h : IsCased W) :
    ∀ x ∈ W, x.isUpper = true ∨ x.isLower = true := by
  cases h with
  | lowerTail hx hxs => exact List.forall_mem_cons.mpr ⟨hx, fun y hy => .inr (hxs y hy)⟩
  | upper hu => exact fun y hy => .inl (hu y hy)

theorem IsCased.isPlain {W : List Char} (h : IsCased W) : ∀ x ∈ W, IsPlain x := by
  intro x hx
  rcases h.isLetter x hx with hu | hl
  · exact .inl hu
  · exact .inr (.inl hl)

theorem isLower_toLower_of_isUpper {x : Char} (h : x.isUpper = true) : x.toLower.isLower = true :=
  forall_isUpper (P := fun x => x.toLower.isLower = true) (by decide) h

theorem isUpper_toUpper_of_isLower {x : Char} (h : x.isLower = true) : x.toUpper.isUpper = true :=
  forall_isLower (P := fun x => x.toUpper.isUpper = true) (by decide) h

theorem isLower_of_isUpper {x : Char} (h : x.isUpper = true) : x.isLower = false :=
  forall_isUpper (P := fun x => x.isLower = false) (by decide) h

theorem toLower_toUpper_of_isLower {x : Char} (h : x.isLower = true) : x.toUpper.toLower = x :=
  forall_isLower (P := fun x => x.toUpper.toLower = x) (by decide) h

theorem isLower_of_mem_map_toLower {w : List Char} (hw : ∀ x ∈ w, x.isUpper = true) :
    ∀ y ∈ w.map Char.toLower, y.isLower = true := by
  intro y hy
  obtain ⟨x, hx, rfl⟩ := List.mem_map.mp hy
  exact isLower_toLower_of_isUpper (hw x hx)

/-- A written word looks like one. -/
theorem isCased_write (k : Casing) {w : List Char} (h : IsWord w) : IsCased (k.write w) := by
  obtain ⟨hne, hu⟩ := h
  obtain ⟨x, w, rfl⟩ := List.exists_cons_of_ne_nil hne
  have hx := hu x List.mem_cons_self
  have hw : ∀ y ∈ w, y.isUpper = true := fun y hy => hu y (List.mem_cons_of_mem x hy)
  cases k with
  | lower => exact .lowerTail (.inr (isLower_toLower_of_isUpper hx)) (isLower_of_mem_map_toLower hw)
  | upper => exact .upper hu
  | capitalized => exact .lowerTail (.inl hx) (isLower_of_mem_map_toLower hw)

/-! ### The word that is written -/

theorem upperChar_of_isUpper {x : Char} (h : x.isUpper = true) : upperChar x = [x] := by
  rw [upperChar_of_ascii (isAscii_of_isUpper h)]
  exact forall_isUpper (P := fun x => [x.toUpper] = [x]) (by decide) h

theorem upper_of_isUpper {w : List Char} (h : ∀ x ∈ w, x.isUpper = true) : upper w = w :=
  upper_eq_self fun x hx => upperChar_of_isUpper (h x hx)

theorem upper_of_isLower {w : List Char} (h : ∀ x ∈ w, x.isLower = true) :
    upper w = w.map Char.toUpper := by
  induction w with
  | nil => rfl
  | cons x w ih =>
    rw [upper_cons, upperChar_of_ascii (isAscii_of_isLower (h x List.mem_cons_self)),
      ih fun y hy => h y (List.mem_cons_of_mem x hy)]
    rfl

/-- Writing a word and reading it in uppercase gives the word. -/
theorem upper_write (k : Casing) {w : List Char} (h : ∀ x ∈ w, x.isUpper = true) :
    upper (k.write w) = w := by
  have hw := upper_of_isUpper h
  cases k with
  | lower => rw [Casing.write, upper_map_toLower, hw]
  | upper => exact hw
  | capitalized =>
    cases w with
    | nil => rfl
    | cons x w => rw [Casing.write, upper_cons, upper_map_toLower, ← upper_cons, hw]

theorem isUpper_upper_of_isLower {w : List Char} (h : ∀ x ∈ w, x.isLower = true) :
    ∀ y ∈ upper w, y.isUpper = true := by
  rw [upper_of_isLower h]
  intro y hy
  obtain ⟨x, hx, rfl⟩ := List.mem_map.mp hy
  exact isUpper_toUpper_of_isLower (h x hx)

theorem map_toLower_upper_of_isLower {w : List Char} (h : ∀ x ∈ w, x.isLower = true) :
    (upper w).map Char.toLower = w := by
  rw [upper_of_isLower h, List.map_map]
  calc w.map (Char.toLower ∘ Char.toUpper)
      = w.map id := List.map_congr_left fun x hx => toLower_toUpper_of_isLower (h x hx)
    _ = w := List.map_id w

theorem isWord_upper {W : List Char} (h : IsCased W) : IsWord (upper W) := by
  cases h with
  | @lowerTail x xs hx hxs =>
    have htail := isUpper_upper_of_isLower hxs
    rcases hx with hu | hl
    · rw [upper_cons, upperChar_of_isUpper hu]
      exact ⟨List.cons_ne_nil _ _, List.forall_mem_cons.mpr ⟨hu, htail⟩⟩
    · rw [upper_cons, upperChar_of_ascii (isAscii_of_isLower hl)]
      exact ⟨List.cons_ne_nil _ _,
        List.forall_mem_cons.mpr ⟨isUpper_toUpper_of_isLower hl, htail⟩⟩
  | upper hu =>
    rw [upper_of_isUpper hu]
    exact ⟨List.cons_ne_nil _ _, hu⟩

/-- Letters that look like one word are a word written in some way. -/
theorem exists_write {W : List Char} (h : IsCased W) : ∃ k : Casing, W = k.write (upper W) := by
  cases h with
  | @lowerTail x xs hx hxs =>
    rcases hx with hu | hl
    · refine ⟨.capitalized, ?_⟩
      rw [upper_cons, upperChar_of_isUpper hu]
      exact congrArg (x :: ·) (map_toLower_upper_of_isLower hxs).symm
    · exact ⟨.lower, (map_toLower_upper_of_isLower (List.forall_mem_cons.mpr ⟨hl, hxs⟩)).symm⟩
  | upper hu => exact ⟨.upper, (upper_of_isUpper hu).symm⟩

/-! ### One step of reading words -/

section

variable {before : Option ClusterKind} {g : List Char} {gs : List (List Char)}

theorem wordsFrom_cons_of_separator (hg : clusterKind g = .separator) :
    wordsFrom before (g :: gs) =
      ([], (wordsFrom (some .separator) gs).1 :: (wordsFrom (some .separator) gs).2) := by
  simp only [wordsFrom, hg, if_pos]

theorem wordsFrom_cons_of_startsWord (hg : clusterKind g ≠ .separator)
    (h : ClusterKind.startsWord before (clusterKind g) (gs.head?.map clusterKind) = true) :
    wordsFrom before (g :: gs) =
      ([], (g ++ (wordsFrom (some (clusterKind g)) gs).1) ::
        (wordsFrom (some (clusterKind g)) gs).2) := by
  simp only [wordsFrom, if_neg hg, if_pos h]

theorem wordsFrom_cons_of_not_startsWord (hg : clusterKind g ≠ .separator)
    (h : ¬ ClusterKind.startsWord before (clusterKind g) (gs.head?.map clusterKind) = true) :
    wordsFrom before (g :: gs) =
      (g ++ (wordsFrom (some (clusterKind g)) gs).1, (wordsFrom (some (clusterKind g)) gs).2) := by
  simp only [wordsFrom, if_neg hg, if_neg h]

end

/-! ### Reading a written word -/

/-- The kind of the last letter, if there is one. -/
def lastKind (w : List Char) : Option ClusterKind :=
  w.getLast?.map fun x => clusterKind [x]

@[simp] theorem lastKind_singleton (x : Char) : lastKind [x] = some (clusterKind [x]) := rfl

@[simp] theorem lastKind_cons_cons (x y : Char) (w : List Char) :
    lastKind (x :: y :: w) = lastKind (y :: w) := by
  simp [lastKind]

theorem clusterKind_ne_separator {x : Char} (h : x.isUpper = true ∨ x.isLower = true) :
    clusterKind [x] ≠ .separator := by
  rcases h with hu | hl
  · rw [clusterKind_of_isUpper hu]
    decide
  · rw [clusterKind_of_isLower hl]
    decide

/-- After a separator, as at the beginning of a text, no border is seen. -/
theorem not_startsWord_separator (k : ClusterKind) (after : Option ClusterKind) :
    ¬ ClusterKind.startsWord (some .separator) k after = true := by
  cases k <;> simp [ClusterKind.startsWord, ClusterKind.changes]

/-- Lowercase letters go on with the word. -/
theorem wordsFrom_of_isLower {x : Char} {xs : List Char} (gs : List (List Char))
    (hx : x.isUpper = true ∨ x.isLower = true) (hxs : ∀ y ∈ xs, y.isLower = true) :
    wordsFrom (some (clusterKind [x])) (xs.map ([·]) ++ gs) =
      (xs ++ (wordsFrom (lastKind (x :: xs)) gs).1, (wordsFrom (lastKind (x :: xs)) gs).2) := by
  induction xs generalizing x with
  | nil => rfl
  | cons y ys ih =>
    obtain ⟨hy, hys⟩ := List.forall_mem_cons.mp hxs
    -- The border rules look at a lowercase letter only after a digit.
    have hgo : ∀ after,
        ¬ ClusterKind.startsWord (some (clusterKind [x])) (clusterKind [y]) after = true := by
      intro after
      rw [clusterKind_of_isLower hy]
      rcases hx with hu | hl
      · simp [clusterKind_of_isUpper hu, ClusterKind.startsWord, ClusterKind.changes]
      · simp [clusterKind_of_isLower hl, ClusterKind.startsWord, ClusterKind.changes]
    rw [List.map_cons, List.cons_append,
      wordsFrom_cons_of_not_startsWord (clusterKind_ne_separator (.inr hy)) (hgo _),
      ih (.inr hy) hys, lastKind_cons_cons]
    rfl

/-- Uppercase letters go on with the word, unless a lowercase letter follows. -/
theorem wordsFrom_of_isUpper {x : Char} {xs : List Char} {gs : List (List Char)}
    (h : ∀ y ∈ x :: xs, y.isUpper = true) (hgs : gs.head?.map clusterKind ≠ some .lower) :
    wordsFrom (some (clusterKind [x])) (xs.map ([·]) ++ gs) =
      (xs ++ (wordsFrom (lastKind (x :: xs)) gs).1, (wordsFrom (lastKind (x :: xs)) gs).2) := by
  induction xs generalizing x with
  | nil => rfl
  | cons y ys ih =>
    obtain ⟨hx, hys⟩ := List.forall_mem_cons.mp h
    obtain ⟨hy, -⟩ := List.forall_mem_cons.mp hys
    -- After `y` there is an uppercase letter, or what follows the word.
    have hafter : (ys.map ([·]) ++ gs).head?.map clusterKind ≠ some .lower := by
      cases ys with
      | nil => exact hgs
      | cons z zs => simp [clusterKind_of_isUpper (hys z (by simp))]
    have hgo : ¬ ClusterKind.startsWord (some (clusterKind [x])) (clusterKind [y])
        ((ys.map ([·]) ++ gs).head?.map clusterKind) = true := by
      rw [clusterKind_of_isUpper hx, clusterKind_of_isUpper hy]
      simpa [ClusterKind.startsWord, ClusterKind.changes] using hafter
    rw [List.map_cons, List.cons_append,
      wordsFrom_cons_of_not_startsWord (clusterKind_ne_separator (.inl hy)) hgo, ih hys,
      lastKind_cons_cons]
    rfl

/-- **A written word is read to its end.**  Where no word ends at a border, all of its letters go
into the word being read. -/
theorem wordsFrom_of_isCased {W : List Char} {gs : List (List Char)} (h : IsCased W)
    (hgs : gs.head?.map clusterKind ≠ some .lower) :
    wordsFrom (some .separator) (W.map ([·]) ++ gs) =
      (W ++ (wordsFrom (lastKind W) gs).1, (wordsFrom (lastKind W) gs).2) := by
  cases h with
  | @lowerTail x xs hx hxs =>
    rw [List.map_cons, List.cons_append,
      wordsFrom_cons_of_not_startsWord (clusterKind_ne_separator hx) (not_startsWord_separator _ _),
      wordsFrom_of_isLower gs hx hxs]
    rfl
  | @upper x xs hu =>
    have hx := List.forall_mem_cons.mp hu |>.1
    rw [List.map_cons, List.cons_append,
      wordsFrom_cons_of_not_startsWord (clusterKind_ne_separator (.inl hx))
        (not_startsWord_separator _ _),
      wordsFrom_of_isUpper hu hgs]
    rfl

end StatusRegistry.Text
