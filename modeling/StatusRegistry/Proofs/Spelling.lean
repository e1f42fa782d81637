/-
StatusRegistry/Proofs/Spelling.lean

How a list of words is spelled in ASCII: each word is written in one of the
three casings, and between two of them stand separators, or nothing, where the
border can be seen without (`Spelled`).  Separators at the ends do not count.

Main results: reading the words of a text that is cut into written words gives
these words (`words_of_cut`), and every text of letters and separators, but for
separators alone, can be cut in this way (`exists_cut`).  Since no text has two
lists of words, spelling some words is the same as having them
(`upper_words_eq_iff`), or their symbolic name (`upperSnake_eq_iff`).

The relation for borders is left open in the definitions.  The one that the
reader of words sees is `Abuts`: an uppercase letter that follows a lowercase
one, or that a lowercase one follows.  In `IMUsed` there is a border of the
second sort.
-/
import Mathlib.Data.List.Forall2
import StatusRegistry.Proofs.Casing

namespace StatusRegistry.Text

/-! ### Spelled texts -/

/-- The case rises from `V` to `W`: from a lowercase letter to an uppercase one. -/
def Rises (V W : List Char) : Prop :=
  V.getLast?.any Char.isLower = true ∧ W.head?.any Char.isUpper = true

/-- The border between `V` and `W` is seen without a separator: the case rises there, or `W` is
capitalized and has two letters at least. -/
def Abuts (V W : List Char) : Prop :=
  W.head?.any Char.isUpper = true ∧
    (V.getLast?.any Char.isLower = true ∨ W[1]?.any Char.isLower = true)

/-- What stands between `V` and `W`: separators, or nothing if the words may abut. -/
def Joins (abut : List Char → List Char → Prop) (V j W : List Char) : Prop :=
  (j ≠ [] ∧ ∀ x ∈ j, isSeparator x = true) ∨ (j = [] ∧ abut V W)

/-- The text consists of the written words, joined one to the next. -/
inductive Strung (abut : List Char → List Char → Prop) : List (List Char) → List Char → Prop
  | single (W : List Char) : Strung abut [W] W
  | cons {V W j t : List Char} {Ws : List (List Char)} (hj : Joins abut V j W)
      (ht : Strung abut (W :: Ws) t) : Strung abut (V :: W :: Ws) (V ++ j ++ t)

/-- The text consists of the written words, with any separators around them. -/
def Cut (abut : List Char → List Char → Prop) (Ws : List (List Char)) (t : List Char) : Prop :=
  ∃ a u b, (∀ x ∈ a, isSeparator x = true) ∧ (∀ x ∈ b, isSeparator x = true) ∧
    Strung abut Ws u ∧ t = a ++ u ++ b

/-- The text spells the words `ws`, each in one of the casings. -/
def Spelled (abut : List Char → List Char → Prop) (ws : List (List Char)) (t : List Char) : Prop :=
  ∃ Ws, List.Forall₂ (fun w W => ∃ k : Casing, W = k.write w) ws Ws ∧ Cut abut Ws t

/-! ### The words of a list of clusters -/

/-- All words of the clusters, the one that is being read included. -/
def allWordsFrom (before : Option ClusterKind) (gs : List (List Char)) : List (List Char) :=
  ((wordsFrom before gs).1 :: (wordsFrom before gs).2).filter fun w => !w.isEmpty

theorem words_eq_allWordsFrom (t : List Char) : words t = allWordsFrom none (clusters t) := rfl

/-- The beginning of a text is like a separator. -/
theorem wordsFrom_none (gs : List (List Char)) :
    wordsFrom none gs = wordsFrom (some .separator) gs := by
  cases gs with
  | nil => rfl
  | cons g gs =>
    by_cases hg : clusterKind g = .separator
    · rw [wordsFrom_cons_of_separator hg, wordsFrom_cons_of_separator hg]
    · rw [wordsFrom_cons_of_not_startsWord hg (by simp [ClusterKind.startsWord]),
        wordsFrom_cons_of_not_startsWord hg (not_startsWord_separator _ _)]

theorem allWordsFrom_separator {before : Option ClusterKind} {x : Char}
    (hx : isSeparator x = true) (gs : List (List Char)) :
    allWordsFrom before ([x] :: gs) = allWordsFrom (some .separator) gs := by
  rw [allWordsFrom, wordsFrom_cons_of_separator (clusterKind_of_isSeparator hx)]
  rfl

theorem allWordsFrom_separators {a : List Char} (ha : ∀ x ∈ a, isSeparator x = true)
    (gs : List (List Char)) :
    allWordsFrom (some .separator) (a.map ([·]) ++ gs) = allWordsFrom (some .separator) gs := by
  induction a with
  | nil => rfl
  | cons x a ih =>
    obtain ⟨hx, ha⟩ := List.forall_mem_cons.mp ha
    rw [List.map_cons, List.cons_append, allWordsFrom_separator hx, ih ha]

/-! ### The end of a written word -/

/-- The clusters `gs`, read after one of kind `before`, do not go on with the word before them;
their words are those that they have on their own. -/
structure Stops (before : Option ClusterKind) (gs : List (List Char)) : Prop where
  head_ne_lower : gs.head?.map clusterKind ≠ some .lower
  fst_eq_nil : (wordsFrom before gs).1 = []
  allWords_eq : allWordsFrom before gs = allWordsFrom (some .separator) gs

theorem stops_nil (before : Option ClusterKind) : Stops before [] where
  head_ne_lower := by simp
  fst_eq_nil := rfl
  allWords_eq := rfl

theorem stops_separator (before : Option ClusterKind) {x : Char} (hx : isSeparator x = true)
    (gs : List (List Char)) : Stops before ([x] :: gs) where
  head_ne_lower := by simp [clusterKind_of_isSeparator hx]
  fst_eq_nil := by rw [wordsFrom_cons_of_separator (clusterKind_of_isSeparator hx)]
  allWords_eq := by rw [allWordsFrom_separator hx, allWordsFrom_separator hx]

/-- A cluster that begins a word stops the word before it. -/
theorem stops_of_startsWord {before : Option ClusterKind} {g : List Char} {gs : List (List Char)}
    (hg : clusterKind g ≠ .separator) (hl : clusterKind g ≠ .lower)
    (h : ClusterKind.startsWord before (clusterKind g) (gs.head?.map clusterKind) = true) :
    Stops before (g :: gs) where
  head_ne_lower := by simpa using hl
  fst_eq_nil := by rw [wordsFrom_cons_of_startsWord hg h]
  allWords_eq := by
    rw [allWordsFrom, wordsFrom_cons_of_startsWord hg h, allWordsFrom,
      wordsFrom_cons_of_not_startsWord hg (not_startsWord_separator _ _)]
    rfl

/-- A written word, with what stops it, is the first word. -/
theorem allWordsFrom_of_isCased {W : List Char} {gs : List (List Char)} (hW : IsCased W)
    (h : Stops (lastKind W) gs) :
    allWordsFrom (some .separator) (W.map ([·]) ++ gs) = W :: allWordsFrom (some .separator) gs := by
  have hne : W.isEmpty = false := List.isEmpty_eq_false_iff.mpr hW.ne_nil
  rw [← h.allWords_eq, allWordsFrom, wordsFrom_of_isCased hW h.head_ne_lower, allWordsFrom,
    h.fst_eq_nil]
  simp [hne]

/-- The kind of the last letter of a written word is its case. -/
theorem lastKind_of_isCased {W : List Char} (h : IsCased W) :
    lastKind W = some (if W.getLast?.any Char.isLower = true then .lower else .upper) := by
  have hlast := List.getLast?_eq_some_getLast h.ne_nil
  rw [lastKind, hlast, Option.map_some, Option.any_some]
  rcases h.isLetter _ (List.getLast_mem h.ne_nil) with hu | hl
  · rw [clusterKind_of_isUpper hu, if_neg (by simp [isLower_of_isUpper hu])]
  · rw [clusterKind_of_isLower hl, if_pos hl]

/-- A written word that abuts another begins a word. -/
theorem stops_of_abuts {V W : List Char} (hV : IsCased V) (hW : IsCased W) (h : Abuts V W)
    (gs : List (List Char)) : Stops (lastKind V) (W.map ([·]) ++ gs) := by
  obtain ⟨hfirst, hborder⟩ := h
  obtain ⟨y, ys, rfl⟩ := hW.exists_cons
  have hy : y.isUpper = true := hfirst
  refine stops_of_startsWord (clusterKind_ne_separator (.inl hy)) ?_ ?_
  · rw [clusterKind_of_isUpper hy]
    decide
  · rw [lastKind_of_isCased hV, clusterKind_of_isUpper hy]
    by_cases hlast : V.getLast?.any Char.isLower = true
    · rw [if_pos hlast]
      rfl
    · -- The last of a run of uppercase letters begins a word, because a lowercase one follows.
      rw [if_neg hlast]
      obtain ⟨z, zs, rfl⟩ : ∃ z zs, ys = z :: zs := by
        cases ys with
        | nil => exact absurd (hborder.resolve_left hlast) (by simp)
        | cons z zs => exact ⟨z, zs, rfl⟩
      have hz : z.isLower = true := hborder.resolve_left hlast
      show ClusterKind.startsWord (some .upper) .upper (some (clusterKind [z])) = true
      rw [clusterKind_of_isLower hz]
      rfl

/-! ### The words of a spelled text -/

theorem Strung.exists_append {abut : List Char → List Char → Prop} {W t : List Char}
    {Ws : List (List Char)} (h : Strung abut (W :: Ws) t) : ∃ u, t = W ++ u := by
  cases h with
  | single => exact ⟨[], (List.append_nil W).symm⟩
  | @cons _ V j u Ws => exact ⟨j ++ u, List.append_assoc W j u⟩

/-- What stands between two words stops the first of them, and leaves the second as it is. -/
theorem Joins.stops {V j W t : List Char} {Ws : List (List Char)} (h : Joins Abuts V j W)
    (hV : IsCased V) (hW : IsCased W) (ht : Strung Abuts (W :: Ws) t) (gs : List (List Char)) :
    Stops (lastKind V) ((j ++ t).map ([·]) ++ gs) ∧
      allWordsFrom (some .separator) ((j ++ t).map ([·]) ++ gs) =
        allWordsFrom (some .separator) (t.map ([·]) ++ gs) := by
  rcases h with ⟨hne, hj⟩ | ⟨rfl, habut⟩
  · constructor
    · obtain ⟨x, j, rfl⟩ := List.exists_cons_of_ne_nil hne
      exact stops_separator _ (hj x List.mem_cons_self) _
    · rw [List.map_append, List.append_assoc, allWordsFrom_separators hj]
  · obtain ⟨u, rfl⟩ := ht.exists_append
    refine ⟨?_, rfl⟩
    rw [List.nil_append, List.map_append, List.append_assoc]
    exact stops_of_abuts hV hW habut _

/-- **The reader finds the words that were written.** -/
theorem allWordsFrom_of_strung {Ws : List (List Char)} {t b : List Char} (h : Strung Abuts Ws t)
    (hWs : ∀ W ∈ Ws, IsCased W) (hb : ∀ x ∈ b, isSeparator x = true) :
    allWordsFrom (some .separator) (t.map ([·]) ++ b.map ([·])) = Ws := by
  have hend : allWordsFrom (some .separator) (b.map ([·])) = [] := by
    have h := allWordsFrom_separators hb []
    rwa [List.append_nil] at h
  induction h with
  | single W =>
    have hstops : Stops (lastKind W) (b.map ([·])) := by
      cases b with
      | nil => exact stops_nil _
      | cons x b => exact stops_separator _ (hb x List.mem_cons_self) _
    rw [allWordsFrom_of_isCased (hWs W List.mem_cons_self) hstops, hend]
  | @cons V W j t Ws hj ht ih =>
    obtain ⟨hV, hrest⟩ := List.forall_mem_cons.mp hWs
    -- The words after the first are those of the text after the joint.
    obtain ⟨hstops, hskip⟩ := hj.stops hV (hrest W List.mem_cons_self) ht (b.map ([·]))
    rw [List.append_assoc, List.map_append, List.append_assoc, allWordsFrom_of_isCased hV hstops,
      hskip, ih hrest]

theorem isPlain_of_strung {abut : List Char → List Char → Prop} {Ws : List (List Char)}
    {t : List Char} (h : Strung abut Ws t) (hWs : ∀ W ∈ Ws, IsCased W) : ∀ x ∈ t, IsPlain x := by
  induction h with
  | single W => exact (hWs W List.mem_cons_self).isPlain
  | @cons V W j t Ws hj ht ih =>
    obtain ⟨hV, hrest⟩ := List.forall_mem_cons.mp hWs
    have hjoint : ∀ x ∈ j, IsPlain x := by
      rcases hj with ⟨-, hj⟩ | ⟨rfl, -⟩
      · exact fun x hx => .inr (.inr (hj x hx))
      · exact List.forall_mem_nil _
    exact List.forall_mem_append.mpr ⟨List.forall_mem_append.mpr ⟨hV.isPlain, hjoint⟩, ih hrest⟩

theorem isPlain_of_cut {abut : List Char → List Char → Prop} {Ws : List (List Char)}
    {t : List Char} (h : Cut abut Ws t) (hWs : ∀ W ∈ Ws, IsCased W) : ∀ x ∈ t, IsPlain x := by
  obtain ⟨a, u, b, ha, hb, hu, rfl⟩ := h
  have hsep : ∀ {w : List Char}, (∀ x ∈ w, isSeparator x = true) → ∀ x ∈ w, IsPlain x := by
    intro w hw x hx
    exact .inr (.inr (hw x hx))
  exact List.forall_mem_append.mpr
    ⟨List.forall_mem_append.mpr ⟨hsep ha, isPlain_of_strung hu hWs⟩, hsep hb⟩

/-- **Reading the words of a text gives the words into which it is cut.** -/
theorem words_of_cut {Ws : List (List Char)} {t : List Char} (h : Cut Abuts Ws t)
    (hWs : ∀ W ∈ Ws, IsCased W) : words t = Ws := by
  rw [words_eq_allWordsFrom, clusters_of_isPlain (isPlain_of_cut h hWs), allWordsFrom,
    wordsFrom_none, ← allWordsFrom]
  obtain ⟨a, u, b, ha, hb, hu, rfl⟩ := h
  rw [List.append_assoc, List.map_append, allWordsFrom_separators ha, List.map_append,
    allWordsFrom_of_strung hu hWs hb]

/-! ### Every text can be cut -/

/-- A letter before a written word goes into the word, or the border is seen. -/
theorem isCased_cons_or_abuts {x : Char} {W : List Char} (hx : x.isUpper = true ∨ x.isLower = true)
    (hW : IsCased W) : IsCased (x :: W) ∨ Abuts [x] W := by
  have habuts : ∀ {y : Char} {ys : List Char}, x.isLower = true → y.isUpper = true →
      Abuts [x] (y :: ys) := fun hxl hy => ⟨hy, .inl hxl⟩
  cases hW with
  | @lowerTail y ys hy hys =>
    rcases hy with hyu | hyl
    · rcases hx with hxu | hxl
      · -- Two uppercase letters are one word, unless the second begins a capitalized word.
        cases ys with
        | nil => exact .inl (.upper (by simp [hxu, hyu]))
        | cons z zs => exact .inr ⟨hyu, .inr (hys z List.mem_cons_self)⟩
      · exact .inr (habuts hxl hyu)
    · exact .inl (.lowerTail hx (List.forall_mem_cons.mpr ⟨hyl, hys⟩))
  | @upper y ys hu =>
    rcases hx with hxu | hxl
    · exact .inl (.upper (List.forall_mem_cons.mpr ⟨hxu, hu⟩))
    · exact .inr (habuts hxl (hu y List.mem_cons_self))

/-- What the first word is joined to depends on its last letter only. -/
theorem Strung.cons_letter {x : Char} {W t : List Char} {Ws : List (List Char)}
    (h : Strung Abuts (W :: Ws) t) (hW : W ≠ []) : Strung Abuts ((x :: W) :: Ws) (x :: t) := by
  cases h with
  | single => exact .single (x :: W)
  | @cons _ V j u Ws hj ht =>
    have hlast : (x :: W).getLast? = W.getLast? := by
      obtain ⟨y, ys, rfl⟩ := List.exists_cons_of_ne_nil hW
      exact List.getLast?_cons_cons
    have hj' : Joins Abuts (x :: W) j V := by
      rcases hj with hsep | ⟨hnil, hfirst, hborder⟩
      · exact .inl hsep
      · exact .inr ⟨hnil, hfirst, by rwa [hlast]⟩
    exact .cons hj' ht

/-- A letter before a string of words: it is a word of its own, or goes into the first. -/
theorem Strung.exists_cons {x : Char} {a u : List Char} {Ws : List (List Char)}
    (h : Strung Abuts Ws u) (hWs : ∀ W ∈ Ws, IsCased W) (hx : x.isUpper = true ∨ x.isLower = true)
    (ha : ∀ y ∈ a, isSeparator y = true) :
    ∃ Vs, (∀ V ∈ Vs, IsCased V) ∧ Strung Abuts Vs ([x] ++ a ++ u) := by
  obtain ⟨W, Ws, rfl⟩ : ∃ W Vs, Ws = W :: Vs := by
    cases h <;> exact ⟨_, _, rfl⟩
  obtain ⟨hW, hrest⟩ := List.forall_mem_cons.mp hWs
  have hnew : Joins Abuts [x] a W →
      ∃ Vs, (∀ V ∈ Vs, IsCased V) ∧ Strung Abuts Vs ([x] ++ a ++ u) := by
    intro hj
    have hone : IsCased [x] := .lowerTail hx (List.forall_mem_nil _)
    exact ⟨[x] :: W :: Ws, List.forall_mem_cons.mpr ⟨hone, hWs⟩, .cons hj h⟩
  by_cases hnil : a = []
  · subst hnil
    rcases isCased_cons_or_abuts hx hW with hc | habut
    · exact ⟨(x :: W) :: Ws, List.forall_mem_cons.mpr ⟨hc, hrest⟩, h.cons_letter hW.ne_nil⟩
    · exact hnew (.inr ⟨rfl, habut⟩)
  · exact hnew (.inl ⟨hnil, ha⟩)

/-- **A text of letters and separators can be cut into written words**, if there is a letter in
it. -/
theorem exists_cut {t : List Char} (ht : ∀ x ∈ t, IsPlain x) :
    (∀ x ∈ t, isSeparator x = true) ∨ ∃ Ws, (∀ W ∈ Ws, IsCased W) ∧ Cut Abuts Ws t := by
  -- The cut is found from the end of the text on, because what a letter is depends on the next two.
  induction t with
  | nil => exact .inl (List.forall_mem_nil _)
  | cons x t ih =>
    obtain ⟨hx, ht⟩ := List.forall_mem_cons.mp ht
    by_cases hsep : isSeparator x = true
    · rcases ih ht with hall | ⟨Ws, hWs, a, u, b, ha, hb, hu, rfl⟩
      · exact .inl (List.forall_mem_cons.mpr ⟨hsep, hall⟩)
      · exact .inr ⟨Ws, hWs, x :: a, u, b, List.forall_mem_cons.mpr ⟨hsep, ha⟩, hb, hu, rfl⟩
    · have hletter := hx.isLetter hsep
      rcases ih ht with hall | ⟨Ws, hWs, a, u, b, ha, hb, hu, rfl⟩
      · have hone : IsCased [x] := .lowerTail hletter (List.forall_mem_nil _)
        exact .inr ⟨[[x]], List.forall_mem_singleton.mpr hone, [], [x], t, List.forall_mem_nil _,
          hall, .single [x], rfl⟩
      · obtain ⟨Vs, hVs, hv⟩ := hu.exists_cons hWs hletter ha
        exact .inr ⟨Vs, hVs, [], [x] ++ a ++ u, b, List.forall_mem_nil _, hb, hv, by simp⟩

/-! ### Spelling and reading -/

theorem words_of_separators {t : List Char} (ht : ∀ x ∈ t, isSeparator x = true) :
    words t = [] := by
  have h := allWordsFrom_separators ht []
  rw [List.append_nil] at h
  rw [words_eq_allWordsFrom, clusters_of_isPlain fun x hx => .inr (.inr (ht x hx)), allWordsFrom,
    wordsFrom_none, ← allWordsFrom, h]
  rfl

/-- The words that are read are written words, and the text is cut into them. -/
theorem cut_words {t : List Char} (ht : ∀ x ∈ t, IsPlain x) (hne : words t ≠ []) :
    (∀ W ∈ words t, IsCased W) ∧ Cut Abuts (words t) t := by
  rcases exists_cut ht with hsep | ⟨Ws, hWs, hcut⟩
  · exact absurd (words_of_separators hsep) hne
  · rw [words_of_cut hcut hWs]
    exact ⟨hWs, hcut⟩

/-- Written words look like words, and their uppercase forms are the words. -/
theorem isCased_and_upper_eq {ws Ws : List (List Char)}
    (h : List.Forall₂ (fun w W => ∃ k : Casing, W = k.write w) ws Ws)
    (hws : ∀ w ∈ ws, IsWord w) : (∀ W ∈ Ws, IsCased W) ∧ Ws.map upper = ws := by
  induction h with
  | nil => exact ⟨List.forall_mem_nil _, rfl⟩
  | @cons w W ws Ws hw _ ih =>
    obtain ⟨k, rfl⟩ := hw
    obtain ⟨hword, hrest⟩ := List.forall_mem_cons.mp hws
    obtain ⟨hcased, hupper⟩ := ih hrest
    refine ⟨List.forall_mem_cons.mpr ⟨isCased_write k hword, hcased⟩, ?_⟩
    rw [List.map_cons, upper_write k hword.isUpper, hupper]

theorem isPlain_of_spelled {abut : List Char → List Char → Prop} {ws : List (List Char)}
    {t : List Char} (h : Spelled abut ws t) (hws : ∀ w ∈ ws, IsWord w) : ∀ x ∈ t, IsPlain x := by
  obtain ⟨Ws, hwrite, hcut⟩ := h
  exact isPlain_of_cut hcut (isCased_and_upper_eq hwrite hws).1

/-- A text of letters and separators has the words `ws` if and only if it spells them. -/
theorem upper_words_eq_iff {t : List Char} (ht : ∀ x ∈ t, IsPlain x) {ws : List (List Char)}
    (hne : ws ≠ []) (hws : ∀ w ∈ ws, IsWord w) :
    (words t).map upper = ws ↔ Spelled Abuts ws t := by
  constructor
  · rintro rfl
    obtain ⟨hcased, hcut⟩ := cut_words ht (by simpa using hne)
    refine ⟨words t, ?_, hcut⟩
    rw [List.forall₂_map_left_iff, List.forall₂_same]
    intro W hW
    exact exists_write (hcased W hW)
  · rintro ⟨Ws, hwrite, hcut⟩
    obtain ⟨hcased, hupper⟩ := isCased_and_upper_eq hwrite hws
    rw [words_of_cut hcut hcased, hupper]

/-- **A text has a symbolic name if and only if it spells the words of the name.** -/
theorem upperSnake_eq_iff {t n : List Char} (ht : ∀ x ∈ t, IsPlain x)
    (hn : ∀ w ∈ n.splitOn '_', IsWord w) :
    upperSnake t = n ↔ Spelled Abuts (n.splitOn '_') t := by
  rw [← upper_words_eq_iff ht (List.splitOn_ne_nil '_' n) hn]
  constructor
  · rintro rfl
    have hne : words t ≠ [] := by
      intro hnil
      have hempty : [] ∈ (upperSnake t).splitOn '_' := by
        rw [upperSnake, hnil]
        exact List.mem_singleton_self []
      exact (hn [] hempty).ne_nil rfl
    obtain ⟨hcased, -⟩ := cut_words ht hne
    have hno : ∀ w ∈ (words t).map upper, '_' ∉ w := by
      intro w hw hmem
      obtain ⟨W, hW, rfl⟩ := List.mem_map.mp hw
      cases (isWord_upper (hcased W hW)).isUpper '_' hmem
    rw [upperSnake, List.splitOn_intercalate '_' hno (by simpa using hne)]
  · intro h
    rw [upperSnake, h, List.intercalate_splitOn]

end StatusRegistry.Text
