/-
StatusRegistry/Text/Cluster.lean

Extended grapheme clusters: the units that a reader takes for one character.
The text is read from left to right.  What the rules need to know of the
characters already read is kept in a `Context`, and `Context.joins` says
whether the next character still belongs to the cluster before it.

Clusters concatenate to the text (`flatten_clusters`), whatever the break classes
of the characters are.
-/
import StatusRegistry.Text.BreakClass

namespace StatusRegistry.Text

/-! ### Between two characters -/

/-- How far a sequence of pictographs has come. -/
inductive PictographState where
  | none
  /-- A pictograph, and any number of marks that extend it. -/
  | pictograph
  /-- The same, followed by a zero width joiner. -/
  | joined
deriving DecidableEq, Repr

/-- How far an Indic conjunct has come. -/
inductive ConjunctState where
  | none
  /-- A consonant, and any number of marks that let the conjunct go on. -/
  | consonant
  /-- The same, with a linker among the marks. -/
  | linked
deriving DecidableEq, Repr

/-- What the rules for cluster borders need to know of the characters read so far. -/
structure Context where
  /-- The class of the last character. -/
  last : BreakClass
  pictograph : PictographState
  conjunct : ConjunctState
  /-- Whether the text read so far ends with an odd number of regional indicators. -/
  oddIndicators : Bool
deriving DecidableEq, Repr

namespace BreakClass

/-- Whether the character always stands alone, but for a line feed after a carriage return. -/
def isControl (k : BreakClass) : Bool :=
  k = .carriageReturn || k = .lineFeed || k = .control

/-- Whether the character is an extending mark in the sense of pictograph sequences. -/
def isExtend (k : BreakClass) : Bool :=
  k = .extend || k = .linker || k = .nonJoiner

/-- Whether the character continues any cluster but a control character. -/
def isTrailing (k : BreakClass) : Bool :=
  k.isExtend || k = .joiner || k = .spacingMark

/-- Whether `next` continues a Hangul syllable that ends with `last`. -/
def joinsHangul (last next : BreakClass) : Bool :=
  match last with
  | .hangulL => next = .hangulL || next = .hangulV || next = .hangulLV || next = .hangulLVT
  | .hangulLV | .hangulV => next = .hangulV || next = .hangulT
  | .hangulLVT | .hangulT => next = .hangulT
  | _ => false

end BreakClass

namespace Context

/-- The context after a first character. -/
def start (k : BreakClass) : Context where
  last := k
  pictograph := if k = .pictographic then .pictograph else .none
  conjunct := if k = .consonant then .consonant else .none
  oddIndicators := k = .regionalIndicator

/-- The context after one more character. -/
def next (ctx : Context) (k : BreakClass) : Context where
  last := k
  pictograph :=
    if k = .pictographic then .pictograph
    else if ctx.pictograph = .pictograph then
      if k.isExtend then .pictograph else if k = .joiner then .joined else .none
    else .none
  conjunct :=
    if k = .consonant then .consonant
    else if k = .linker then (if ctx.conjunct = .none then .none else .linked)
    else if k = .extend || k = .joiner then ctx.conjunct
    else .none
  oddIndicators := k = .regionalIndicator && !ctx.oddIndicators

/-- Whether a character of class `k` belongs to the same cluster as the character before it. -/
def joins (ctx : Context) (k : BreakClass) : Bool :=
  if ctx.last.isControl || k.isControl then ctx.last = .carriageReturn && k = .lineFeed
  else
    k.isTrailing || ctx.last = .prepended || ctx.last.joinsHangul k
      || (k = .consonant && ctx.conjunct = .linked)
      || (k = .pictographic && ctx.pictograph = .joined)
      || (k = .regionalIndicator && ctx.oddIndicators)

end Context

/-! ### Clusters of a text -/

/-- The rest of the cluster that is being read, and the clusters after it. -/
def clustersFrom (ctx : Context) : List Char → List Char × List (List Char)
  | [] => ([], [])
  | c :: t =>
    let (tail, later) := clustersFrom (ctx.next (breakClass c)) t
    if ctx.joins (breakClass c) then (c :: tail, later) else ([], (c :: tail) :: later)

/-- The extended grapheme clusters of a text, in order. -/
def clusters : List Char → List (List Char)
  | [] => []
  | c :: t =>
    let (tail, later) := clustersFrom (.start (breakClass c)) t
    (c :: tail) :: later

theorem clustersFrom_append_flatten (ctx : Context) (t : List Char) :
    (clustersFrom ctx t).1 ++ (clustersFrom ctx t).2.flatten = t := by
  induction t generalizing ctx with
  | nil => rfl
  | cons c t ih =>
    have h := ih (ctx.next (breakClass c))
    simp only [clustersFrom]
    split <;> simp [h]

/-- Nothing is lost or reordered. -/
theorem flatten_clusters (t : List Char) : (clusters t).flatten = t := by
  cases t with
  | nil => rfl
  | cons c t => simp [clusters, clustersFrom_append_flatten]

end StatusRegistry.Text
