/-
StatusRegistry/Text/Words.lean

Cutting a text into words, as identifiers are spelled: `not-found`,
`not found`, `NOT_FOUND` and `NotFound` all consist of two words.  The unit is
the grapheme cluster.  A cluster that is a space, a hyphen or an underscore
separates words and belongs to none.  Words also end inside a run of other
clusters where the case changes, or where digits meet letters.

`upperSnake` joins the words of a text, in uppercase, by underscores.
-/
import StatusRegistry.Text.Case
import StatusRegistry.Text.Cluster
import StatusRegistry.Text.Numeral

namespace StatusRegistry.Text

/-! ### Kinds of clusters -/

/-- What a cluster is for the purpose of finding words. -/
inductive ClusterKind where
  | separator
  | digit
  | upper
  | lower
  | other
deriving DecidableEq, Repr

/-- Whether the character, alone in its cluster, separates words. -/
def isSeparator (c : Char) : Bool :=
  c = ' ' || c = '-' || c = '_'

/-- Whether the cluster separates words.  A separator that carries a mark does not. -/
def separatesWords : List Char → Bool
  | [c] => isSeparator c
  | _ => false

/-- The kind of a cluster.  A cluster has a case if its uppercase and its lowercase mappings
differ, and then its case is that of the mapping that leaves it unchanged. -/
def clusterKind (g : List Char) : ClusterKind :=
  if separatesWords g then .separator
  else if g.all isDigit then .digit
  else if upper g = lower g then .other
  else if g = upper g then .upper
  else if g = lower g then .lower
  else .other

/-! ### Words -/

namespace ClusterKind

/-- Whether a word ends between two neighbouring clusters of these two kinds, whatever follows. -/
def changes : ClusterKind → ClusterKind → Bool
  | .lower, .upper => true
  | .upper, .digit => true
  | .digit, .upper => true
  | .digit, .lower => true
  | .lower, .digit => true
  | _, _ => false

/-- Whether a word begins at a cluster of kind `k` that stands between clusters of kinds `before`
and `after`, where there are such.  Of a run of uppercase clusters, the last begins a word if a
lowercase cluster follows: `IMUsed` is `IM` and `Used`. -/
def startsWord (before : Option ClusterKind) (k : ClusterKind) (after : Option ClusterKind) :
    Bool :=
  match before with
  | some b => b.changes k || (b = .upper && k = .upper && after = some .lower)
  | none => false

end ClusterKind

/-- The rest of the word that is being read, and the words after it.  `before` is the kind of the
cluster just read, if there is one. -/
def wordsFrom (before : Option ClusterKind) : List (List Char) → List Char × List (List Char)
  | [] => ([], [])
  | g :: gs =>
    let (tail, later) := wordsFrom (some (clusterKind g)) gs
    if clusterKind g = .separator then ([], tail :: later)
    else if ClusterKind.startsWord before (clusterKind g) (gs.head?.map clusterKind) then
      ([], (g ++ tail) :: later)
    else (g ++ tail, later)

/-- The words of a text, in order; none is empty. -/
def words (t : List Char) : List (List Char) :=
  let (first, later) := wordsFrom none (clusters t)
  (first :: later).filter fun w => !w.isEmpty

/-- The text as a symbolic name: its words in uppercase, joined by underscores. -/
def upperSnake (t : List Char) : List Char :=
  ['_'].intercalate ((words t).map upper)

end StatusRegistry.Text
