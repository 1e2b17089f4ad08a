import SearchFilter.Filter.Indices
import SearchFilter.Filter.Tree

/-!
Trees of clauses with groups. The clauses are divided into groups and the runs between them; each
segment becomes a subtree, and the subtrees are folded from left to right.
-/

namespace SearchFilter

inductive Segment where
  | group (owner : Group) (start stop : Nat)
  | run (start stop : Nat)
deriving DecidableEq

namespace Segment

def bounds : Segment → Nat × Nat
  | .group _ start stop => (start, stop)
  | .run start stop => (start, stop)

def slice (segment : Segment) (clauses : List Clause) : List Clause :=
  (clauses.drop segment.bounds.1).take (segment.bounds.2 - segment.bounds.1)

def subtree? (clauses : List Clause) (segment : Segment) : Option (Connector × Tree) :=
  let enabled := (segment.slice clauses).filter fun clause => !clause.disabled
  match enabled with
  | [] => none
  | first :: rest =>
    match segment with
    | .group owner _ _ =>
      some (first.effectiveConnector,
        if rest.isEmpty then .leaf first
        else .combine owner.connector ((first :: rest).map .leaf))
    | .run _ _ =>
      (Tree.ofClauses? (segment.slice clauses)).map fun tree => (first.effectiveConnector, tree)

end Segment

/-- The stretch that a group covers among so many clauses: its indices among them, unless there is
none or they have a gap. -/
def Group.span? (group : Group) (count : Nat) : Option (Nat × Nat) :=
  Indices.span? (Indices.distinct (group.indices.filter (· < count)))

structure Placed where
  group : Group
  start : Nat
  stop : Nat
deriving DecidableEq

def placed (count : Nat) (groups : List Group) : List Placed :=
  Indices.sortBy Placed.start (groups.filterMap fun group =>
    (group.span? count).map fun span => ⟨group, span.1, span.2⟩)

/-- The segments from a position on. A group that begins before the position overlaps one before it
and is left out. -/
def segmentsFrom (count : Nat) : Nat → List Placed → List Segment
  | position, [] => if position < count then [.run position count] else []
  | position, next :: rest =>
    if next.start < position then segmentsFrom count position rest
    else
      (if position < next.start then [.run position next.start] else []) ++
        .group next.group next.start next.stop :: segmentsFrom count next.stop rest

def segments (count : Nat) (groups : List Group) : List Segment :=
  segmentsFrom count 0 (placed count groups)

def Tree.ofGroups? (clauses : List Clause) (groups : List Group) : Option Tree :=
  if groups.isEmpty then ofClauses? clauses
  else fold? ((segments clauses.length groups).filterMap (Segment.subtree? clauses))

theorem Tree.ofGroups?_nil (clauses : List Clause) : ofGroups? clauses [] = ofClauses? clauses := rfl

end SearchFilter
