import SearchFilter.Filter.Clause
import SearchFilter.Text.Lines

/-!
Boolean trees of clauses. Joining keeps a tree flat: a node takes in the children of an operand that
has its own connector.
-/

namespace SearchFilter

inductive Tree where
  | leaf (clause : Clause)
  | node (connector : Connector) (children : List Tree)
deriving Inhabited

namespace Tree

@[elab_as_elim, induction_eliminator]
theorem induction {motive : Tree → Prop} (leaf : ∀ clause, motive (.leaf clause))
    (node : ∀ connector children, (∀ child ∈ children, motive child) →
      motive (.node connector children)) (tree : Tree) : motive tree :=
  @Tree.rec motive (fun children => ∀ child ∈ children, motive child) leaf node
    (fun _ absent => nomatch absent)
    (fun _ _ first rest => List.forall_mem_cons.mpr ⟨first, rest⟩) tree

def connector? : Tree → Option Connector
  | leaf _ => none
  | node connector _ => some connector

/-- What a tree contributes to the children of a node: its own children under the same connector,
otherwise itself. -/
def spliced (connector : Connector) : Tree → List Tree
  | node own children => if own = connector then children else [node own children]
  | leaf clause => [leaf clause]

def combine (connector : Connector) (trees : List Tree) : Tree :=
  node connector (trees.flatMap (spliced connector))

def join (left : Tree) (connector : Connector) (right : Tree) : Tree :=
  combine connector [left, right]

mutual

def leaves : Tree → List Clause
  | leaf clause => [clause]
  | node _ children => leavesOf children

def leavesOf : List Tree → List Clause
  | [] => []
  | tree :: trees => tree.leaves ++ leavesOf trees

end

mutual

def depth : Tree → Nat
  | leaf _ => 1
  | node _ children => 1 + depthOf children

def depthOf : List Tree → Nat
  | [] => 0
  | tree :: trees => max tree.depth (depthOf trees)

end

def clauseLine (clause : Clause) : String :=
  let value := match clause.value with
    | some value => " " ++ value.json.compact
    | none => ""
  clause.field ++ " " ++ clause.operator ++ value

mutual

def entries (depth : Nat) : Tree → List String
  | leaf clause => [Text.indentation depth ++ clauseLine clause]
  | node connector children =>
    (Text.indentation depth ++ connector.name) :: entriesOf (depth + 1) children

def entriesOf (depth : Nat) : List Tree → List String
  | [] => []
  | tree :: trees => tree.entries depth ++ entriesOf depth trees

end

def outline (tree : Tree) : String := Text.lines (tree.entries 0)

theorem leavesOf_append (before after : List Tree) :
    leavesOf (before ++ after) = leavesOf before ++ leavesOf after := by
  induction before with
  | nil => rfl
  | cons tree trees ih => simp [leavesOf, ih]

theorem leavesOf_spliced (connector : Connector) (tree : Tree) :
    leavesOf (tree.spliced connector) = tree.leaves := by
  cases tree with
  | leaf clause => rfl
  | node own children =>
    simp only [spliced]
    split
    · rfl
    · simp [leavesOf]

theorem leaves_combine (connector : Connector) (trees : List Tree) :
    (combine connector trees).leaves = leavesOf trees := by
  simp only [combine, leaves]
  induction trees with
  | nil => rfl
  | cons tree trees ih => rw [List.flatMap_cons, leavesOf_append, leavesOf_spliced, ih, leavesOf]

/-- The strict left fold of trees, each joined by its own connector; that of the first is not
used. -/
def fold? : List (Connector × Tree) → Option Tree
  | [] => none
  | (_, first) :: rest =>
    some (rest.foldl (fun tree item => tree.join item.1 item.2) first)

def ofClauses? (clauses : List Clause) : Option Tree :=
  fold? ((clauses.filter fun clause => !clause.disabled).map fun clause =>
    (clause.effectiveConnector, leaf clause))

end Tree

end SearchFilter
