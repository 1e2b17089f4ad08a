import Mathlib.Data.List.Basic
import SearchFilter.Filter.Compile
import SearchFilter.Filter.Grouped
import SearchFilter.Filter.Preview

/-!
Clauses replaced one by one. Trees are built from connectors and flags alone, so a replacement that
keeps those passes through all builders, and one that keeps the predicates leaves query and text as
they are.
-/

namespace SearchFilter

/-- A replacement that no builder of trees can see. -/
structure Keeps (change : Clause → Clause) : Prop where
  disabled : ∀ clause, (change clause).disabled = clause.disabled
  connector : ∀ clause, (change clause).effectiveConnector = clause.effectiveConnector

namespace Tree

mutual

def replaced (change : Clause → Clause) : Tree → Tree
  | leaf clause => leaf (change clause)
  | node connector children => node connector (replacedAll change children)

def replacedAll (change : Clause → Clause) : List Tree → List Tree
  | [] => []
  | tree :: trees => tree.replaced change :: replacedAll change trees

end

variable {change : Clause → Clause}

theorem replacedAll_eq_map (trees : List Tree) :
    replacedAll change trees = trees.map (replaced change) := by
  induction trees with
  | nil => rfl
  | cons tree trees ih => rw [replacedAll, ih, List.map_cons]

theorem spliced_replaced (connector : Connector) (tree : Tree) :
    (tree.replaced change).spliced connector =
      (tree.spliced connector).map (replaced change) := by
  cases tree with
  | leaf clause => rfl
  | node own children =>
      simp only [replaced, spliced]
      split
      · exact replacedAll_eq_map children
      · rfl

theorem combine_replaced (connector : Connector) (trees : List Tree) :
    combine connector (trees.map (replaced change)) =
      (combine connector trees).replaced change := by
  rw [combine, combine, replaced, replacedAll_eq_map, List.flatMap_map, List.map_flatMap]
  simp only [spliced_replaced]

theorem join_replaced (left right : Tree) (connector : Connector) :
    (left.replaced change).join connector (right.replaced change) =
      (left.join connector right).replaced change :=
  combine_replaced connector [left, right]

theorem foldl_replaced (items : List (Connector × Tree)) (first : Tree) :
    (items.map fun item => (item.1, item.2.replaced change)).foldl
        (fun tree item => tree.join item.1 item.2) (first.replaced change) =
      (items.foldl (fun tree item => tree.join item.1 item.2) first).replaced change := by
  induction items generalizing first with
  | nil => rfl
  | cons item items ih =>
      rw [List.map_cons, List.foldl_cons, List.foldl_cons, join_replaced]
      exact ih _

theorem fold?_replaced (items : List (Connector × Tree)) :
    fold? (items.map fun item => (item.1, item.2.replaced change)) =
      (fold? items).map (replaced change) := by
  cases items with
  | nil => rfl
  | cons first items => exact congrArg some (foldl_replaced items first.2)

theorem filter_enabled_map (keeps : Keeps change) (clauses : List Clause) :
    (clauses.map change).filter (fun clause => !clause.disabled) =
      (clauses.filter fun clause => !clause.disabled).map change := by
  rw [List.filter_map]
  simp only [Function.comp_def, keeps.disabled]

theorem ofClauses?_map (keeps : Keeps change) (clauses : List Clause) :
    ofClauses? (clauses.map change) = (ofClauses? clauses).map (replaced change) := by
  rw [ofClauses?, ofClauses?, filter_enabled_map keeps, ← fold?_replaced, List.map_map,
    List.map_map]
  simp only [Function.comp_def, keeps.connector, replaced]

theorem slice_map (segment : Segment) (clauses : List Clause) :
    segment.slice (clauses.map change) = (segment.slice clauses).map change := by
  rw [Segment.slice, Segment.slice, List.map_take, List.map_drop]

theorem subtree?_map (keeps : Keeps change) (segment : Segment) (clauses : List Clause) :
    segment.subtree? (clauses.map change) =
      (segment.subtree? clauses).map fun item => (item.1, item.2.replaced change) := by
  rw [Segment.subtree?, Segment.subtree?, slice_map, filter_enabled_map keeps]
  cases (segment.slice clauses).filter fun clause => !clause.disabled with
  | nil => rfl
  | cons first rest =>
      cases segment with
      | group owner start stop =>
          have leaves : ((first :: rest).map change).map leaf =
              ((first :: rest).map leaf).map (replaced change) := by
            rw [List.map_map, List.map_map]
            rfl
          simp only [List.map_cons, Option.map_some, keeps.connector, List.isEmpty_map] at leaves ⊢
          split
          · rfl
          · rw [leaves, ← List.map_cons, combine_replaced]
      | run start stop =>
          simp only [List.map_cons, keeps.connector, ofClauses?_map keeps, Option.map_map]
          rfl

theorem ofGroups?_map (keeps : Keeps change) (clauses : List Clause) (groups : List Group) :
    ofGroups? (clauses.map change) groups = (ofGroups? clauses groups).map (replaced change) := by
  rw [ofGroups?, ofGroups?, List.length_map]
  split
  · exact ofClauses?_map keeps clauses
  · have items :
        (segments clauses.length groups).filterMap (Segment.subtree? (clauses.map change)) =
          ((segments clauses.length groups).filterMap (Segment.subtree? clauses)).map
            fun item => (item.1, item.2.replaced change) := by
      rw [List.map_filterMap]
      exact List.filterMap_congr fun segment _ => subtree?_map keeps segment clauses
    rw [items, fold?_replaced]

end Tree

/-! Query and text. -/

section

variable {change : Clause → Clause}

theorem Compiler.query?_replaced {compiler : Compiler}
    (same : ∀ clause, compiler.rules.complete (change clause) = compiler.rules.complete clause)
    (tree : Tree) : compiler.query? (tree.replaced change) = compiler.query? tree := by
  induction tree with
  | leaf clause => rw [Tree.replaced, query?, query?, same]
  | node connector children ih =>
      rw [Tree.replaced, query?, query?, Tree.replacedAll_eq_map, queries_eq_flatMap,
        queries_eq_flatMap, List.flatMap_map]
      refine congrArg (Query.gather? connector) (List.flatMap_congr ?_)
      intro child member
      rw [ih child member]

theorem Rules.phrase?_replaced {rules : Rules}
    (same : ∀ clause, rules.complete (change clause) = rules.complete clause) (tree : Tree) :
    rules.phrase? (tree.replaced change) = rules.phrase? tree := by
  induction tree with
  | leaf clause => rw [Tree.replaced, phrase?, phrase?, same]
  | node connector children ih =>
      rw [Tree.replaced, phrase?, phrase?, Tree.replacedAll_eq_map, phrases_eq_flatMap,
        phrases_eq_flatMap, List.flatMap_map]
      refine congrArg (Phrase.gather? connector) (List.flatMap_congr ?_)
      intro child member
      rw [ih child member]

theorem Compiler.compile_replaced {compiler : Compiler}
    (same : ∀ clause, compiler.rules.complete (change clause) = compiler.rules.complete clause)
    (tree : Option Tree) :
    compiler.compile (tree.map (Tree.replaced change)) = compiler.compile tree := by
  cases tree with
  | none => rfl
  | some tree => exact query?_replaced same tree

theorem Rules.preview_replaced {rules : Rules}
    (same : ∀ clause, rules.complete (change clause) = rules.complete clause)
    (tree : Option Tree) :
    rules.preview (tree.map (Tree.replaced change)) = rules.preview tree := by
  cases tree with
  | none => rfl
  | some tree =>
      have phrase := phrase?_replaced same tree
      simp only [preview, Option.map_some, Option.bind_some, render?, phrase]

end

end SearchFilter
