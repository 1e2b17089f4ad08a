import Mathlib.Data.Nat.Init
import SearchFilter.Proofs.Filter.Canonical

/-!
What a query means, given which tests of fields succeed. Its document is read by its keys, and has
the value of the tree that it was compiled from.
-/

namespace SearchFilter

namespace Document

mutual

/-- Whether a document holds, given the values of the documents that test a field. -/
def holds (assign : Json → Bool) : Json → Bool
  | .object [("match_all", .object [])] => true
  | .object [("bool", .object [("must", .list parts)])] => allHold assign parts
  | .object [("bool", .object [("minimum_should_match", .number (.integer 1 _)),
      ("should", .list parts)])] => anyHolds assign parts
  | .object [("bool", .object [("must_not", .list parts)])] => !anyHolds assign parts
  | test => assign test

def allHold (assign : Json → Bool) : List Json → Bool
  | [] => true
  | part :: parts => holds assign part && allHold assign parts

def anyHolds (assign : Json → Bool) : List Json → Bool
  | [] => false
  | part :: parts => holds assign part || anyHolds assign parts

end

theorem allHold_eq_all (assign : Json → Bool) (parts : List Json) :
    allHold assign parts = parts.all (holds assign) := by
  induction parts with
  | nil => rfl
  | cons part parts ih => rw [allHold, ih, List.all_cons]

theorem anyHolds_eq_any (assign : Json → Bool) (parts : List Json) :
    anyHolds assign parts = parts.any (holds assign) := by
  induction parts with
  | nil => rfl
  | cons part parts ih => rw [anyHolds, ih, List.any_cons]

theorem holds_test (assign : Json → Bool) (test : FieldQuery) :
    holds assign test.toJson = assign test.toJson := by
  cases test <;> simp [FieldQuery.toJson, FieldQuery.about, holds]

end Document

namespace Connector

def combine : Connector → List Bool → Bool
  | and, values => values.all id
  | or, values => values.any id

def combine? (connector : Connector) (values : List Bool) : Option Bool :=
  if values.isEmpty then none else some (connector.combine values)

theorem combine_singleton (connector : Connector) (value : Bool) :
    connector.combine [value] = value := by
  cases connector <;> simp [combine]

theorem combine_flatMap {α : Type} (connector : Connector) (items : List α)
    (values : α → List Bool) :
    connector.combine (items.flatMap values) =
      connector.combine (items.map fun item => connector.combine (values item)) := by
  cases connector with
  | and => simp [combine, List.all_flatMap, List.all_map]
  | or => simp [combine, List.any_flatMap, List.any_map]

end Connector

namespace Tree

mutual

def value? (compiler : Compiler) (assign : Json → Bool) : Tree → Option Bool
  | leaf clause =>
    match compiler.rules.complete clause with
    | .ok predicate =>
      let positive := assign (compiler.fieldQuery predicate).toJson
      some (if predicate.condition.isNegated then !positive else positive)
    | .error _ => none
  | node connector children => connector.combine? (values compiler assign children)

def values (compiler : Compiler) (assign : Json → Bool) : List Tree → List Bool
  | [] => []
  | tree :: trees => (tree.value? compiler assign).toList ++ values compiler assign trees

end

theorem values_eq_flatMap (compiler : Compiler) (assign : Json → Bool) (trees : List Tree) :
    values compiler assign trees =
      trees.flatMap fun tree => (tree.value? compiler assign).toList := by
  induction trees with
  | nil => rfl
  | cons tree trees ih => rw [values, ih, List.flatMap_cons]

end Tree

namespace Formula

variable (compiler : Compiler) (assign : Json → Bool)

def holds (formula : Formula) : Bool := Document.holds assign (formula.document compiler)

theorem holds_leaf (predicate : Predicate) :
    (leaf predicate).holds compiler assign =
      let positive := assign (compiler.fieldQuery predicate).toJson
      if predicate.condition.isNegated then !positive else positive := by
  rw [holds, document, Compiler.leafQuery]
  split
  · simp [Query.toJson, Document.holds, Document.anyHolds, Document.holds_test]
  · exact Document.holds_test assign _

theorem holds_node (connector : Connector) (parts : List Formula) :
    (node connector parts).holds compiler assign =
      connector.combine (parts.map (holds compiler assign)) := by
  cases connector with
  | and =>
      rw [holds, document, Document.holds, Document.allHold_eq_all, documents_eq_map, List.all_map,
        Connector.combine, List.all_map]
      rfl
  | or =>
      change Document.anyHolds assign (documents compiler parts) = _
      rw [Document.anyHolds_eq_any, documents_eq_map, List.any_map, Connector.combine, List.any_map]
      rfl

theorem combine_spliced (connector : Connector) (formula : Formula) :
    connector.combine ((formula.spliced connector).map (holds compiler assign)) =
      formula.holds compiler assign := by
  cases formula with
  | leaf predicate => exact connector.combine_singleton _
  | node own parts =>
      by_cases same : own = connector
      · rw [Formula.spliced, if_pos same, holds_node, same]
      · rw [Formula.spliced, if_neg same]
        exact connector.combine_singleton _

theorem holds_gather? {connector : Connector} {parts : List Formula} {formula : Formula}
    (found : gather? connector parts = some formula) :
    formula.holds compiler assign = connector.combine (parts.map (holds compiler assign)) := by
  have batches : connector.combine
        ((parts.flatMap (Formula.spliced connector)).map (holds compiler assign)) =
      connector.combine (parts.map (holds compiler assign)) := by
    rw [List.map_flatMap, Connector.combine_flatMap]
    simp only [combine_spliced]
  rw [← batches]
  rw [gather?] at found
  split at found
  · simp at found
  · rename_i only single
    obtain rfl := Option.some.inj found
    rw [single]
    exact (connector.combine_singleton _).symm
  · obtain rfl := Option.some.inj found
    exact holds_node compiler assign connector _

theorem gather?_eq_none {connector : Connector} {parts : List Formula}
    (normal : ∀ part ∈ parts, part.Normal) (none : gather? connector parts = none) :
    parts = [] := by
  match parts with
  | [] => rfl
  | [only] => simp [gather?_singleton (normal only List.mem_cons_self)] at none
  | first :: second :: rest => simp [gather?_of_several normal] at none

theorem map_holds_gather? {connector : Connector} {parts : List Formula}
    (normal : ∀ part ∈ parts, part.Normal) :
    (gather? connector parts).map (holds compiler assign) =
      connector.combine? (parts.map (holds compiler assign)) := by
  cases found : gather? connector parts with
  | none =>
      rw [gather?_eq_none normal found]
      rfl
  | some formula =>
      have present : parts ≠ [] := by
        rintro rfl
        simp [gather?] at found
      simp [Connector.combine?, present, holds_gather? compiler assign found]

end Formula

theorem Tree.value?_eq_canonical (compiler : Compiler) (assign : Json → Bool) (tree : Tree) :
    tree.value? compiler assign =
      (tree.canonical? compiler.rules).map (Formula.holds compiler assign) := by
  induction tree with
  | leaf clause =>
      rw [value?, canonical?, ready?]
      cases compiler.rules.complete clause with
      | error error => rfl
      | ok predicate => exact congrArg some (Formula.holds_leaf compiler assign predicate).symm
  | node connector children ih =>
      have parts : values compiler assign children =
          (children.flatMap fun child => (child.canonical? compiler.rules).toList).map
            (Formula.holds compiler assign) := by
        rw [values_eq_flatMap, List.map_flatMap]
        apply List.flatMap_congr
        intro child member
        rw [ih child member]
        cases child.canonical? compiler.rules <;> rfl
      rw [value?, parts, canonical?_node,
        Formula.map_holds_gather? compiler assign (normal_of_canonical? compiler.rules children)]

/-- A compiled document has the value of its tree, where a tree without complete clauses counts as
true. So does the one that is assembled by its keys. -/
theorem holds_document (compiler : Compiler) (assign : Json → Bool) (tree : Option Tree) :
    let value := (tree.bind (Tree.value? compiler assign)).getD true
    Document.holds assign (Query.document (compiler.compile tree)) = value ∧
      Document.holds assign (compiler.assembled tree) = value := by
  have compiled : Document.holds assign (Query.document (compiler.compile tree)) =
      (tree.bind (Tree.value? compiler assign)).getD true := by
    cases tree with
    | none => rfl
    | some tree =>
        rw [compiler.document_eq_canonical, Option.bind_some, Tree.value?_eq_canonical]
        cases tree.canonical? compiler.rules <;> rfl
  refine ⟨compiled, ?_⟩
  rw [compiler.assembled_eq_document tree, compiled]

end SearchFilter
