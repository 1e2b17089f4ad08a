import SearchFilter.Proofs.Filter.Grouping
import SearchFilter.Proofs.Filter.Meaning

/-!
The value of clauses with groups. Each stretch of clauses with one owner or none has a value, and
these are folded from left to right. The tree of the clauses has the value of the fold.
-/

namespace SearchFilter

namespace Grouping

def leftFold (first : Bool) (rest : List (Connector × Bool)) : Bool :=
  rest.foldl (fun value item => item.1.combine [value, item.2]) first

def leftFold? : List (Connector × Bool) → Option Bool
  | [] => none
  | (_, first) :: rest => some (leftFold first rest)

def enabledAt (clauses : List Clause) (indices : List Nat) : List Clause :=
  (indices.filterMap fun index => clauses[index]?).filter fun clause => !clause.disabled

/-- The value of the enabled clauses of a stretch, and the connector of the first of them. -/
def stretchValue? (assign : Clause → Bool) (owner : Option Owner) :
    List Clause → Option (Connector × Bool)
  | [] => none
  | first :: rest =>
    some (first.effectiveConnector, match owner with
      | some owner => owner.connector.combine ((first :: rest).map assign)
      | none => leftFold (assign first) (rest.map fun clause =>
          (clause.effectiveConnector, assign clause)))

def value? (assign : Clause → Bool) (clauses : List Clause) (groups : List Group) : Option Bool :=
  let owners := owners clauses.length groups
  leftFold? ((stretches clauses.length owners).filterMap fun stretch =>
    stretchValue? assign (stretch.head?.bind (ownerOf? owners)) (enabledAt clauses stretch))

theorem enabledAt_flatMap {α : Type} (clauses : List Clause) (items : List α)
    (indices : α → List Nat) :
    enabledAt clauses (items.flatMap indices) =
      items.flatMap fun item => enabledAt clauses (indices item) := by
  rw [enabledAt, List.filterMap_flatMap, List.filter_flatMap]
  rfl

theorem take_drop_eq_filterMap {α : Type} (items : List α) (start size : Nat) :
    (items.drop start).take size =
      (List.range' start size).filterMap fun index => items[index]? := by
  induction size generalizing start with
  | zero => rfl
  | succ size ih =>
      rw [List.range'_succ]
      by_cases inside : start < items.length
      · rw [List.drop_eq_getElem_cons inside, List.take_succ_cons, ih,
          List.filterMap_cons_some (List.getElem?_eq_getElem inside)]
      · have outside : items.length ≤ start := Nat.le_of_not_lt inside
        rw [List.filterMap_cons_none (List.getElem?_eq_none outside), ← ih,
          List.drop_eq_nil_of_le outside, List.drop_eq_nil_of_le (by omega), List.take_nil,
          List.take_nil]

theorem enabledAt_range (clauses : List Clause) :
    enabledAt clauses (List.range clauses.length) =
      clauses.filter fun clause => !clause.disabled := by
  have all := take_drop_eq_filterMap clauses 0 clauses.length
  rw [List.drop_zero, List.take_length] at all
  rw [enabledAt, List.range_eq_range', ← all]

theorem enabledAt_indices (clauses : List Clause) (segment : Segment) :
    enabledAt clauses segment.indices =
      (segment.slice clauses).filter fun clause => !clause.disabled := by
  rw [enabledAt, Segment.slice, take_drop_eq_filterMap]
  rfl

theorem enabledAt_segments (clauses : List Clause) (groups : List Group) :
    ((segments clauses.length groups).flatMap fun segment =>
      enabledAt clauses segment.indices) = clauses.filter fun clause => !clause.disabled := by
  rw [← enabledAt_flatMap, segments_indices, enabledAt_range]

end Grouping

namespace Tree

mutual

def holds (assign : Clause → Bool) : Tree → Bool
  | leaf clause => assign clause
  | node connector children => connector.combine (holdsEach assign children)

def holdsEach (assign : Clause → Bool) : List Tree → List Bool
  | [] => []
  | tree :: trees => tree.holds assign :: holdsEach assign trees

end

variable (assign : Clause → Bool)

theorem holdsEach_eq_map (trees : List Tree) :
    holdsEach assign trees = trees.map (holds assign) := by
  induction trees with
  | nil => rfl
  | cons tree trees ih => rw [holdsEach, ih, List.map_cons]

theorem combine_holds_spliced (connector : Connector) (tree : Tree) :
    connector.combine ((tree.spliced connector).map (holds assign)) = tree.holds assign := by
  cases tree with
  | leaf clause => exact connector.combine_singleton _
  | node own children =>
      by_cases same : own = connector
      · rw [spliced, if_pos same, holds, holdsEach_eq_map, same]
      · rw [spliced, if_neg same]
        exact connector.combine_singleton _

theorem holds_combine (connector : Connector) (trees : List Tree) :
    (combine connector trees).holds assign = connector.combine (trees.map (holds assign)) := by
  rw [combine, holds, holdsEach_eq_map, List.map_flatMap, Connector.combine_flatMap]
  simp only [combine_holds_spliced]

theorem holds_join (left : Tree) (connector : Connector) (right : Tree) :
    (left.join connector right).holds assign =
      connector.combine [left.holds assign, right.holds assign] :=
  holds_combine assign connector [left, right]

theorem holds_foldl (first : Tree) (rest : List (Connector × Tree)) :
    (rest.foldl (fun tree item => tree.join item.1 item.2) first).holds assign =
      Grouping.leftFold (first.holds assign)
        (rest.map fun item => (item.1, item.2.holds assign)) := by
  induction rest generalizing first with
  | nil => rfl
  | cons item rest ih =>
      rw [List.foldl_cons, ih, holds_join]
      rfl

theorem map_holds_fold? (items : List (Connector × Tree)) :
    (fold? items).map (holds assign) =
      Grouping.leftFold? (items.map fun item => (item.1, item.2.holds assign)) := by
  cases items with
  | nil => rfl
  | cons first rest => exact congrArg some (holds_foldl assign first.2 rest)

theorem fold?_eq_none_iff (items : List (Connector × Tree)) : fold? items = none ↔ items = [] := by
  cases items <;> simp [fold?]

end Tree

namespace Segment

theorem map_holds_subtree? (assign : Clause → Bool) (clauses : List Clause) (segment : Segment) :
    (segment.subtree? clauses).map (fun item => (item.1, item.2.holds assign)) =
      Grouping.stretchValue? assign (Grouping.segmentOwner? clauses.length segment)
        (Grouping.enabledAt clauses segment.indices) := by
  rw [Grouping.enabledAt_indices, subtree?]
  cases enabled : (segment.slice clauses).filter fun clause => !clause.disabled with
  | nil => rfl
  | cons first rest =>
      cases segment with
      | group owner start stop =>
          refine congrArg (fun value => some (first.effectiveConnector, value)) ?_
          change Tree.holds assign _ = owner.connector.combine ((first :: rest).map assign)
          split
          · rename_i alone
            rw [List.isEmpty_iff.mp alone]
            exact (Connector.combine_singleton owner.connector (assign first)).symm
          · rw [Tree.holds_combine, List.map_map]
            rfl
      | run start stop =>
          change ((Tree.ofClauses? _).map _).map _ = _
          rw [Tree.ofClauses?, enabled, List.map_cons, Tree.fold?, Option.map_some, Option.map_some,
            Tree.holds_foldl, List.map_map]
          rfl

theorem subtree?_eq_none_iff (clauses : List Clause) (segment : Segment) :
    segment.subtree? clauses = none ↔ Grouping.enabledAt clauses segment.indices = [] := by
  rw [← Option.map_eq_none_iff, map_holds_subtree? (fun _ => true)]
  cases Grouping.enabledAt clauses segment.indices <;> simp [Grouping.stretchValue?]

end Segment

namespace Grouping

variable {clauses : List Clause} {groups : List Group}

theorem placed_of_owners_nil (none : owners clauses.length groups = []) :
    placed clauses.length groups = [] := by
  rw [owners_eq, List.map_eq_nil_iff] at none
  match shape : placed clauses.length groups with
  | [] => rfl
  | next :: rest => simp [shape, keptFrom] at none

theorem fold?_of_owners_nil (none : owners clauses.length groups = []) :
    Tree.fold? ((segments clauses.length groups).filterMap (Segment.subtree? clauses)) =
      Tree.ofClauses? clauses := by
  rw [segments, placed_of_owners_nil none, segmentsFrom]
  by_cases empty : clauses = []
  · subst empty
    rfl
  · have all : (Segment.run 0 clauses.length).slice clauses = clauses := by
      change (clauses.drop 0).take clauses.length = clauses
      rw [List.drop_zero, List.take_length]
    rw [if_pos (List.length_pos_of_ne_nil empty), List.filterMap_cons, Segment.subtree?, all]
    cases enabled : clauses.filter fun clause => !clause.disabled with
    | nil => simp [Tree.ofClauses?, enabled]
    | cons first rest => simp [Tree.ofClauses?, enabled, Tree.fold?]

theorem ofGroups?_eq_fold? (clauses : List Clause) (groups : List Group) :
    Tree.ofGroups? clauses groups =
      Tree.fold? ((segments clauses.length groups).filterMap (Segment.subtree? clauses)) := by
  rw [Tree.ofGroups?]
  split
  · rename_i empty
    rw [List.isEmpty_iff.mp empty]
    exact (fold?_of_owners_nil rfl).symm
  · rfl

theorem ofGroups?_eq_none_iff (clauses : List Clause) (groups : List Group) :
    Tree.ofGroups? clauses groups = none ↔ ∀ clause ∈ clauses, clause.disabled := by
  have disabled : (∀ clause ∈ clauses, clause.disabled) ↔
      (clauses.filter fun clause => !clause.disabled) = [] := by
    simp [List.filter_eq_nil_iff]
  rw [disabled, ← enabledAt_segments clauses groups, ofGroups?_eq_fold?, Tree.fold?_eq_none_iff,
    List.filterMap_eq_nil_iff, List.flatMap_eq_nil_iff]
  exact forall₂_congr fun segment _ => segment.subtree?_eq_none_iff clauses

theorem map_holds_ofGroups? (assign : Clause → Bool) (clauses : List Clause)
    (groups : List Group) :
    (Tree.ofGroups? clauses groups).map (Tree.holds assign) = value? assign clauses groups := by
  rw [ofGroups?_eq_fold?, Tree.map_holds_fold?, value?, stretches_eq, List.filterMap_map,
    List.map_filterMap]
  refine congrArg leftFold? (List.filterMap_congr ?_)
  intro segment member
  have nonempty := segments_nonempty clauses.length groups segment member
  have first : segment.indices.head? = some segment.bounds.1 := by
    rw [Segment.indices, List.head?_range', if_neg (by omega)]
  have inside : segment.bounds.1 ∈ segment.indices :=
    Segment.mem_indices.mpr ⟨Nat.le_refl _, nonempty⟩
  rw [Segment.map_holds_subtree?, Function.comp_apply, first, Option.bind_some,
    ownerOf?_segment member inside]

end Grouping

/-- What the tree of clauses with groups means. There is one unless all clauses are disabled, its
value is that of the stretches between changes of the owner, and without groups in use it is the
tree of the clauses alone. -/
theorem grouped_tree_meaning (clauses : List Clause) (groups : List Group) :
    (Tree.ofGroups? clauses groups = none ↔ ∀ clause ∈ clauses, clause.disabled) ∧
      (∀ assign, (Tree.ofGroups? clauses groups).map (Tree.holds assign) =
        Grouping.value? assign clauses groups) ∧
      (Grouping.owners clauses.length groups = [] →
        Tree.ofGroups? clauses groups = Tree.ofClauses? clauses) := by
  refine ⟨Grouping.ofGroups?_eq_none_iff clauses groups, ?_, ?_⟩
  · intro assign
    exact Grouping.map_holds_ofGroups? assign clauses groups
  · intro none
    rw [Grouping.ofGroups?_eq_fold?, Grouping.fold?_of_owners_nil none]

end SearchFilter
