import SearchFilter.Proofs.Filter.GroupedMeaning

/-!
The shape of the trees that are built from clauses. Their leaves are the enabled clauses in order,
and no node could be taken into its parent.
-/

namespace SearchFilter

namespace Tree

/-- Each node has at least two children, none of them a node with its connector. -/
inductive Flat : Tree → Prop
  | leaf (clause) : Flat (leaf clause)
  | node (connector children) : 2 ≤ children.length →
      (∀ child ∈ children, child.connector? ≠ some connector) → (∀ child ∈ children, Flat child) →
      Flat (node connector children)

theorem Flat.children {connector : Connector} {children : List Tree}
    (flat : (Tree.node connector children).Flat) :
    2 ≤ children.length ∧ (∀ child ∈ children, child.connector? ≠ some connector) ∧
      ∀ child ∈ children, child.Flat := by
  cases flat with
  | node _ _ several others each => exact ⟨several, others, each⟩

theorem Flat.spliced {tree : Tree} (flat : tree.Flat) (connector : Connector) :
    tree.spliced connector ≠ [] ∧
      ∀ part ∈ tree.spliced connector, part.Flat ∧ part.connector? ≠ some connector := by
  cases tree with
  | leaf clause => simp [Tree.spliced, Flat.leaf, connector?]
  | node own children =>
      rw [Tree.spliced]
      by_cases same : own = connector
      · obtain ⟨several, others, each⟩ := flat.children
        rw [if_pos same]
        constructor
        · intro empty
          simp [empty] at several
        · intro part member
          exact ⟨each part member, same ▸ others part member⟩
      · rw [if_neg same]
        constructor
        · simp
        · intro part member
          rw [List.mem_singleton.mp member]
          exact ⟨flat, fun equal => same (Option.some.inj equal)⟩

theorem length_le_flatMap_spliced (connector : Connector) (trees : List Tree)
    (flat : ∀ tree ∈ trees, tree.Flat) :
    trees.length ≤ (trees.flatMap (spliced connector)).length := by
  induction trees with
  | nil => simp
  | cons tree rest ih =>
      have here := List.length_pos_of_ne_nil ((flat tree List.mem_cons_self).spliced connector).1
      have later := ih fun other member => flat other (List.mem_cons_of_mem tree member)
      rw [List.flatMap_cons, List.length_append, List.length_cons]
      omega

theorem Flat.combine {trees : List Tree} (several : 2 ≤ trees.length)
    (flat : ∀ tree ∈ trees, tree.Flat) (connector : Connector) :
    (combine connector trees).Flat := by
  have each : ∀ part ∈ trees.flatMap (Tree.spliced connector),
      part.Flat ∧ part.connector? ≠ some connector := by
    intro part member
    obtain ⟨tree, treeMember, inside⟩ := List.mem_flatMap.mp member
    exact ((flat tree treeMember).spliced connector).2 part inside
  have enough := length_le_flatMap_spliced connector trees flat
  exact .node connector _ (by omega) (fun part member => (each part member).2)
    fun part member => (each part member).1

theorem Flat.join {left right : Tree} (leftFlat : left.Flat) (rightFlat : right.Flat)
    (connector : Connector) : (left.join connector right).Flat :=
  .combine (by simp) (by simp [leftFlat, rightFlat]) connector

theorem leaves_join (left : Tree) (connector : Connector) (right : Tree) :
    (left.join connector right).leaves = left.leaves ++ right.leaves := by
  rw [join, leaves_combine]
  simp [leavesOf]

theorem leavesOf_map_leaf (clauses : List Clause) : leavesOf (clauses.map leaf) = clauses := by
  induction clauses with
  | nil => rfl
  | cons clause rest ih => rw [List.map_cons, leavesOf, ih, leaves, List.singleton_append]

theorem foldl_join_shape {first : Tree} {rest : List (Connector × Tree)} (flat : first.Flat)
    (others : ∀ item ∈ rest, item.2.Flat) :
    let tree := rest.foldl (fun tree item => tree.join item.1 item.2) first
    tree.leaves = first.leaves ++ rest.flatMap (fun item => item.2.leaves) ∧ tree.Flat := by
  induction rest generalizing first with
  | nil => exact ⟨by simp, flat⟩
  | cons item rest ih =>
      have joined := flat.join (others item List.mem_cons_self) item.1
      obtain ⟨leaves, shape⟩ :=
        ih joined fun other member => others other (List.mem_cons_of_mem item member)
      refine ⟨?_, shape⟩
      rw [List.foldl_cons, leaves, leaves_join, List.flatMap_cons, List.append_assoc]

theorem fold?_shape {items : List (Connector × Tree)} {tree : Tree}
    (flat : ∀ item ∈ items, item.2.Flat) (built : fold? items = some tree) :
    tree.leaves = items.flatMap (fun item => item.2.leaves) ∧ tree.Flat := by
  cases items with
  | nil => simp [fold?] at built
  | cons first rest =>
      obtain rfl := Option.some.inj built
      exact foldl_join_shape (flat first List.mem_cons_self)
        fun item member => flat item (List.mem_cons_of_mem first member)

theorem flat_leaves (clauses : List Clause) : ∀ tree ∈ clauses.map leaf, tree.Flat :=
  List.forall_mem_map.mpr fun clause _ => .leaf clause

theorem flat_operands (clauses : List Clause) :
    ∀ item ∈ clauses.map (fun clause => (clause.effectiveConnector, leaf clause)), item.2.Flat :=
  List.forall_mem_map.mpr fun clause _ => .leaf clause

theorem ofClauses?_shape {clauses : List Clause} {tree : Tree}
    (built : ofClauses? clauses = some tree) :
    tree.leaves = (clauses.filter fun clause => !clause.disabled) ∧ tree.Flat := by
  obtain ⟨leaves, shape⟩ := fold?_shape (flat_operands _) built
  refine ⟨?_, shape⟩
  rw [leaves, List.flatMap_map]
  simp [Tree.leaves]

end Tree

theorem Segment.subtree?_shape {clauses : List Clause} {segment : Segment}
    {item : Connector × Tree} (built : segment.subtree? clauses = some item) :
    item.2.leaves = Grouping.enabledAt clauses segment.indices ∧ item.2.Flat := by
  rw [Grouping.enabledAt_indices]
  rw [subtree?] at built
  cases enabled : (segment.slice clauses).filter fun clause => !clause.disabled with
  | nil => simp [enabled] at built
  | cons first rest =>
      rw [enabled] at built
      cases segment with
      | group owner start stop =>
          obtain rfl := Option.some.inj built
          cases rest with
          | nil => exact ⟨rfl, .leaf first⟩
          | cons second rest =>
              constructor
              · exact (Tree.leaves_combine _ _).trans (Tree.leavesOf_map_leaf _)
              · exact Tree.Flat.combine (by simp) (Tree.flat_leaves _) owner.connector
      | run start stop =>
          obtain ⟨tree, folded, rfl⟩ := Option.map_eq_some_iff.mp built
          obtain ⟨leaves, shape⟩ := Tree.ofClauses?_shape folded
          exact ⟨leaves.trans enabled, shape⟩

theorem Segment.flat_subtrees (clauses : List Clause) (segments : List Segment) :
    ∀ item ∈ segments.filterMap (subtree? clauses), item.2.Flat := by
  intro item member
  obtain ⟨segment, -, found⟩ := List.mem_filterMap.mp member
  exact (subtree?_shape found).2

theorem leaves_of_segments (clauses : List Clause) (segments : List Segment) :
    (segments.filterMap (Segment.subtree? clauses)).flatMap (fun item => item.2.leaves) =
      segments.flatMap fun segment => Grouping.enabledAt clauses segment.indices := by
  induction segments with
  | nil => rfl
  | cons segment rest ih =>
      rw [List.flatMap_cons]
      cases built : segment.subtree? clauses with
      | none =>
          have empty := (segment.subtree?_eq_none_iff clauses).mp built
          rw [List.filterMap_cons_none built, ih, empty, List.nil_append]
      | some item =>
          rw [List.filterMap_cons_some built, List.flatMap_cons, ih,
            (Segment.subtree?_shape built).1]

theorem Tree.ofGroups?_shape {clauses : List Clause} {groups : List Group} {tree : Tree}
    (built : ofGroups? clauses groups = some tree) :
    tree.leaves = (clauses.filter fun clause => !clause.disabled) ∧ tree.Flat := by
  rw [Grouping.ofGroups?_eq_fold?] at built
  obtain ⟨leaves, shape⟩ := fold?_shape (Segment.flat_subtrees _ _) built
  rw [leaves, leaves_of_segments, Grouping.enabledAt_segments]
  exact ⟨rfl, shape⟩

/-- A tree built from clauses, with any groups or without, has the enabled clauses as its leaves,
in their order and each once. Each of its nodes has at least two children, none with the connector
of the node. -/
theorem built_tree_shape (clauses : List Clause) (groups : List Group) (tree : Tree)
    (built : Tree.ofGroups? clauses groups = some tree ∨ Tree.ofClauses? clauses = some tree) :
    tree.leaves = (clauses.filter fun clause => !clause.disabled) ∧ tree.Flat := by
  rcases built with grouped | plain
  · exact Tree.ofGroups?_shape grouped
  · exact Tree.ofClauses?_shape plain

theorem built_tree_shape_of_overlap :
    let clauses : List Clause :=
      [{ field := "a" }, { field := "b", connector := some .or },
        { field := "c", disabled := true }, { field := "d", connector := some .or },
        { field := "e" }]
    let groups : List Group :=
      [⟨"gap", .and, [0, 2]⟩, ⟨"kept", .or, [3, 1, 2]⟩, ⟨"late", .and, [3, 4, 9]⟩]
    ∃ tree, Tree.ofGroups? clauses groups = some tree ∧
      tree.leaves.map Clause.field = ["a", "b", "d", "e"] ∧ tree.Flat := by
  intro clauses groups
  have built : Tree.ofGroups? clauses groups = some _ := rfl
  obtain ⟨leaves, flat⟩ := built_tree_shape clauses groups _ (.inl built)
  refine ⟨_, built, ?_, flat⟩
  rw [leaves]
  rfl

end SearchFilter
