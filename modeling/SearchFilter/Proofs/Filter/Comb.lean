import SearchFilter.Proofs.Filter.Links

/-!
The tree of clauses without groups. Clauses in a row with one connector form a block, and each block
is a node over its clauses and the tree of everything in front of it.
-/

namespace SearchFilter

structure Block where
  connector : Connector
  clauses : List Clause

namespace Block

/-- The blocks hold these clauses in order, and each is as long as it can be. -/
structure IsDivision (blocks : List Block) (clauses : List Clause) : Prop where
  whole : blocks.flatMap Block.clauses = clauses
  nonempty : ∀ block ∈ blocks, block.clauses ≠ []
  uniform : ∀ block ∈ blocks, ∀ clause ∈ block.clauses,
    clause.effectiveConnector = block.connector
  alternate : blocks.IsChain fun first second => first.connector ≠ second.connector

def led (clause : Clause) : List Block → List Block
  | [] => [⟨clause.effectiveConnector, [clause]⟩]
  | block :: rest =>
    if clause.effectiveConnector = block.connector then
      ⟨block.connector, clause :: block.clauses⟩ :: rest
    else ⟨clause.effectiveConnector, [clause]⟩ :: block :: rest

def division (clauses : List Clause) : List Block := clauses.foldr led []

variable {blocks : List Block} {clauses : List Clause}

theorem IsDivision.tail {block : Block} (divided : IsDivision (block :: blocks) clauses) :
    IsDivision blocks (blocks.flatMap Block.clauses) where
  whole := rfl
  nonempty := fun other member => divided.nonempty other (List.mem_cons_of_mem block member)
  uniform := fun other member => divided.uniform other (List.mem_cons_of_mem block member)
  alternate := divided.alternate.tail

theorem IsDivision.led (divided : IsDivision blocks clauses) (clause : Clause) :
    IsDivision (led clause blocks) (clause :: clauses) := by
  cases blocks with
  | nil =>
      have none : clauses = [] := divided.whole.symm
      subst none
      constructor <;> simp [Block.led]
  | cons block rest =>
      obtain ⟨whole, nonempty, uniform, alternate⟩ := divided
      rw [List.forall_mem_cons] at nonempty uniform
      by_cases same : clause.effectiveConnector = block.connector
      · rw [Block.led, if_pos same]
        constructor
        · rw [← whole]
          rfl
        · exact List.forall_mem_cons.mpr ⟨List.cons_ne_nil _ _, nonempty.2⟩
        · exact List.forall_mem_cons.mpr
            ⟨List.forall_mem_cons.mpr ⟨same, uniform.1⟩, uniform.2⟩
        · rw [List.isChain_cons] at alternate ⊢
          exact alternate
      · rw [Block.led, if_neg same]
        constructor
        · rw [← whole]
          rfl
        · exact List.forall_mem_cons.mpr
            ⟨List.cons_ne_nil _ _, List.forall_mem_cons.mpr nonempty⟩
        · refine List.forall_mem_cons.mpr ⟨?_, List.forall_mem_cons.mpr uniform⟩
          simp
        · exact List.isChain_cons_cons.mpr ⟨same, alternate⟩

theorem isDivision_division (clauses : List Clause) : IsDivision (division clauses) clauses := by
  induction clauses with
  | nil => constructor <;> simp [division]
  | cons clause rest ih => exact ih.led clause

end Block

namespace Tree

/-- A tree under blocks: each is a node over the tree so far, as its first child, and the clauses of
the block. -/
def comb (tree : Tree) (blocks : List Block) : Tree :=
  blocks.foldl (fun tree block => node block.connector (tree :: block.clauses.map leaf)) tree

def joined (tree : Tree) (clause : Clause) : Tree :=
  tree.join clause.effectiveConnector (leaf clause)

theorem join_leaf (tree : Tree) (connector : Connector) (clause : Clause) :
    tree.join connector (leaf clause) =
      node connector (tree.spliced connector ++ [leaf clause]) := by
  simp [join, combine, spliced]

theorem spliced_of_connector? {tree : Tree} {connector : Connector}
    (other : tree.connector? ≠ some connector) : tree.spliced connector = [tree] := by
  cases tree with
  | leaf clause => rfl
  | node own children => exact if_neg fun same => other (congrArg some same)

theorem foldl_joined_node {connector : Connector} {clauses : List Clause}
    (uniform : ∀ clause ∈ clauses, clause.effectiveConnector = connector) (children : List Tree) :
    clauses.foldl joined (node connector children) =
      node connector (children ++ clauses.map leaf) := by
  induction clauses generalizing children with
  | nil => simp
  | cons clause rest ih =>
      rw [List.forall_mem_cons] at uniform
      rw [List.foldl_cons, joined, uniform.1, join_leaf, spliced, if_pos rfl, ih uniform.2,
        List.append_assoc, List.map_cons, List.singleton_append]

theorem foldl_joined_block {block : Block} {tree : Tree} (nonempty : block.clauses ≠ [])
    (uniform : ∀ clause ∈ block.clauses, clause.effectiveConnector = block.connector)
    (other : tree.connector? ≠ some block.connector) :
    block.clauses.foldl joined tree =
      node block.connector (tree :: block.clauses.map leaf) := by
  obtain ⟨connector, clauses⟩ := block
  cases clauses with
  | nil => exact absurd rfl nonempty
  | cons clause rest =>
      rw [List.forall_mem_cons] at uniform
      rw [List.foldl_cons, joined, uniform.1, join_leaf, spliced_of_connector? other,
        foldl_joined_node uniform.2]
      rfl

theorem foldl_joined {blocks : List Block} {clauses : List Clause} {tree : Tree}
    (divided : Block.IsDivision blocks clauses)
    (other : ∀ block ∈ blocks.head?, tree.connector? ≠ some block.connector) :
    clauses.foldl joined tree = comb tree blocks := by
  -- The next block differs from the node of the one before it, so that node stays whole.
  induction blocks generalizing tree clauses with
  | nil =>
      rw [← divided.whole]
      rfl
  | cons block rest ih =>
      have here := foldl_joined_block (divided.nonempty block List.mem_cons_self)
        (divided.uniform block List.mem_cons_self) (other block rfl)
      have next : ∀ later ∈ rest.head?,
          (node block.connector (tree :: block.clauses.map leaf)).connector? ≠
            some later.connector := by
        intro later first same
        exact (List.isChain_cons.mp divided.alternate).1 later first (Option.some.inj same)
      rw [← divided.whole, List.flatMap_cons, List.foldl_append, here, ih divided.tail next]
      rfl

theorem ofClauses?_eq_comb {clauses : List Clause} {first : Clause} {rest : List Clause}
    (enabled : (clauses.filter fun clause => !clause.disabled) = first :: rest) :
    ofClauses? clauses = some (comb (leaf first) (Block.division rest)) := by
  have unconnected : ∀ block ∈ (Block.division rest).head?,
      (leaf first).connector? ≠ some block.connector := by
    simp [connector?]
  rw [ofClauses?, enabled, List.map_cons, fold?, List.foldl_map]
  exact congrArg some (foldl_joined (Block.isDivision_division rest) unconnected)

/-! What a comb shows. -/

theorem connector?_comb (tree : Tree) (blocks : List Block) :
    (comb tree blocks).connector? =
      ((blocks.getLast?).map Block.connector).or tree.connector? := by
  cases blocks using List.reverseRecOn with
  | nil => rfl
  | append_singleton blocks last =>
      rw [comb, List.foldl_append, List.getLast?_concat]
      rfl

theorem depth_pos (tree : Tree) : 1 ≤ tree.depth := by
  cases tree <;> simp [depth]

theorem depthOf_map_leaf (clauses : List Clause) : depthOf (clauses.map leaf) ≤ 1 := by
  induction clauses with
  | nil => simp [depthOf]
  | cons clause rest ih => simpa [depthOf, depth] using ih

theorem depth_comb (tree : Tree) (blocks : List Block) :
    (comb tree blocks).depth = tree.depth + blocks.length := by
  induction blocks generalizing tree with
  | nil => rfl
  | cons block rest ih =>
      have low := depthOf_map_leaf block.clauses
      have high := tree.depth_pos
      have here : (node block.connector (tree :: block.clauses.map leaf)).depth =
          tree.depth + 1 := by
        rw [depth, depthOf]
        omega
      have later := ih (node block.connector (tree :: block.clauses.map leaf))
      rw [here] at later
      rw [List.length_cons, ← Nat.add_assoc, Nat.add_right_comm]
      exact later

theorem joints_ofClauses? {clauses : List Clause} {tree : Tree}
    (built : ofClauses? clauses = some tree) :
    tree.joints =
      ((clauses.filter fun clause => !clause.disabled).map Clause.effectiveConnector).tail := by
  rw [joints_fold? (flat_operands _) built, List.flatMap_map, List.map_eq_flatMap]
  rfl

/-- The tree of clauses without groups, of which the first and the rest are enabled. It has one node
for each block of the rest, the last block on top, so its connectors alternate. The first clause is
the leaf at the bottom, and its own connector plays no part. The clauses and their connectors can be
read off the tree. -/
theorem ungrouped_tree_is_comb {clauses : List Clause} {first : Clause} {rest : List Clause}
    (enabled : (clauses.filter fun clause => !clause.disabled) = first :: rest) :
    Block.IsDivision (Block.division rest) rest ∧
      (∀ others connector,
        (others.filter fun clause => !clause.disabled) = { first with connector } :: rest →
          ofClauses? others =
            some (comb (leaf { first with connector }) (Block.division rest))) ∧
      ∃ tree, ofClauses? clauses = some tree ∧
        tree = comb (leaf first) (Block.division rest) ∧
        tree.connector? = ((Block.division rest).getLast?).map Block.connector ∧
        tree.depth = 1 + (Block.division rest).length ∧
        tree.leaves = first :: rest ∧
        tree.joints = rest.map Clause.effectiveConnector := by
  have built := ofClauses?_eq_comb enabled
  refine ⟨Block.isDivision_division rest, ?_, _, built, rfl, ?_, ?_, ?_, ?_⟩
  · intro others connector alike
    exact ofClauses?_eq_comb alike
  · rw [connector?_comb, connector?, Option.or_none]
  · rw [depth_comb, depth]
  · rw [(ofClauses?_shape built).1, enabled]
  · rw [joints_ofClauses? built, enabled]
    rfl

theorem ungrouped_tree_is_comb_of_four :
    let a : Clause := { field := "a", connector := some .or }
    let b : Clause := { field := "b" }
    let c : Clause := { field := "c", connector := some .or }
    let d : Clause := { field := "d", connector := some .and }
    let loose : Clause := { a with connector := none }
    ofClauses? [loose, b, c, d] =
        some (node .and [node .or [node .and [leaf loose, leaf b], leaf c], leaf d]) ∧
      ∃ tree, ofClauses? [a, b, { connector := some .and, disabled := true }, c, d] = some tree ∧
        tree = node .and [node .or [node .and [leaf a, leaf b], leaf c], leaf d] ∧
        tree.depth = 4 ∧ tree.leaves = [a, b, c, d] ∧ tree.joints = [.and, .or, .and] := by
  intro a b c d loose
  have enabled : ([a, b, { connector := some .and, disabled := true }, c, d].filter
      fun clause => !clause.disabled) = [a, b, c, d] := rfl
  obtain ⟨-, other, tree, built, shape, -, depth, leaves, joints⟩ := ungrouped_tree_is_comb enabled
  exact ⟨other _ none rfl, tree, built, shape, depth, leaves, joints⟩

end Tree

end SearchFilter
