import SearchFilter.Proofs.Filter.Shape

/-!
The connectors between neighbouring leaves of a tree. Each is that of the lowest node that holds
both leaves, and for a tree of clauses it is settled by the two clauses and their owners.
-/

namespace SearchFilter

namespace Tree

inductive Part : Tree → Nat → Tree → Prop
  | whole (tree) : Part tree 0 tree
  | inside {child part offset} (connector before after) : Part child offset part →
      Part (node connector (before ++ child :: after)) ((leavesOf before).length + offset) part

def Spans (tree : Tree) (offset number : Nat) : Prop :=
  offset ≤ number ∧ number < offset + tree.leaves.length

/-- The node with this connector is the lowest one over the leaf of a number and the next leaf: it
has both, and none of its children has both. -/
def LowestOver (tree : Tree) (number : Nat) (connector : Connector) : Prop :=
  ∃ offset children, tree.Part offset (node connector children) ∧
    (node connector children).Spans offset number ∧
    (node connector children).Spans offset (number + 1) ∧
    ∀ before child after, children = before ++ child :: after →
      ¬ (child.Spans (offset + (leavesOf before).length) number ∧
        child.Spans (offset + (leavesOf before).length) (number + 1))

mutual

def joints : Tree → List Connector
  | leaf _ => []
  | node connector children => jointsBetween connector children

def jointsBetween (connector : Connector) : List Tree → List Connector
  | [] => []
  | tree :: trees => tree.joints ++ jointsAfter connector trees

def jointsAfter (connector : Connector) : List Tree → List Connector
  | [] => []
  | tree :: trees => connector :: (tree.joints ++ jointsAfter connector trees)

end

theorem jointsAfter_append (connector : Connector) (before after : List Tree) :
    jointsAfter connector (before ++ after) =
      jointsAfter connector before ++ jointsAfter connector after := by
  induction before with
  | nil => rfl
  | cons tree trees ih => simp [jointsAfter, ih]

theorem jointsBetween_cons_append (connector : Connector) (tree : Tree) (before after : List Tree) :
    jointsBetween connector (tree :: before ++ after) =
      jointsBetween connector (tree :: before) ++ jointsAfter connector after := by
  simp [jointsBetween, jointsAfter_append]

theorem length_jointsAfter (connector : Connector) {trees : List Tree}
    (each : ∀ tree ∈ trees, tree.joints.length + 1 = tree.leaves.length) :
    (jointsAfter connector trees).length = (leavesOf trees).length := by
  induction trees with
  | nil => rfl
  | cons tree trees ih =>
      have here := each tree List.mem_cons_self
      have later := ih fun other member => each other (List.mem_cons_of_mem tree member)
      simp only [jointsAfter, leavesOf, List.length_cons, List.length_append]
      omega

theorem Flat.length_joints {tree : Tree} (flat : tree.Flat) :
    tree.joints.length + 1 = tree.leaves.length := by
  induction tree with
  | leaf clause => rfl
  | node connector children ih =>
      obtain ⟨several, -, each⟩ := flat.children
      match children, several with
      | first :: second :: rest, _ =>
          have here := ih first List.mem_cons_self (each first List.mem_cons_self)
          have later : ∀ tree ∈ second :: rest, tree.joints.length + 1 = tree.leaves.length :=
            fun tree member => ih tree (List.mem_cons_of_mem first member)
              (each tree (List.mem_cons_of_mem first member))
          have after := length_jointsAfter connector later
          rw [joints, jointsBetween, leaves, leavesOf, List.length_append, List.length_append]
          omega

theorem jointsBetween_split (connector : Connector) {before : List Tree} (child : Tree)
    (after : List Tree) (each : ∀ tree ∈ before, tree.Flat) :
    ∃ front, front.length = (leavesOf before).length ∧
      jointsBetween connector (before ++ child :: after) =
        front ++ child.joints ++ jointsAfter connector after := by
  cases before with
  | nil => exact ⟨[], rfl, by simp [jointsBetween]⟩
  | cons first rest =>
      refine ⟨jointsBetween connector (first :: rest) ++ [connector], ?_, ?_⟩
      · have here := (each first List.mem_cons_self).length_joints
        have others : ∀ tree ∈ rest, tree.joints.length + 1 = tree.leaves.length :=
          fun tree member => (each tree (List.mem_cons_of_mem first member)).length_joints
        have later := length_jointsAfter connector others
        simp only [jointsBetween, leavesOf, List.length_append, List.length_singleton]
        omega
      · rw [jointsBetween_cons_append, jointsAfter]
        simp

theorem exists_child {trees : List Tree} {number : Nat}
    (inside : number < (leavesOf trees).length) :
    ∃ before child after, trees = before ++ child :: after ∧
      child.Spans (leavesOf before).length number := by
  induction trees generalizing number with
  | nil => simp [leavesOf] at inside
  | cons tree trees ih =>
      rw [leavesOf, List.length_append] at inside
      by_cases here : number < tree.leaves.length
      · exact ⟨[], tree, trees, rfl, Nat.zero_le _, by simpa [leavesOf] using here⟩
      · have later : number - tree.leaves.length < (leavesOf trees).length := by omega
        obtain ⟨before, child, after, rfl, lower, upper⟩ := ih later
        refine ⟨tree :: before, child, after, rfl, ?_, ?_⟩
        · rw [leavesOf, List.length_append]
          omega
        · rw [leavesOf, List.length_append]
          omega

theorem spans_unique {before after left right : List Tree} {child other : Tree} {number : Nat}
    (split : before ++ child :: after = left ++ other :: right)
    (spans : child.Spans (leavesOf before).length number)
    (others : other.Spans (leavesOf left).length number) : before = left ∧ child = other := by
  obtain ⟨lower, upper⟩ := spans
  obtain ⟨otherLower, otherUpper⟩ := others
  rcases List.append_eq_append_iff.mp split with ⟨between, rfl, rest⟩ | ⟨between, rfl, rest⟩
  · cases between with
    | nil => exact ⟨(List.append_nil before).symm, (List.cons.inj rest).1⟩
    | cons first between =>
        obtain ⟨rfl, -⟩ := List.cons.inj rest
        rw [leavesOf_append, leavesOf, List.length_append, List.length_append] at otherLower
        omega
  · cases between with
    | nil => exact ⟨List.append_nil left, (List.cons.inj rest).1.symm⟩
    | cons first between =>
        obtain ⟨rfl, -⟩ := List.cons.inj rest
        rw [leavesOf_append, leavesOf, List.length_append, List.length_append] at lower
        omega

theorem LowestOver.inside {child : Tree} {number : Nat} {lowest : Connector}
    (below : child.LowestOver number lowest) (connector : Connector) (before after : List Tree) :
    (node connector (before ++ child :: after)).LowestOver ((leavesOf before).length + number)
      lowest := by
  obtain ⟨offset, children, part, ⟨lower, upper⟩, ⟨_, next⟩, alone⟩ := below
  refine ⟨_, children, part.inside connector before after, ⟨by omega, by omega⟩,
    ⟨by omega, by omega⟩, ?_⟩
  rintro left grandchild right split ⟨⟨firstLower, firstUpper⟩, ⟨secondLower, secondUpper⟩⟩
  exact alone left grandchild right split ⟨⟨by omega, by omega⟩, ⟨by omega, by omega⟩⟩

theorem jointsBetween_edge (connector : Connector) {before after : List Tree} {child : Tree}
    {number : Nat} (each : ∀ tree ∈ before ++ child :: after, tree.Flat)
    (spans : child.Spans (leavesOf before).length number)
    (last : ¬ child.Spans (leavesOf before).length (number + 1))
    (more : number + 1 < (leavesOf (before ++ child :: after)).length) :
    (jointsBetween connector (before ++ child :: after))[number]? = some connector := by
  obtain ⟨front, length, split⟩ := jointsBetween_split connector child after
    fun tree member => each tree (List.mem_append_left _ member)
  have own := (each child (by simp)).length_joints
  obtain ⟨lower, upper⟩ := spans
  have edge : number + 1 = (leavesOf before).length + child.leaves.length := by
    by_contra inner
    exact last ⟨by omega, by omega⟩
  have behind : (front ++ child.joints).length = number := by
    rw [List.length_append]
    omega
  rw [split, ← behind, List.getElem?_append_right (Nat.le_refl _), Nat.sub_self]
  cases after with
  | nil =>
      rw [leavesOf_append, List.length_append, leavesOf, leavesOf, List.append_nil] at more
      omega
  | cons next rest => rfl

theorem jointsBetween_inside (connector : Connector) {before after : List Tree} {child : Tree}
    {number : Nat} (each : ∀ tree ∈ before ++ child :: after, tree.Flat)
    (inner : number + 1 < child.leaves.length) :
    (jointsBetween connector (before ++ child :: after))[(leavesOf before).length + number]? =
      child.joints[number]? := by
  obtain ⟨front, length, split⟩ := jointsBetween_split connector child after
    fun tree member => each tree (List.mem_append_left _ member)
  have own := (each child (by simp)).length_joints
  have bound : (leavesOf before).length + number < (front ++ child.joints).length := by
    rw [List.length_append]
    omega
  have behind : front.length ≤ (leavesOf before).length + number := by omega
  rw [split, List.getElem?_append_left bound, List.getElem?_append_right behind, length,
    Nat.add_sub_cancel_left]

theorem Part.flat {tree part : Tree} {offset : Nat} (inside : tree.Part offset part)
    (flat : tree.Flat) : part.Flat := by
  induction inside with
  | whole tree => exact flat
  | inside connector before after _ ih => exact ih (flat.children.2.2 _ (by simp))

theorem Part.joints {tree part : Tree} {offset number : Nat} (inside : tree.Part offset part)
    (flat : tree.Flat) (inner : number + 1 < part.leaves.length) :
    tree.joints[offset + number]? = part.joints[number]? ∧
      offset + number + 1 < tree.leaves.length := by
  induction inside with
  | whole tree => simpa using inner
  | inside connector before after _ ih =>
      have each := flat.children.2.2
      obtain ⟨same, bound⟩ := ih (each _ (by simp)) inner
      constructor
      · rw [Tree.joints, Nat.add_assoc, jointsBetween_inside connector each bound, same]
      · rw [leaves, leavesOf_append, leavesOf, List.length_append, List.length_append]
        omega

theorem lowestOver_of_joints {tree : Tree} {number : Nat} {lowest : Connector} (flat : tree.Flat)
    (joint : tree.joints[number]? = some lowest) : tree.LowestOver number lowest := by
  induction tree generalizing number with
  | leaf clause => simp [joints] at joint
  | node connector children ih =>
      have each := flat.children.2.2
      have bound := (List.getElem?_eq_some_iff.mp joint).1
      have more := flat.length_joints
      rw [leaves] at more
      have bounded : number < (leavesOf children).length := by omega
      obtain ⟨before, child, after, rfl, spans⟩ := exists_child bounded
      by_cases inner : child.Spans (leavesOf before).length (number + 1)
      · obtain ⟨lower, upper⟩ := spans
        obtain ⟨_, next⟩ := inner
        have place : number = (leavesOf before).length + (number - (leavesOf before).length) := by
          omega
        rw [joints, place, jointsBetween_inside connector each (by omega)] at joint
        rw [place]
        exact (ih child (by simp) (each child (by simp)) joint).inside connector before after
      · have edge := jointsBetween_edge connector each spans inner (by omega)
        rw [joints, edge] at joint
        obtain rfl := Option.some.inj joint
        refine ⟨0, _, .whole _, ⟨Nat.zero_le _, ?_⟩, ⟨Nat.zero_le _, ?_⟩, ?_⟩
        · rw [leaves]
          omega
        · rw [leaves]
          omega
        · rintro left other right split ⟨⟨firstLower, firstUpper⟩, ⟨secondLower, secondUpper⟩⟩
          have here := (spans_unique split spans ⟨by omega, by omega⟩)
          obtain ⟨rfl, rfl⟩ := here
          exact inner ⟨by omega, by omega⟩

theorem joints_of_lowestOver {tree : Tree} {number : Nat} {lowest : Connector} (flat : tree.Flat)
    (below : tree.LowestOver number lowest) : tree.joints[number]? = some lowest := by
  obtain ⟨offset, children, part, ⟨lower, upper⟩, ⟨_, next⟩, alone⟩ := below
  have each := (part.flat flat).children.2.2
  have place : number = offset + (number - offset) := by omega
  have more : number - offset + 1 < (leavesOf children).length := by
    rw [leaves] at next
    omega
  have bounded : number - offset < (leavesOf children).length := by omega
  rw [place, (part.joints flat more).1, joints]
  obtain ⟨before, child, after, rfl, spans⟩ := exists_child bounded
  refine jointsBetween_edge lowest each spans ?_ more
  rintro ⟨innerLower, innerUpper⟩
  obtain ⟨childLower, childUpper⟩ := spans
  exact alone before child after rfl ⟨⟨by omega, by omega⟩, ⟨by omega, by omega⟩⟩

/-- The joint between two neighbouring leaves is the connector of the lowest node over both. -/
theorem lowestOver_iff {tree : Tree} {number : Nat} {lowest : Connector} (flat : tree.Flat) :
    tree.LowestOver number lowest ↔ tree.joints[number]? = some lowest :=
  ⟨joints_of_lowestOver flat, lowestOver_of_joints flat⟩

end Tree

end SearchFilter
