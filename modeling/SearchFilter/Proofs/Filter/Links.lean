import SearchFilter.Proofs.Filter.Joints

/-!
How neighbouring clauses are joined in the tree of clauses with groups. Two enabled clauses with
none between them are joined by the connector of their owner when they have the same one, and
otherwise by that of the second clause.
-/

namespace SearchFilter

namespace Tree

theorem jointsAfter_spliced {tree : Tree} (flat : tree.Flat) (connector : Connector) :
    jointsAfter connector (tree.spliced connector) = connector :: tree.joints := by
  cases tree with
  | leaf clause => simp [spliced, jointsAfter]
  | node own children =>
      by_cases same : own = connector
      · obtain ⟨several, -, -⟩ := flat.children
        cases children with
        | nil => simp at several
        | cons first rest => simp [spliced, same, jointsAfter, joints, jointsBetween]
      · simp [spliced, same, jointsAfter]

theorem jointsAfter_flatMap_spliced {trees : List Tree} (flat : ∀ tree ∈ trees, tree.Flat)
    (connector : Connector) :
    jointsAfter connector (trees.flatMap (spliced connector)) = jointsAfter connector trees := by
  induction trees with
  | nil => rfl
  | cons tree trees ih =>
      have later := ih fun other member => flat other (List.mem_cons_of_mem tree member)
      rw [List.flatMap_cons, jointsAfter_append, later,
        jointsAfter_spliced (flat tree List.mem_cons_self), jointsAfter, List.cons_append]

theorem joints_combine {tree : Tree} {trees : List Tree}
    (flat : ∀ operand ∈ tree :: trees, operand.Flat) (connector : Connector) :
    (combine connector (tree :: trees)).joints =
      tree.joints ++ jointsAfter connector trees := by
  have here := jointsAfter_flatMap_spliced flat connector
  have nonempty := ((flat tree List.mem_cons_self).spliced connector).1
  rw [combine, joints]
  cases shape : (tree :: trees).flatMap (spliced connector) with
  | nil => simp [nonempty] at shape
  | cons first rest =>
      rw [shape] at here
      exact (List.cons.inj here).2

theorem joints_join {left right : Tree} (leftFlat : left.Flat) (rightFlat : right.Flat)
    (connector : Connector) :
    (left.join connector right).joints = left.joints ++ connector :: right.joints := by
  rw [join, joints_combine (by simp [leftFlat, rightFlat])]
  simp [jointsAfter]

theorem joints_foldl {first : Tree} {rest : List (Connector × Tree)} (flat : first.Flat)
    (others : ∀ item ∈ rest, item.2.Flat) :
    (rest.foldl (fun tree item => tree.join item.1 item.2) first).joints =
      first.joints ++ rest.flatMap fun item => item.1 :: item.2.joints := by
  induction rest generalizing first with
  | nil => simp
  | cons item rest ih =>
      have here := others item List.mem_cons_self
      rw [List.foldl_cons, ih (flat.join here item.1)
        fun other member => others other (List.mem_cons_of_mem item member),
        joints_join flat here, List.flatMap_cons, List.append_assoc]

theorem joints_fold? {items : List (Connector × Tree)} {tree : Tree}
    (flat : ∀ item ∈ items, item.2.Flat) (built : fold? items = some tree) :
    tree.joints = (items.flatMap fun item => item.1 :: item.2.joints).tail := by
  cases items with
  | nil => simp [fold?] at built
  | cons first rest =>
      obtain rfl := Option.some.inj built
      exact joints_foldl (flat first List.mem_cons_self)
        fun item member => flat item (List.mem_cons_of_mem first member)

theorem jointsAfter_map_leaf (connector : Connector) (clauses : List Clause) :
    jointsAfter connector (clauses.map leaf) = clauses.map fun _ => connector := by
  induction clauses with
  | nil => rfl
  | cons clause rest ih => simp [jointsAfter, joints, ih]

end Tree

namespace Grouping

abbrev Owned := Option Owner × Clause

/-- The connector between two enabled clauses with none between them. -/
def link (first second : Owned) : Connector :=
  match first.1 with
  | some owner =>
    if second.1 = some owner then owner.connector else second.2.effectiveConnector
  | none => second.2.effectiveConnector

def linksFrom (first : Owned) : List Owned → List Connector
  | [] => []
  | second :: rest => link first second :: linksFrom second rest

def links : List Owned → List Connector
  | [] => []
  | first :: rest => linksFrom first rest

theorem link_of_apart {first second : Owned} (apart : first.1 = none ∨ first.1 ≠ second.1) :
    link first second = second.2.effectiveConnector := by
  rw [link]
  split
  · rename_i owner owned
    rcases apart with none | different
    · simp [none] at owned
    · rw [owned] at different
      rw [if_neg (Ne.symm different)]
  · rfl

theorem linksFrom_map (owner : Option Owner) (first : Clause) (rest : List Clause) :
    linksFrom (owner, first) (rest.map fun clause => (owner, clause)) =
      rest.map fun clause => (owner.map Owner.connector).getD clause.effectiveConnector := by
  induction rest generalizing first with
  | nil => rfl
  | cons second rest ih =>
      rw [List.map_cons, List.map_cons, linksFrom, ih]
      cases owner <;> simp [link]

theorem linksFrom_append (first : Owned) (owner : Option Owner) (second : Clause)
    (rest : List Clause) (later : List Owned) :
    ∃ last : Clause,
      linksFrom first ((second :: rest).map (fun clause => (owner, clause)) ++ later) =
        link first (owner, second) ::
          (linksFrom (owner, second) (rest.map fun clause => (owner, clause)) ++
            linksFrom (owner, last) later) := by
  induction rest generalizing first second with
  | nil => exact ⟨second, rfl⟩
  | cons third rest ih =>
      obtain ⟨last, same⟩ := ih (owner, second) third
      refine ⟨last, ?_⟩
      rw [List.map_cons, List.cons_append, linksFrom, same]
      rfl

theorem getElem?_linksFrom {first second : Owned} {rest : List Owned} {number : Nat}
    {entry : Owned} (here : (entry :: rest)[number]? = some first)
    (next : rest[number]? = some second) :
    (linksFrom entry rest)[number]? = some (link first second) := by
  induction rest generalizing entry number with
  | nil => simp at next
  | cons other rest ih =>
      cases number with
      | zero =>
          obtain rfl := Option.some.inj here
          obtain rfl := Option.some.inj next
          rfl
      | succ number => exact ih here next

theorem getElem?_links {entries : List Owned} {number : Nat} {first second : Owned}
    (here : entries[number]? = some first) (next : entries[number + 1]? = some second) :
    (links entries)[number]? = some (link first second) := by
  cases entries with
  | nil => simp at here
  | cons entry rest => exact getElem?_linksFrom here next

def entriesAt (clauses : List Clause) (held : List Owner) (indices : List Nat) : List Owned :=
  (indices.filterMap fun index => clauses[index]?.map fun clause =>
    (ownerOf? held index, clause)).filter fun entry => !entry.2.disabled

variable {clauses : List Clause} {groups : List Group} {held : List Owner}

theorem entriesAt_append (first second : List Nat) :
    entriesAt clauses held (first ++ second) =
      entriesAt clauses held first ++ entriesAt clauses held second := by
  rw [entriesAt, List.filterMap_append, List.filter_append]
  rfl

theorem entriesAt_flatMap {α : Type} (items : List α) (indices : α → List Nat) :
    entriesAt clauses held (items.flatMap indices) =
      items.flatMap fun item => entriesAt clauses held (indices item) := by
  rw [entriesAt, List.filterMap_flatMap, List.filter_flatMap]
  rfl

theorem entriesAt_of_owner {indices : List Nat} {owner : Option Owner}
    (same : ∀ index ∈ indices, ownerOf? held index = owner) :
    entriesAt clauses held indices =
      (enabledAt clauses indices).map fun clause => (owner, clause) := by
  have pairs : (indices.filterMap fun index => clauses[index]?.map fun clause =>
      (ownerOf? held index, clause)) =
      (indices.filterMap fun index => clauses[index]?).map fun clause => (owner, clause) := by
    rw [List.map_filterMap]
    apply List.filterMap_congr
    intro index member
    rw [same index member]
  rw [entriesAt, pairs, List.filter_map, enabledAt]
  rfl

theorem map_snd_entriesAt (clauses : List Clause) (held : List Owner) (indices : List Nat) :
    (entriesAt clauses held indices).map Prod.snd = enabledAt clauses indices := by
  have clausesOnly : (indices.filterMap fun index => clauses[index]?) =
      (indices.filterMap fun index => clauses[index]?.map fun clause =>
        (ownerOf? held index, clause)).map Prod.snd := by
    rw [List.map_filterMap]
    apply List.filterMap_congr
    intro index _
    cases clauses[index]? <;> rfl
  rw [enabledAt, clausesOnly, List.filter_map]
  rfl

def leafNumber (clauses : List Clause) (index : Nat) : Nat :=
  (clauses.take index).countP fun clause => !clause.disabled

theorem leafNumber_succ {index : Nat} {clause : Clause} (present : clauses[index]? = some clause)
    (enabled : clause.disabled = false) :
    leafNumber clauses (index + 1) = leafNumber clauses index + 1 := by
  rw [leafNumber, List.take_add_one, present, List.countP_append]
  simp [leafNumber, enabled]

theorem getElem?_entriesAt (held : List Owner) {index : Nat} {clause : Clause}
    (present : clauses[index]? = some clause) (enabled : clause.disabled = false) :
    (entriesAt clauses held (List.range clauses.length))[leafNumber clauses index]? =
      some (ownerOf? held index, clause) := by
  have inside := (List.getElem?_eq_some_iff.mp present).1
  obtain ⟨more, size⟩ : ∃ more, clauses.length = index + (1 + more) :=
    ⟨clauses.length - (index + 1), by omega⟩
  have split : List.range clauses.length =
      List.range index ++ index :: List.range' (index + 1) more := by
    rw [List.range_eq_range', size, ← List.range'_append_1, ← List.range'_append_1,
      List.range_eq_range']
    simp
  have front : (entriesAt clauses held (List.range index)).length = leafNumber clauses index := by
    have taken := take_drop_eq_filterMap clauses 0 index
    rw [List.drop_zero, ← List.range_eq_range'] at taken
    have clausesOnly := congrArg List.length (map_snd_entriesAt clauses held (List.range index))
    rw [List.length_map] at clausesOnly
    rw [clausesOnly, enabledAt, ← taken, leafNumber, List.countP_eq_length_filter]
  have here : entriesAt clauses held [index] = [(ownerOf? held index, clause)] := by
    simp [entriesAt, present, enabled]
  rw [split, List.append_cons, entriesAt_append, entriesAt_append, here, List.append_assoc,
    List.getElem?_append_right (by omega), front, Nat.sub_self]
  rfl

/-! The segments of clauses with groups. -/

theorem segments_disjoint (count : Nat) (groups : List Group) :
    (segments count groups).Pairwise fun first second =>
      ∀ index ∈ first.indices, index ∉ second.indices := by
  have nodup : (List.range count).Nodup := List.nodup_range
  rw [← segments_indices count groups, List.nodup_flatMap] at nodup
  exact nodup.2.imp fun disjoint index inFirst inSecond => disjoint inFirst inSecond

theorem segments_pairwise (count : Nat) (groups : List Group) :
    (segments count groups).Pairwise fun first second =>
      segmentOwner? count first = none ∨
        segmentOwner? count first ≠ segmentOwner? count second := by
  refine (segments_disjoint count groups).imp_of_mem ?_
  intro first second firstMember secondMember disjoint
  cases found : first.place? with
  | none =>
      left
      rw [segmentOwner?, found, Option.map_none]
  | some place =>
      right
      refine segmentOwner?_ne firstMember secondMember ?_
      intro same
      have bounds : first.bounds = second.bounds := by
        rw [Segment.bounds_of_place? found, Segment.bounds_of_place? (same ▸ found)]
      have nonempty := segments_nonempty count groups first firstMember
      have inFirst : first.bounds.1 ∈ first.indices :=
        Segment.mem_indices.mpr ⟨Nat.le_refl _, nonempty⟩
      have inSecond : first.bounds.1 ∈ second.indices := by
        rw [Segment.mem_indices, ← bounds]
        exact ⟨Nat.le_refl _, nonempty⟩
      exact disjoint _ inFirst inSecond

theorem joints_subtree? {segment : Segment} {first : Clause} {rest : List Clause}
    (enabled : enabledAt clauses segment.indices = first :: rest) :
    ∃ tree, segment.subtree? clauses = some (first.effectiveConnector, tree) ∧
      tree.joints = rest.map fun clause =>
        ((segmentOwner? clauses.length segment).map Owner.connector).getD
          clause.effectiveConnector := by
  rw [enabledAt_indices] at enabled
  rw [Segment.subtree?, enabled]
  cases segment with
  | group owner start stop =>
      refine ⟨_, rfl, ?_⟩
      cases rest with
      | nil => rfl
      | cons second rest =>
          have flat := Tree.flat_leaves (first :: second :: rest)
          exact (Tree.joints_combine flat owner.connector).trans
            (Tree.jointsAfter_map_leaf owner.connector (second :: rest))
  | run start stop =>
      obtain ⟨tree, built⟩ : ∃ tree, Tree.fold? ((first :: rest).map fun clause =>
          (clause.effectiveConnector, Tree.leaf clause)) = some tree := ⟨_, rfl⟩
      refine ⟨tree, ?_, ?_⟩
      · change (Tree.ofClauses? _).map _ = _
        rw [Tree.ofClauses?, enabled, built]
        rfl
      · rw [Tree.joints_fold? (Tree.flat_operands _) built, List.flatMap_map]
        simp [Tree.joints, segmentOwner?, Segment.place?, ← List.map_eq_flatMap]

/-- Segments that follow a clause: each begins with the connector of its first enabled clause, and
goes on as its owner says. -/
theorem linksFrom_segments {parts : List Segment} {entry : Owned}
    (owned : ∀ segment ∈ parts, ∀ index ∈ segment.indices,
      ownerOf? held index = segmentOwner? clauses.length segment)
    (apart : parts.Pairwise fun first second =>
      segmentOwner? clauses.length first = none ∨
        segmentOwner? clauses.length first ≠ segmentOwner? clauses.length second)
    (alone : ∀ segment ∈ parts,
      entry.1 = none ∨ entry.1 ≠ segmentOwner? clauses.length segment) :
    linksFrom entry (parts.flatMap fun segment => entriesAt clauses held segment.indices) =
      (parts.filterMap (Segment.subtree? clauses)).flatMap fun item =>
        item.1 :: item.2.joints := by
  induction parts generalizing entry with
  | nil => rfl
  | cons segment rest ih =>
      obtain ⟨separate, tail⟩ := List.pairwise_cons.mp apart
      have later := fun next member => owned next (List.mem_cons_of_mem segment member)
      rw [List.flatMap_cons, entriesAt_of_owner (owned segment List.mem_cons_self)]
      cases enabled : enabledAt clauses segment.indices with
      | nil =>
          rw [List.filterMap_cons_none ((segment.subtree?_eq_none_iff clauses).mpr enabled)]
          exact ih later tail fun next member => alone next (List.mem_cons_of_mem segment member)
      | cons first others =>
          obtain ⟨tree, built, joints⟩ := joints_subtree? enabled
          obtain ⟨last, split⟩ := linksFrom_append entry
            (segmentOwner? clauses.length segment) first others
            (rest.flatMap fun segment => entriesAt clauses held segment.indices)
          rw [split, List.filterMap_cons_some built, List.flatMap_cons, joints,
            link_of_apart (alone segment List.mem_cons_self), linksFrom_map,
            ih later tail separate]
          rfl

theorem links_eq_tail (entries : List Owned) :
    links entries = (linksFrom (none, {}) entries).tail := by
  cases entries <;> rfl

theorem joints_ofGroups? {tree : Tree} (built : Tree.ofGroups? clauses groups = some tree) :
    tree.joints = links (entriesAt clauses (owners clauses.length groups)
      (List.range clauses.length)) := by
  rw [ofGroups?_eq_fold?] at built
  have owned : ∀ segment ∈ segments clauses.length groups, ∀ index ∈ segment.indices,
      ownerOf? (owners clauses.length groups) index = segmentOwner? clauses.length segment :=
    fun segment member index inside => ownerOf?_segment member inside
  have split := linksFrom_segments owned (segments_pairwise clauses.length groups)
    fun segment _ => Or.inl (Eq.refl (none, ({} : Clause)).1)
  rw [← entriesAt_flatMap, segments_indices] at split
  rw [Tree.joints_fold? (Segment.flat_subtrees _ _) built, links_eq_tail, split]

/-- Two enabled clauses with none between them are two neighbouring leaves of the tree, and the
lowest node over both has the connector of their link. -/
theorem lowestOver_neighbours {index : Nat} {first second : Clause}
    (here : clauses[index]? = some first) (next : clauses[index + 1]? = some second)
    (enabled : first.disabled = false) (nextEnabled : second.disabled = false) :
    ∃ tree, Tree.ofGroups? clauses groups = some tree ∧
      tree.leaves[leafNumber clauses index]? = some first ∧
      tree.leaves[leafNumber clauses index + 1]? = some second ∧
      ∀ connector, tree.LowestOver (leafNumber clauses index) connector ↔
        connector = link (ownerOf? (owners clauses.length groups) index, first)
          (ownerOf? (owners clauses.length groups) (index + 1), second) := by
  cases built : Tree.ofGroups? clauses groups with
  | none =>
      have disabled := (ofGroups?_eq_none_iff clauses groups).mp built first
        (List.mem_of_getElem? here)
      simp [enabled] at disabled
  | some tree =>
      obtain ⟨leaves, flat⟩ := Tree.ofGroups?_shape built
      have firstEntry := getElem?_entriesAt (owners clauses.length groups) here enabled
      have secondEntry := getElem?_entriesAt (owners clauses.length groups) next nextEnabled
      rw [leafNumber_succ here enabled] at secondEntry
      have entries := map_snd_entriesAt clauses (owners clauses.length groups)
        (List.range clauses.length)
      rw [enabledAt_range, ← leaves] at entries
      refine ⟨tree, rfl, ?_, ?_, ?_⟩
      · rw [← entries, List.getElem?_map, firstEntry]
        rfl
      · rw [← entries, List.getElem?_map, secondEntry]
        rfl
      · intro connector
        rw [Tree.lowestOver_iff flat, joints_ofGroups? built, getElem?_links firstEntry secondEntry,
          Option.some.injEq]
        exact eq_comm

end Grouping

end SearchFilter
