import SearchFilter.Proofs.Filter.Links
import SearchFilter.Proofs.Filter.NormalForm

/-!
Clauses that are joined by one connector throughout. Whatever groups of that connector are laid over
them, their tree is one node over all of them.
-/

namespace SearchFilter

def bundled {α : Type} (combine : List α → α) : List α → Option α
  | [] => none
  | [only] => some only
  | parts => some (combine parts)

section

variable {α β : Type} {combine : List α → α} {parts : List α}

theorem bundled_of_several (several : 2 ≤ parts.length) :
    bundled combine parts = some (combine parts) := by
  match parts, several with
  | _ :: _ :: _, _ => rfl

theorem map_bundled {other : List β → β} (change : α → β)
    (combined : ∀ parts, change (combine parts) = other (parts.map change)) (parts : List α) :
    (bundled combine parts).map change = bundled other (parts.map change) := by
  match parts with
  | [] => rfl
  | [only] => rfl
  | first :: second :: rest => exact congrArg some (combined _)

end

namespace Tree

variable {connector : Connector} {clauses : List Clause} {children : List Tree} {tree : Tree}

def bundle? (connector : Connector) (clauses : List Clause) : Option Tree :=
  bundled (node connector) (clauses.map leaf)

theorem connector_mem_joints (several : 2 ≤ children.length) :
    connector ∈ (node connector children).joints := by
  match children, several with
  | first :: second :: rest, _ => simp [joints, jointsBetween, jointsAfter]

theorem Flat.joints_subset (flat : (Tree.node connector children).Flat) {child : Tree}
    (member : child ∈ children) : child.joints ⊆ (Tree.node connector children).joints := by
  obtain ⟨before, after, rfl⟩ := List.append_of_mem member
  obtain ⟨front, -, split⟩ := jointsBetween_split connector child after
    fun tree inside => flat.children.2.2 tree (List.mem_append_left _ inside)
  intro joint inside
  rw [Tree.joints, split]
  simp [inside]

theorem map_leaf_leavesOf (alone : ∀ child ∈ children, ∃ clause, child = leaf clause) :
    (leavesOf children).map leaf = children := by
  induction children with
  | nil => rfl
  | cons child rest ih =>
      obtain ⟨clause, rfl⟩ := alone child List.mem_cons_self
      have later := ih fun other member => alone other (List.mem_cons_of_mem _ member)
      rw [leavesOf, leaves, List.singleton_append, List.map_cons, later]

/-- A node below the root would have a joint of another connector than the root has. -/
theorem Flat.eq_bundle? (flat : tree.Flat) (uniform : ∀ joint ∈ tree.joints, joint = connector) :
    bundle? connector tree.leaves = some tree := by
  cases tree with
  | leaf clause => rfl
  | node own children =>
      obtain ⟨several, others, each⟩ := flat.children
      obtain rfl := uniform own (connector_mem_joints several)
      have alone : ∀ child ∈ children, ∃ clause, child = Tree.leaf clause := by
        intro child member
        cases child with
        | leaf clause => exact ⟨clause, rfl⟩
        | node inner parts =>
            have joint : inner ∈ (Tree.node inner parts).joints :=
              connector_mem_joints (each _ member).children.1
            have same := uniform inner (flat.joints_subset member joint)
            exact absurd (congrArg some same) (others _ member)
      rw [leaves, bundle?, map_leaf_leavesOf alone, bundled_of_several several]

end Tree

/-! Trees of clauses with groups. -/

namespace Grouping

variable {connector : Connector} {clauses : List Clause} {groups : List Group}

theorem connector_of_ownersFrom {count : Nat} {taken : List Owner} {owner : Owner}
    (member : owner ∈ ownersFrom count taken groups) :
    ∃ group ∈ groups, group.connector = owner.connector := by
  induction groups generalizing taken with
  | nil => simp [ownersFrom] at member
  | cons group rest ih =>
      rw [ownersFrom] at member
      split at member
      · obtain ⟨source, known, same⟩ := ih member
        exact ⟨source, List.mem_cons_of_mem group known, same⟩
      · rcases List.mem_cons.mp member with rfl | later
        · exact ⟨group, List.mem_cons_self, rfl⟩
        · obtain ⟨source, known, same⟩ := ih later
          exact ⟨source, List.mem_cons_of_mem group known, same⟩

theorem connector_of_owners {count : Nat} (typed : ∀ group ∈ groups, group.connector = connector) :
    ∀ owner ∈ owners count groups, owner.connector = connector := by
  intro owner member
  obtain ⟨group, known, same⟩ := connector_of_ownersFrom member
  rw [← same]
  exact typed group ((List.perm_insertionSort _ groups).mem_iff.mp known)

theorem linksFrom_uniform {first : Owned} {rest : List Owned}
    (owned : ∀ entry ∈ first :: rest, ∀ owner ∈ entry.1, owner.connector = connector)
    (uniform : ∀ entry ∈ rest, entry.2.effectiveConnector = connector) :
    ∀ joint ∈ linksFrom first rest, joint = connector := by
  induction rest generalizing first with
  | nil => simp [linksFrom]
  | cons second rest ih =>
      rw [List.forall_mem_cons] at owned uniform
      rw [linksFrom, List.forall_mem_cons]
      refine ⟨?_, ih owned.2 uniform.2⟩
      rw [link]
      split
      · next owner holds =>
        split
        · exact owned.1 owner holds
        · exact uniform.1
      · exact uniform.1

theorem links_uniform {entries : List Owned}
    (owned : ∀ entry ∈ entries, ∀ owner ∈ entry.1, owner.connector = connector)
    (uniform : ∀ entry ∈ entries.tail, entry.2.effectiveConnector = connector) :
    ∀ joint ∈ links entries, joint = connector := by
  cases entries with
  | nil => simp [links]
  | cons first rest => exact linksFrom_uniform owned uniform

theorem owner_of_entriesAt {held : List Owner} {indices : List Nat} {entry : Owned}
    (member : entry ∈ entriesAt clauses held indices) : ∀ owner ∈ entry.1, owner ∈ held := by
  intro owner holds
  obtain ⟨index, -, found⟩ := List.mem_filterMap.mp (List.mem_filter.mp member).1
  obtain ⟨clause, -, rfl⟩ := Option.map_eq_some_iff.mp found
  exact List.mem_of_find?_eq_some holds

theorem ofGroups?_eq_bundle?
    (uniform : ∀ clause ∈ (clauses.filter fun clause => !clause.disabled).tail,
      clause.effectiveConnector = connector)
    (typed : ∀ group ∈ groups, group.connector = connector) :
    Tree.ofGroups? clauses groups =
      Tree.bundle? connector (clauses.filter fun clause => !clause.disabled) := by
  cases built : Tree.ofGroups? clauses groups with
  | none =>
      have disabled := (ofGroups?_eq_none_iff clauses groups).mp built
      rw [List.filter_eq_nil_iff.mpr (by simpa using disabled)]
      rfl
  | some tree =>
      obtain ⟨leaves, flat⟩ := Tree.ofGroups?_shape built
      rw [← leaves, flat.eq_bundle?]
      rw [joints_ofGroups? built]
      refine links_uniform ?_ ?_
      · intro entry member owner holds
        exact connector_of_owners typed owner (owner_of_entriesAt member owner holds)
      · have clausesOnly := map_snd_entriesAt clauses (owners clauses.length groups)
          (List.range clauses.length)
        rw [enabledAt_range] at clausesOnly
        rw [← clausesOnly, ← List.map_tail] at uniform
        exact List.forall_mem_map.mp uniform

end Grouping

/-! What is said by clauses side by side. -/

def Document.bundle (connector : Connector) (documents : List Json) : Json :=
  (bundled (combined connector) documents).getD matchAll

section

variable {rules : Rules} {connector : Connector}

theorem Tree.combine_map_leaf (connector : Connector) (clauses : List Clause) :
    combine connector (clauses.map leaf) = node connector (clauses.map leaf) := by
  rw [combine, List.flatMap_map]
  simp [spliced, List.map_eq_flatMap]

theorem Tree.canonical?_bundle? {clauses : List Clause}
    (enabled : ∀ clause ∈ clauses, clause.disabled = false) :
    (bundle? connector clauses).bind (canonical? rules) =
      Formula.ofSegment (some connector) (rules.predicates clauses) := by
  match clauses with
  | [] => rfl
  | [only] =>
      rw [bundle?, List.map_singleton, bundled, Option.bind_some,
        ← canonical_group connector enabled, List.isEmpty_nil, if_pos rfl]
  | first :: second :: rest =>
      rw [bundle?, bundled_of_several (by simp), Option.bind_some,
        ← canonical_group connector enabled, List.isEmpty_cons, if_neg Bool.false_ne_true,
        combine_map_leaf]

theorem Formula.gather?_leaves (predicates : List Predicate) :
    gather? connector (predicates.map leaf) =
      bundled (node connector) (predicates.map leaf) := by
  have alone : (predicates.map leaf).flatMap (spliced connector) = predicates.map leaf :=
    flatMap_spliced_of_ne _ (List.forall_mem_map.mpr fun predicate _ => by simp [connector?])
  rw [gather?, alone]
  cases predicates with
  | nil => rfl
  | cons first rest => cases rest <;> rfl

theorem Formula.document_gather?_leaves (compiler : Compiler) (predicates : List Predicate) :
    ((gather? connector (predicates.map leaf)).map (document compiler)).getD Document.matchAll =
      Document.bundle connector
        (predicates.map fun predicate => (compiler.leafQuery predicate).toJson) := by
  rw [gather?_leaves, map_bundled _ (document_node compiler connector), List.map_map]
  rfl

theorem Formula.print_gather?_leaves (predicates : List Predicate) :
    ((gather? connector (predicates.map leaf)).map (print none)).getD "" =
      String.intercalate (between connector) (predicates.map Predicate.phrase) := by
  rw [gather?_leaves]
  match predicates with
  | [] => rfl
  | [only] => exact (String.intercalate_singleton).symm
  | first :: second :: rest =>
      simp [bundled, print, prints_eq_map, between, Function.comp_def]

end

/-- When all enabled clauses behind the first have one connector, and all groups too, the groups
change nothing, valid or not. The tree is one node over the enabled clauses in order, the query
combines the documents of those that are complete, and the text lists their phrases. -/
theorem uniform_clauses_stay_flat (compiler : Compiler) {connector : Connector}
    {clauses : List Clause} {groups : List Group}
    (uniform : ∀ clause ∈ (clauses.filter fun clause => !clause.disabled).tail,
      clause.effectiveConnector = connector)
    (typed : ∀ group ∈ groups, group.connector = connector) :
    let tree := Tree.ofGroups? clauses groups
    let ready := (compiler.rules.predicates clauses).map Prod.snd
    let document := Document.bundle connector
      (ready.map fun predicate => (compiler.leafQuery predicate).toJson)
    tree = Tree.ofClauses? clauses ∧
    tree = Tree.bundle? connector (clauses.filter fun clause => !clause.disabled) ∧
    Query.document (compiler.compile tree) = document ∧ compiler.assembled tree = document ∧
    compiler.rules.preview tree =
      String.intercalate (" " ++ connector.name ++ " ") (ready.map Predicate.phrase) := by
  intro tree ready document
  have grouped : tree = Tree.bundle? connector (clauses.filter fun clause => !clause.disabled) :=
    Grouping.ofGroups?_eq_bundle? uniform typed
  have plain : Tree.ofClauses? clauses =
      Tree.bundle? connector (clauses.filter fun clause => !clause.disabled) := by
    rw [← Tree.ofGroups?_nil]
    exact Grouping.ofGroups?_eq_bundle? uniform (by simp)
  have canonical : tree.bind (Tree.canonical? compiler.rules) =
      Formula.gather? connector (ready.map Formula.leaf) := by
    rw [grouped, Tree.canonical?_bundle? (by simp), Rules.predicates_enabled, Formula.ofSegment,
      List.map_map]
    rfl
  have query : Query.document (compiler.compile tree) = document := by
    rw [compiler.document_eq_formula, canonical, Formula.document_gather?_leaves]
  refine ⟨grouped.trans plain.symm, grouped, query, ?_, ?_⟩
  · rw [compiler.assembled_eq_document, query]
  · rw [compiler.rules.preview_eq_canonical, canonical, Formula.print_gather?_leaves]
    rfl

theorem uniform_clauses_stay_flat_of_overlap :
    let clauses : List Clause :=
      [{ field := "a", operator := "exists", connector := some .and },
        { field := "b", operator := "exists", connector := some .and, disabled := true },
        { field := "c", operator := "exists", connector := some .or },
        { field := "d", connector := some .or },
        { field := "e", operator := "exists", connector := some .or }]
    let groups : List Group :=
      [⟨"gap", .or, [0, 2]⟩, ⟨"first", .or, [1, 0]⟩, ⟨"late", .or, [1, 2]⟩, ⟨"far", .or, [9, 4, 3]⟩]
    ((∀ clause ∈ (clauses.filter fun clause => !clause.disabled).tail,
        clause.effectiveConnector = .or) ∧ ∀ group ∈ groups, group.connector = .or) ∧
      Tree.ofGroups? clauses groups = Tree.ofClauses? clauses ∧
      Rules.preview {} (Tree.ofGroups? clauses groups) =
        "a: exists OR c: exists OR e: exists" := by
  intro clauses groups
  have uniform : ∀ clause ∈ (clauses.filter fun clause => !clause.disabled).tail,
      clause.effectiveConnector = .or := by
    simp [clauses, Clause.effectiveConnector]
  have typed : ∀ group ∈ groups, group.connector = .or := by
    simp [groups]
  obtain ⟨plain, -, -, -, preview⟩ := uniform_clauses_stay_flat {} uniform typed
  exact ⟨⟨uniform, typed⟩, plain, preview.trans (by decide +kernel)⟩

end SearchFilter
