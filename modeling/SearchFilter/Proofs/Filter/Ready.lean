import SearchFilter.Proofs.Filter.Canonical

/-!
The canonical form of a left fold. An operand of which nothing is complete leaves the fold as it is,
wherever it stands and whatever its connector is, so a query is the fold of the clauses that are
enabled and complete.
-/

namespace SearchFilter

namespace Formula

def extended? (before : Option Formula) (item : Connector × Option Formula) : Option Formula :=
  gather? item.1 (before.toList ++ item.2.toList)

def join (left : Formula) (connector : Connector) (right : Formula) : Formula :=
  node connector (left.spliced connector ++ right.spliced connector)

def fold? : List (Connector × Formula) → Option Formula
  | [] => none
  | (_, first) :: rest =>
    some (rest.foldl (fun formula item => formula.join item.1 item.2) first)

variable {before operand : Option Formula} {connector : Connector}

theorem gather?_toList (normal : ∀ formula ∈ operand, formula.Normal) :
    gather? connector operand.toList = operand := by
  cases operand with
  | none => rfl
  | some formula => exact gather?_singleton (normal formula rfl)

theorem extended?_absent (normal : ∀ formula ∈ before, formula.Normal) :
    extended? before (connector, none) = before := by
  rw [extended?, Option.toList_none, List.append_nil, gather?_toList normal]

theorem extended?_first (normal : ∀ formula ∈ operand, formula.Normal) :
    extended? none (connector, operand) = operand := by
  rw [extended?, Option.toList_none, List.nil_append, gather?_toList normal]

theorem extended?_some {left right : Formula} (leftNormal : left.Normal)
    (rightNormal : right.Normal) :
    extended? (some left) (connector, some right) = some (left.join connector right) := by
  have several : gather? connector [left, right] =
      some (node connector ([left, right].flatMap (Formula.spliced connector))) :=
    gather?_of_several (by simp [leftNormal, rightNormal])
  rw [List.flatMap_cons, List.flatMap_singleton] at several
  exact several

theorem extended?_normal (normal : ∀ formula ∈ before, formula.Normal)
    (operandNormal : ∀ formula ∈ operand, formula.Normal) :
    ∀ formula ∈ extended? before (connector, operand), formula.Normal := by
  intro formula found
  refine gather?_normal ?_ found
  intro part member
  rcases List.mem_append.mp member with old | new
  · exact normal part (Option.mem_toList.mp old)
  · exact operandNormal part (Option.mem_toList.mp new)

theorem Normal.join {left right : Formula} (leftNormal : left.Normal) (rightNormal : right.Normal)
    (connector : Connector) : (left.join connector right).Normal := by
  have joined : extended? (some left) (connector, some right) = some (left.join connector right) :=
    extended?_some leftNormal rightNormal
  exact extended?_normal (by simp [leftNormal]) (by simp [rightNormal]) _ joined

def present (items : List (Connector × Option Formula)) : List (Connector × Formula) :=
  items.filterMap fun item => item.2.map fun formula => (item.1, formula)

theorem present_absent (connector : Connector) (rest : List (Connector × Option Formula)) :
    present ((connector, none) :: rest) = present rest := rfl

theorem present_some (connector : Connector) (formula : Formula)
    (rest : List (Connector × Option Formula)) :
    present ((connector, some formula) :: rest) = (connector, formula) :: present rest := rfl

theorem present_append (first second : List (Connector × Option Formula)) :
    present (first ++ second) = present first ++ present second :=
  List.filterMap_append

theorem foldl_extended?_some {items : List (Connector × Option Formula)} {first : Formula}
    (normal : first.Normal) (operands : ∀ item ∈ items, ∀ formula ∈ item.2, formula.Normal) :
    items.foldl extended? (some first) =
      some ((present items).foldl (fun formula item => formula.join item.1 item.2) first) := by
  induction items generalizing first with
  | nil => rfl
  | cons item rest ih =>
      obtain ⟨connector, operand⟩ := item
      have here := operands _ List.mem_cons_self
      have later := fun other member => operands other (List.mem_cons_of_mem _ member)
      rw [List.foldl_cons]
      cases operand with
      | none => rw [extended?_absent (by simp [normal]), ih normal later, present_absent]
      | some formula =>
          have added := here formula rfl
          rw [extended?_some normal added, ih (normal.join added connector) later, present_some,
            List.foldl_cons]

theorem foldl_extended? {items : List (Connector × Option Formula)}
    (operands : ∀ item ∈ items, ∀ formula ∈ item.2, formula.Normal) :
    items.foldl extended? none = fold? (present items) := by
  induction items with
  | nil => rfl
  | cons item rest ih =>
      obtain ⟨connector, operand⟩ := item
      have here := operands _ List.mem_cons_self
      have later := fun other member => operands other (List.mem_cons_of_mem _ member)
      rw [List.foldl_cons, extended?_first here]
      cases operand with
      | none => rw [ih later, present_absent]
      | some formula => rw [foldl_extended?_some (here formula rfl) later, present_some, fold?]

end Formula

namespace Tree

variable {rules : Rules}

theorem flatMap_spliced_canonical (connector : Connector) (tree : Tree) :
    ((tree.spliced connector).flatMap fun child => (child.canonical? rules).toList).flatMap
        (Formula.spliced connector) =
      (tree.canonical? rules).toList.flatMap (Formula.spliced connector) := by
  cases tree with
  | leaf clause => rw [spliced, List.flatMap_singleton]
  | node own children =>
      by_cases same : own = connector
      · rw [spliced, if_pos same, ← normals_readies, toList_canonical?, ready?, same]
        exact (Formula.flatMap_spliced_normals_node connector (readies rules children)).symm
      · rw [spliced, if_neg same, List.flatMap_singleton]

theorem canonical?_combine (connector : Connector) (trees : List Tree) :
    (combine connector trees).canonical? rules =
      Formula.gather? connector (trees.flatMap fun tree => (tree.canonical? rules).toList) := by
  have parts : ((trees.flatMap (spliced connector)).flatMap fun child =>
        (child.canonical? rules).toList).flatMap (Formula.spliced connector) =
      (trees.flatMap fun tree => (tree.canonical? rules).toList).flatMap
        (Formula.spliced connector) := by
    rw [List.flatMap_assoc, List.flatMap_assoc, List.flatMap_assoc]
    apply List.flatMap_congr
    intro tree _
    rw [← List.flatMap_assoc]
    exact flatMap_spliced_canonical connector tree
  rw [combine, canonical?_node, Formula.gather?, Formula.gather?, parts]

theorem canonical?_join (left : Tree) (connector : Connector) (right : Tree) :
    (left.join connector right).canonical? rules =
      Formula.extended? (left.canonical? rules) (connector, right.canonical? rules) := by
  rw [join, canonical?_combine, List.flatMap_cons, List.flatMap_singleton]
  rfl

theorem canonical?_foldl (first : Tree) (rest : List (Connector × Tree)) :
    (rest.foldl (fun tree item => tree.join item.1 item.2) first).canonical? rules =
      (rest.map fun item => (item.1, item.2.canonical? rules)).foldl Formula.extended?
        (first.canonical? rules) := by
  induction rest generalizing first with
  | nil => rfl
  | cons item rest ih => rw [List.foldl_cons, ih, canonical?_join, List.map_cons, List.foldl_cons]

theorem canonical?_fold? (items : List (Connector × Tree)) :
    (fold? items).bind (canonical? rules) =
      Formula.fold?
        (Formula.present (items.map fun item => (item.1, item.2.canonical? rules))) := by
  have normal : ∀ item ∈ items.map fun item => (item.1, item.2.canonical? rules),
      ∀ formula ∈ item.2, formula.Normal :=
    List.forall_mem_map.mpr fun item _ formula found => canonical?_normal found
  rw [← Formula.foldl_extended? normal]
  cases items with
  | nil => rfl
  | cons first rest =>
      rw [fold?, Option.bind_some, canonical?_foldl, List.map_cons, List.foldl_cons,
        Formula.extended?_first fun formula found => canonical?_normal found]

end Tree

/-! Clauses without groups. -/

namespace Rules

def predicates (rules : Rules) (clauses : List Clause) : List (Connector × Predicate) :=
  clauses.filterMap fun clause =>
    if clause.disabled then none
    else (rules.complete clause).toOption.map fun predicate =>
      (clause.effectiveConnector, predicate)

def ready (rules : Rules) (clauses : List Clause) : List Clause :=
  clauses.filter fun clause => !clause.disabled && (rules.complete clause).isOk

variable {rules : Rules}

theorem predicates_append (first second : List Clause) :
    rules.predicates (first ++ second) = rules.predicates first ++ rules.predicates second :=
  List.filterMap_append

theorem predicates_ready (clauses : List Clause) :
    rules.predicates (rules.ready clauses) = rules.predicates clauses := by
  rw [predicates, ready, List.filterMap_filter]
  apply List.filterMap_congr
  intro clause _
  cases clause.disabled <;> cases rules.complete clause <;> rfl

theorem predicates_enabled (clauses : List Clause) :
    rules.predicates (clauses.filter fun clause => !clause.disabled) =
      rules.predicates clauses := by
  rw [predicates, List.filterMap_filter]
  apply List.filterMap_congr
  intro clause _
  cases clause.disabled <;> rfl

end Rules

namespace Tree

variable {rules : Rules}

theorem canonical?_leaf (clause : Clause) :
    (leaf clause).canonical? rules = (rules.complete clause).toOption.map Formula.leaf := by
  rw [canonical?, ready?]
  cases rules.complete clause <;> rfl

theorem present_leaves {clauses : List Clause}
    (enabled : ∀ clause ∈ clauses, clause.disabled = false) :
    Formula.present (clauses.map fun clause =>
        (clause.effectiveConnector, (leaf clause).canonical? rules)) =
      (rules.predicates clauses).map fun item => (item.1, .leaf item.2) := by
  rw [Formula.present, List.filterMap_map, Rules.predicates, List.map_filterMap]
  apply List.filterMap_congr
  intro clause member
  rw [Function.comp_apply, canonical?_leaf, enabled clause member]
  cases rules.complete clause <;> rfl

theorem canonical?_ofClauses? (clauses : List Clause) :
    (ofClauses? clauses).bind (canonical? rules) =
      Formula.fold? ((rules.predicates clauses).map fun item => (item.1, .leaf item.2)) := by
  rw [ofClauses?, canonical?_fold?, List.map_map, ← Rules.predicates_enabled,
    ← present_leaves (by simp)]
  rfl

end Tree

namespace Query

def join (left : Query) (connector : Connector) (right : Query) : Query :=
  match connector with
  | .and => all (left.spliced .and ++ right.spliced .and)
  | .or => any (left.spliced .or ++ right.spliced .or)

def fold? : List (Connector × Query) → Option Query
  | [] => none
  | (_, first) :: rest => some (rest.foldl (fun query item => query.join item.1 item.2) first)

end Query

theorem Formula.query_join (compiler : Compiler) (left : Formula) (connector : Connector)
    (right : Formula) :
    (left.join connector right).query compiler =
      (left.query compiler).join connector (right.query compiler) := by
  cases connector <;>
    rw [join, Query.join, query, queries_eq_map, List.map_append, spliced_query, spliced_query]

theorem Formula.query_fold? (compiler : Compiler) (items : List (Connector × Formula)) :
    (fold? items).map (query compiler) =
      Query.fold? (items.map fun item => (item.1, item.2.query compiler)) := by
  cases items with
  | nil => rfl
  | cons item rest =>
      obtain ⟨connector, first⟩ := item
      rw [fold?, Option.map_some, List.map_cons, Query.fold?]
      refine congrArg some ?_
      induction rest generalizing first with
      | nil => rfl
      | cons next rest ih =>
          rw [List.foldl_cons, ih, query_join, List.map_cons, List.foldl_cons]

section

variable (compiler : Compiler)

theorem Compiler.compile_eq_canonical (tree : Option Tree) :
    compiler.compile tree =
      (tree.bind (Tree.canonical? compiler.rules)).map (Formula.query compiler) := by
  cases tree with
  | none => rfl
  | some tree => exact compiler.query?_eq_canonical tree

theorem Rules.preview_eq_canonical (rules : Rules) (tree : Option Tree) :
    rules.preview tree =
      ((tree.bind (Tree.canonical? rules)).map (Formula.print none)).getD "" := by
  cases tree with
  | none => rfl
  | some tree => exact congrArg (Option.getD · "") (rules.render?_eq_canonical tree none)

/-- Query and text of clauses without groups are those of the clauses that are enabled and
complete. The query is the left fold of these, each joined by its own connector. -/
theorem ready_clauses_alone (clauses : List Clause) :
    let rules := compiler.rules
    let all := Tree.ofClauses? clauses
    let ready := Tree.ofClauses? (rules.ready clauses)
    compiler.compile all = compiler.compile ready ∧ rules.preview all = rules.preview ready ∧
      compiler.compile all = Query.fold? ((rules.predicates clauses).map fun item =>
        (item.1, compiler.leafQuery item.2)) := by
  intro rules all ready
  have same : all.bind (Tree.canonical? rules) = ready.bind (Tree.canonical? rules) := by
    rw [Tree.canonical?_ofClauses?, Tree.canonical?_ofClauses?, Rules.predicates_ready]
  refine ⟨?_, ?_, ?_⟩
  · rw [compiler.compile_eq_canonical, compiler.compile_eq_canonical, same]
  · rw [rules.preview_eq_canonical, rules.preview_eq_canonical, same]
  · rw [compiler.compile_eq_canonical, Tree.canonical?_ofClauses?, Formula.query_fold?,
      List.map_map]
    rfl

end

end SearchFilter
