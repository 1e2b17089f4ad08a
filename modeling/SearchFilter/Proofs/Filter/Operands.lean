import SearchFilter.Proofs.Filter.GroupedMeaning
import SearchFilter.Proofs.Filter.Ready

/-!
The canonical form of clauses with groups. Each segment with an enabled clause is an operand of a
left fold: what its complete clauses say, joined by the connector of its first enabled one.
-/

namespace SearchFilter

namespace Formula

def ofSegment (owner : Option Connector) (predicates : List (Connector × Predicate)) :
    Option Formula :=
  match owner with
  | some connector => gather? connector (predicates.map fun item => leaf item.2)
  | none => fold? (predicates.map fun item => (item.1, leaf item.2))

variable {owner : Option Connector} {predicates : List (Connector × Predicate)}

theorem fold?_eq_none_iff {items : List (Connector × Formula)} :
    fold? items = none ↔ items = [] := by
  cases items <;> simp [fold?]

theorem ofSegment_eq_none_iff : ofSegment owner predicates = none ↔ predicates = [] := by
  constructor
  · intro absent
    cases owner with
    | none => exact List.map_eq_nil_iff.mp (fold?_eq_none_iff.mp absent)
    | some connector =>
        have leaves : ∀ part ∈ predicates.map (fun item => leaf item.2), part.Normal :=
          List.forall_mem_map.mpr fun item _ => .leaf item.2
        exact List.map_eq_nil_iff.mp (gather?_eq_none leaves absent)
  · rintro rfl
    cases owner <;> rfl

theorem foldl_join_normal {items : List (Connector × Formula)} {first : Formula}
    (normal : first.Normal) (operands : ∀ item ∈ items, item.2.Normal) :
    (items.foldl (fun formula item => formula.join item.1 item.2) first).Normal := by
  induction items generalizing first with
  | nil => exact normal
  | cons item rest ih =>
      exact ih (normal.join (operands item List.mem_cons_self) item.1)
        fun other member => operands other (List.mem_cons_of_mem item member)

theorem fold?_normal {items : List (Connector × Formula)}
    (operands : ∀ item ∈ items, item.2.Normal) : ∀ formula ∈ fold? items, formula.Normal := by
  intro formula found
  cases items with
  | nil => simp [fold?] at found
  | cons item rest =>
      obtain rfl := Option.some.inj found
      exact foldl_join_normal (operands item List.mem_cons_self)
        fun other member => operands other (List.mem_cons_of_mem item member)

theorem ofSegment_normal : ∀ formula ∈ ofSegment owner predicates, formula.Normal := by
  intro formula found
  cases owner with
  | none =>
      exact fold?_normal (List.forall_mem_map.mpr fun item _ => .leaf item.2) formula found
  | some connector =>
      exact gather?_normal (List.forall_mem_map.mpr fun item _ => .leaf item.2) found

end Formula

namespace Rules

def operand? (rules : Rules) (owner : Option Connector) (clauses : List Clause) :
    Option (Connector × Option Formula) :=
  (clauses.find? fun clause => !clause.disabled).map fun first =>
    (first.effectiveConnector, Formula.ofSegment owner (rules.predicates clauses))

end Rules

def Segment.connector? : Segment → Option Connector
  | .group owner _ _ => some owner.connector
  | .run _ _ => none

section

variable {rules : Rules}

theorem Tree.canonical_leaves {clauses : List Clause}
    (enabled : ∀ clause ∈ clauses, clause.disabled = false) :
    ((clauses.map leaf).flatMap fun tree => (tree.canonical? rules).toList) =
      (rules.predicates clauses).map fun item => .leaf item.2 := by
  rw [List.flatMap_map, Rules.predicates, List.map_filterMap, List.filterMap_eq_flatMap_toList]
  apply List.flatMap_congr
  intro clause member
  rw [canonical?_leaf, enabled clause member]
  cases rules.complete clause <;> rfl

theorem Tree.canonical_group {first : Clause} {rest : List Clause} (connector : Connector)
    (enabled : ∀ clause ∈ first :: rest, clause.disabled = false) :
    (if rest.isEmpty then leaf first
        else combine connector ((first :: rest).map leaf)).canonical? rules =
      Formula.ofSegment (some connector) (rules.predicates (first :: rest)) := by
  rw [Formula.ofSegment, ← canonical_leaves enabled]
  cases rest with
  | nil =>
      rw [List.map_singleton, List.flatMap_singleton, List.isEmpty_nil, if_pos rfl,
        Formula.gather?_toList fun formula found => canonical?_normal found]
  | cons second rest =>
      rw [List.isEmpty_cons, if_neg Bool.false_ne_true, canonical?_combine]

theorem Segment.canonical_subtree? (clauses : List Clause) (segment : Segment) :
    (segment.subtree? clauses).map (fun item => (item.1, item.2.canonical? rules)) =
      rules.operand? segment.connector? (segment.slice clauses) := by
  have enabled : ∀ clause ∈ (segment.slice clauses).filter (fun clause => !clause.disabled),
      clause.disabled = false := by simp
  rw [Rules.operand?, ← List.head?_filter, ← Rules.predicates_enabled, subtree?]
  cases shape : (segment.slice clauses).filter fun clause => !clause.disabled with
  | nil => rfl
  | cons first rest =>
      rw [shape] at enabled
      cases segment with
      | group owner start stop =>
          exact congrArg (fun formula => some (first.effectiveConnector, formula))
            (Tree.canonical_group owner.connector enabled)
      | run start stop =>
          obtain ⟨tree, built⟩ : ∃ tree,
              Tree.ofClauses? ((Segment.run start stop).slice clauses) = some tree := by
            rw [Tree.ofClauses?, shape]
            exact ⟨_, rfl⟩
          have formula : (Tree.ofClauses? ((Segment.run start stop).slice clauses)).bind
              (Tree.canonical? rules) = _ := Tree.canonical?_ofClauses? _
          rw [← Rules.predicates_enabled, shape, built, Option.bind_some] at formula
          rw [built]
          exact congrArg (fun formula => some (first.effectiveConnector, formula)) formula

theorem Tree.canonical?_ofGroups? (clauses : List Clause) (groups : List Group) :
    (ofGroups? clauses groups).bind (canonical? rules) =
      Formula.fold? (Formula.present ((segments clauses.length groups).filterMap fun segment =>
        rules.operand? segment.connector? (segment.slice clauses))) := by
  rw [Grouping.ofGroups?_eq_fold?, canonical?_fold?, List.map_filterMap]
  simp only [Segment.canonical_subtree?]

end

/-! Joined documents keep apart what is in them. -/

namespace Formula

variable {compiler : Compiler} {connector : Connector} {left right operand : Formula}

theorem document_join (compiler : Compiler) (left : Formula) (connector : Connector)
    (right : Formula) :
    (left.join connector right).document compiler =
      Document.combined connector ((left.spliced connector).map (document compiler) ++
        (right.spliced connector).map (document compiler)) := by
  cases connector <;> rw [join, document, documents_eq_map, List.map_append] <;> rfl

theorem combined_inj {first second : List Json}
    (same : Document.combined connector first = Document.combined connector second) :
    first = second := by
  cases connector <;> simpa [Document.combined] using same

theorem spliced_cases (normal : left.Normal) (connector : Connector) :
    left.spliced connector = [left] ∨
      2 ≤ (left.spliced connector).length ∧ left = node connector (left.spliced connector) := by
  cases normal with
  | leaf predicate => exact .inl rfl
  | node own parts several others normals =>
      by_cases same : own = connector
      · subst same
        exact .inr (by simpa [Formula.spliced] using several)
      · exact .inl (if_neg same)

theorem document_eq_of_spliced (leftNormal : left.Normal) (rightNormal : right.Normal)
    (same : (left.spliced connector).map (document compiler) =
      (right.spliced connector).map (document compiler)) :
    left.document compiler = right.document compiler := by
  have lengths := congrArg List.length same
  rw [List.length_map, List.length_map] at lengths
  rcases spliced_cases leftNormal connector with alone | ⟨several, shape⟩
  · rcases spliced_cases rightNormal connector with otherAlone | ⟨otherSeveral, -⟩
    · rw [alone, otherAlone] at same
      exact List.head_eq_of_cons_eq same
    · rw [alone, List.length_singleton] at lengths
      omega
  · rcases spliced_cases rightNormal connector with otherAlone | ⟨-, otherShape⟩
    · rw [otherAlone, List.length_singleton] at lengths
      omega
    · rw [shape, otherShape]
      cases connector <;> rw [document, document, documents_eq_map, documents_eq_map, same]

theorem document_join_inj (leftNormal : left.Normal) (rightNormal : right.Normal)
    (same : (left.join connector operand).document compiler =
      (right.join connector operand).document compiler) :
    left.document compiler = right.document compiler := by
  rw [document_join, document_join] at same
  exact document_eq_of_spliced leftNormal rightNormal
    (List.append_cancel_right (combined_inj same))

theorem document_foldl_join_inj {items : List (Connector × Formula)} (leftNormal : left.Normal)
    (rightNormal : right.Normal) (operands : ∀ item ∈ items, item.2.Normal)
    (same : (items.foldl (fun formula item => formula.join item.1 item.2) left).document compiler =
      (items.foldl (fun formula item => formula.join item.1 item.2) right).document compiler) :
    left.document compiler = right.document compiler := by
  induction items generalizing left right with
  | nil => exact same
  | cons item rest ih =>
      have here := operands item List.mem_cons_self
      exact document_join_inj leftNormal rightNormal
        (ih (leftNormal.join here item.1) (rightNormal.join here item.1)
          (fun other member => operands other (List.mem_cons_of_mem item member)) same)

/-- Two formulas have another document when another connector joins them. -/
theorem document_join_ne {other : Connector} (different : connector ≠ other) :
    (left.join connector right).document compiler ≠
      (left.join other right).document compiler := by
  rw [document_join, document_join]
  cases connector <;> cases other <;> simp [Document.combined] at different ⊢

end Formula

theorem Compiler.document_eq_formula (compiler : Compiler) (tree : Option Tree) :
    Query.document (compiler.compile tree) =
      ((tree.bind (Tree.canonical? compiler.rules)).map (Formula.document compiler)).getD
        Document.matchAll := by
  cases tree with
  | none => rfl
  | some tree => exact compiler.document_eq_canonical tree

end SearchFilter
