import SearchFilter.Filter.Diagnosis
import SearchFilter.Proofs.Filter.Conditions
import SearchFilter.Proofs.Filter.NormalForm

/-!
What compilation reports. Each leaf of a tree is either in the query, as a document of its own, or
among the issues, and both are in the order of the tree.
-/

namespace SearchFilter

/-! Operands of predicates. -/

def Condition.operand : Condition → Operand
  | equals _ value => .scalar value
  | oneOf _ values => .list values
  | .exists _ => .absent
  | range min max => .range min max
  | startsWith text | wildcard text | queryString text => .scalar (.text text)

def Predicate.apart (predicate : Predicate) : Completed :=
  ⟨predicate.field, predicate.condition.operator, predicate.condition.operand, predicate.exact,
    predicate.condition.isNegated⟩

namespace Rules

variable {rules : Rules} {clause : Clause} {field : String} {exact : Bool}

theorem range_eq_map (rules : Rules) (clause : Clause) (field : String) (exact : Bool) :
    rules.range clause field exact =
      (rules.ends clause field exact).map fun (min, max) => .range min max := by
  rw [range, ends]
  cases scalar? exact clause.minValue <;> cases scalar? exact clause.maxValue
  · rfl
  · simp only [bound]
    cases rules.comparison field .upper clause.maxOperator <;> rfl
  · simp only [bound]
    cases rules.comparison field .lower clause.minOperator <;> rfl
  · simp only [bound]
    cases rules.comparison field .lower clause.minOperator <;>
      cases rules.comparison field .upper clause.maxOperator <;> rfl

theorem operand_eq_map (rules : Rules) (clause : Clause) (field : String) (exact : Bool)
    (operator : Operator) :
    (rules.operand clause field exact operator).map (fun operand =>
        (⟨field, operator, operand, exact, operator.isNegated⟩ : Completed)) =
      (rules.condition clause field exact operator).map fun condition =>
        Predicate.apart ⟨field, exact, condition⟩ := by
  cases operator with
  | is | isNot =>
      rw [operand, condition]
      cases scalar? exact clause.value <;> rfl
  | isOneOf | isNotOneOf =>
      rw [operand, condition]
      cases clause.items.filterMap (Scalar.ofJson? exact) <;> rfl
  | present | absent => rfl
  | range =>
      rw [operand, condition, range_eq_map]
      cases rules.ends clause field exact <;> rfl
  | startsWith | wildcard | queryString =>
      rw [operand, condition]
      cases clause.value.bind fun value => Scalar.patternOf? value.json <;> rfl

theorem completed_eq (rules : Rules) (clause : Clause) :
    rules.completed clause = (rules.complete clause).map Predicate.apart := by
  rw [completed, complete]
  by_cases unnamed : Text.trimmed clause.field = ""
  · rw [if_pos unnamed, if_pos unnamed]
    rfl
  rw [if_neg unnamed, if_neg unnamed]
  by_cases blank : Text.allBlank clause.operator = true
  · rw [if_pos blank, if_pos blank]
    rfl
  rw [if_neg blank, if_neg blank]
  cases Operator.read? clause.operator with
  | none => rfl
  | some operator =>
      dsimp only
      rw [operand_eq_map]
      cases rules.condition clause _ _ operator <;> rfl

theorem exists_of_completed {completed : Completed}
    (done : rules.completed clause = .ok completed) :
    ∃ predicate, rules.complete clause = .ok predicate ∧ predicate.apart = completed := by
  rw [completed_eq] at done
  cases known : rules.complete clause with
  | error error =>
      rw [known] at done
      cases done
  | ok predicate =>
      rw [known] at done
      exact ⟨predicate, rfl, Except.ok.inj done⟩

end Rules

def Condition.IsBounded : Condition → Prop
  | range min max => min.isSome ∨ max.isSome
  | _ => True

namespace Rules

variable {rules : Rules} {clause : Clause} {field : String} {exact : Bool}

theorem Makes.isBounded {operator : Operator} {condition : Condition}
    (makes : Makes rules clause field exact operator condition) : condition.IsBounded := by
  cases makes with
  | range read =>
      obtain ⟨_, _, same, bounded, -⟩ := range_eq_ok_iff.mp read
      cases same
      exact bounded
  | equals | oneOf | «exists» | startsWith | wildcard | queryString => trivial

theorem complete_isBounded {predicate : Predicate}
    (found : rules.complete clause = .ok predicate) : predicate.condition.IsBounded := by
  obtain ⟨operator, -, makes⟩ := makes_of_complete found
  exact makes.isBounded

end Rules

theorem foldl_set_ne_nil {bounds held : List Bound} (some : held ≠ [] ∨ bounds ≠ []) :
    bounds.foldl (fun held bound => bound.set held) held ≠ [] := by
  induction bounds generalizing held with
  | nil => simpa using some
  | cons bound rest ih =>
      apply ih
      left
      cases held with
      | nil => simp [Bound.set]
      | cons first others =>
          by_cases same : first.comparison = bound.comparison <;> simp [Bound.set, same]

theorem Compiler.leafDocument?_apart (compiler : Compiler) {predicate : Predicate}
    (bounded : predicate.condition.IsBounded) :
    compiler.leafDocument? predicate.apart = some (compiler.leafQuery predicate).toJson := by
  obtain ⟨field, exact, condition⟩ := predicate
  cases condition with
  | equals negated value => cases negated <;> cases exact <;> cases value <;> rfl
  | oneOf negated values => cases negated <;> rfl
  | «exists» negated => cases negated <;> rfl
  | range min max =>
      have ends : min.toList ++ max.toList ≠ [] := by
        cases min <;> cases max <;> simp [Condition.IsBounded] at bounded ⊢
      have bounds : (min.toList ++ max.toList).foldl (fun held bound => bound.set held) [] ≠ [] :=
        foldl_set_ne_nil (.inr ends)
      rw [leafDocument?, testDocument?]
      dsimp only [Predicate.apart, Condition.operator, Condition.operand]
      rw [if_neg (by simpa using bounds)]
      rfl
  | startsWith text => cases exact <;> rfl
  | wildcard pattern => rfl
  | queryString query => rfl

/-! Issues. -/

def Rules.error? (rules : Rules) (clause : Clause) : Option ClauseError :=
  match rules.complete clause with
  | .error error => some error
  | .ok _ => none

namespace Compiler

variable (compiler : Compiler)

theorem diagnoseAll_eq (trees : List Tree) :
    compiler.diagnoseAll trees = (trees.flatMap fun tree => (compiler.diagnose tree).query.toList,
      trees.flatMap fun tree => (compiler.diagnose tree).issues) := by
  induction trees with
  | nil => rfl
  | cons tree trees ih => rw [diagnoseAll, ih, List.flatMap_cons, List.flatMap_cons]

theorem diagnose_query (tree : Tree) : (compiler.diagnose tree).query = compiler.query? tree := by
  induction tree with
  | leaf clause =>
      rw [diagnose, query?]
      cases compiler.rules.complete clause <;> rfl
  | node connector children ih =>
      rw [diagnose, query?, diagnoseAll_eq, queries_eq_flatMap]
      exact congrArg (Query.gather? connector)
        (List.flatMap_congr fun child member => congrArg Option.toList (ih child member))

theorem diagnose_issues (tree : Tree) :
    (compiler.diagnose tree).issues = tree.leaves.filterMap compiler.rules.error? := by
  induction tree with
  | leaf clause =>
      rw [diagnose, Tree.leaves, List.filterMap_cons, Rules.error?]
      cases compiler.rules.complete clause <;> rfl
  | node connector children ih =>
      rw [diagnose, diagnoseAll_eq, Tree.leaves, Tree.leavesOf_eq_flatMap, List.filterMap_flatMap]
      exact List.flatMap_congr ih

theorem visitedAll_eq {connector : Connector} {children : List Tree}
    (each : ∀ child ∈ children, ∀ issues, compiler.visited issues child =
      (compiler.assembled? child, issues ++ child.leaves.filterMap compiler.rules.error?))
    (documents : List Json) (issues : List ClauseError) :
    compiler.visitedAll connector documents issues children =
      (documents ++ ((compiler.assembledAll children).filter fun document =>
          !Document.isMatchAll document).flatMap (Document.spliced connector),
        issues ++ (Tree.leavesOf children).filterMap compiler.rules.error?) := by
  -- What was gathered from earlier children is a prefix of both lists.
  induction children generalizing documents issues with
  | nil => simp [visitedAll, assembledAll, Tree.leavesOf]
  | cons tree trees ih =>
      have later := ih fun child member => each child (List.mem_cons_of_mem tree member)
      rw [visitedAll, each tree List.mem_cons_self]
      dsimp only
      rw [later, assembledAll, Tree.leavesOf, List.filter_append, List.flatMap_append,
        List.filterMap_append, List.append_assoc, List.append_assoc]
      cases compiler.assembled? tree with
      | none => rfl
      | some document => cases kept : Document.isMatchAll document <;> simp [Option.filter, kept]

theorem visited_eq (issues : List ClauseError) (tree : Tree) :
    compiler.visited issues tree =
      (compiler.assembled? tree, issues ++ tree.leaves.filterMap compiler.rules.error?) := by
  induction tree generalizing issues with
  | leaf clause =>
      rw [visited, assembled?, Tree.leaves, List.filterMap_cons, Rules.completed_eq, Rules.error?]
      cases found : compiler.rules.complete clause with
      | error error => rfl
      | ok predicate =>
          have document := compiler.leafDocument?_apart (Rules.complete_isBounded found)
          simp [Except.map, document]
  | node connector children ih =>
      rw [visited, compiler.visitedAll_eq fun child member issues => ih child member issues,
        assembled?, Document.gather?, Tree.leaves, List.nil_append]
      cases ((compiler.assembledAll children).filter fun document =>
          !Document.isMatchAll document).flatMap (Document.spliced connector) with
      | nil => rfl
      | cons first rest => cases rest <;> rfl

theorem reported_eq (tree : Option Tree) :
    compiler.reported tree =
      (Query.document (compiler.compile tree), (compiler.compileWithIssues tree).issues) := by
  cases tree with
  | none => rfl
  | some tree =>
      rw [reported, visited_eq, List.nil_append, compileWithIssues, diagnose_issues,
        ← assembled_eq_document]
      rfl

end Compiler

/-! Leaf documents. -/

namespace Document

mutual

/-- The documents at the ends of the arrays of combinations, from left to right. What matches
everything is none. -/
def leafDocuments : Json → List Json
  | .object [("bool", .object [("must", .list parts)])] => leafDocumentsOf parts
  | .object [("bool", .object [("minimum_should_match", _), ("should", .list parts)])] =>
    leafDocumentsOf parts
  | document => if isMatchAll document then [] else [document]

def leafDocumentsOf : List Json → List Json
  | [] => []
  | part :: parts => leafDocuments part ++ leafDocumentsOf parts

end

theorem leafDocumentsOf_eq_flatMap (parts : List Json) :
    leafDocumentsOf parts = parts.flatMap leafDocuments := by
  induction parts with
  | nil => rfl
  | cons part parts ih => rw [leafDocumentsOf, ih, List.flatMap_cons]

theorem leafDocuments_combined (connector : Connector) (parts : List Json) :
    leafDocuments (combined connector parts) = parts.flatMap leafDocuments := by
  rw [← leafDocumentsOf_eq_flatMap]
  cases connector <;> rfl

theorem leafDocuments_test (test : FieldQuery) : leafDocuments test.toJson = [test.toJson] := by
  cases test <;> rfl

end Document

theorem Compiler.leafDocuments_leafQuery (compiler : Compiler) (predicate : Predicate) :
    Document.leafDocuments (compiler.leafQuery predicate).toJson =
      [(compiler.leafQuery predicate).toJson] := by
  rw [leafQuery]
  split
  · rfl
  · exact Document.leafDocuments_test _

theorem Formula.leafDocuments_document (compiler : Compiler) (formula : Formula) :
    Document.leafDocuments (formula.document compiler) =
      formula.predicates.map fun predicate => (compiler.leafQuery predicate).toJson := by
  induction formula with
  | leaf predicate => exact compiler.leafDocuments_leafQuery predicate
  | node connector parts ih =>
      rw [document_node, Document.leafDocuments_combined, predicates, predicatesOf_eq_flatMap,
        List.flatMap_map, List.map_flatMap]
      exact List.flatMap_congr ih

/-! The partition. -/

/-- What a leaf yields: the error for which it is left out, or its document. -/
def Compiler.Yields (compiler : Compiler) (clause : Clause) : ClauseError ⊕ Json → Prop
  | .inl error => compiler.rules.completed clause = .error error
  | .inr document => ∃ completed, compiler.rules.completed clause = .ok completed ∧
      compiler.leafDocument? completed = some document

def Compiler.outcome (compiler : Compiler) (clause : Clause) : ClauseError ⊕ Json :=
  match compiler.rules.complete clause with
  | .error error => .inl error
  | .ok predicate => .inr (compiler.leafQuery predicate).toJson

section

variable (compiler : Compiler)

theorem Compiler.yields_outcome (clause : Clause) :
    compiler.Yields clause (compiler.outcome clause) := by
  rw [outcome]
  cases found : compiler.rules.complete clause with
  | error error => exact (Rules.completed_eq _ _).trans (congrArg _ found)
  | ok predicate =>
      exact ⟨predicate.apart, (Rules.completed_eq _ _).trans (congrArg _ found),
        compiler.leafDocument?_apart (Rules.complete_isBounded found)⟩

theorem Compiler.leafDocuments_compile (tree : Tree) :
    Document.leafDocuments (Query.document (compiler.compile (some tree))) =
      (tree.leaves.map compiler.outcome).filterMap Sum.getRight? := by
  have leaves := tree.predicates_canonical? compiler.rules
  have documents : Document.leafDocuments (Query.document (compiler.compile (some tree))) =
      ((tree.canonical? compiler.rules).toList.flatMap Formula.predicates).map
        fun predicate => (compiler.leafQuery predicate).toJson := by
    rw [compiler.document_eq_canonical]
    cases tree.canonical? compiler.rules with
    | none => rfl
    | some formula =>
        rw [Option.toList_some, List.flatMap_singleton]
        exact formula.leafDocuments_document compiler
  rw [documents, leaves, List.map_filterMap, List.filterMap_map]
  apply List.filterMap_congr
  intro clause _
  rw [Function.comp_apply, outcome]
  cases compiler.rules.complete clause <;> rfl

theorem Compiler.issues_compile (tree : Tree) :
    (compiler.diagnose tree).issues =
      (tree.leaves.map compiler.outcome).filterMap Sum.getLeft? := by
  rw [diagnose_issues, List.filterMap_map]
  apply List.filterMap_congr
  intro clause _
  rw [Function.comp_apply, outcome, Rules.error?]
  cases compiler.rules.complete clause <;> rfl

theorem length_lefts_add_rights (outcomes : List (ClauseError ⊕ Json)) :
    (outcomes.filterMap Sum.getLeft?).length + (outcomes.filterMap Sum.getRight?).length =
      outcomes.length := by
  induction outcomes with
  | nil => rfl
  | cons outcome rest ih =>
      rw [List.filterMap_cons, List.filterMap_cons, List.length_cons, ← ih]
      cases outcome with
      | inl error => exact Nat.succ_add _ _
      | inr document => rfl

theorem Compiler.compileWithIssues_query (tree : Option Tree) :
    (compiler.compileWithIssues tree).query = compiler.compile tree := by
  cases tree with
  | none => rfl
  | some tree => exact compiler.diagnose_query tree

/-- Each leaf yields an issue or a document, and just one of them. The issues are those that leaves
yield, in the order of the tree, and so are the documents in the query. The query with issues is the
one without, and one pass over the tree gives both. -/
theorem leaves_are_issues_or_documents (tree : Option Tree) :
    let leaves := (tree.map Tree.leaves).getD []
    let compilation := compiler.compileWithIssues tree
    let document := Query.document compilation.query
    (∃ outcomes, List.Forall₂ compiler.Yields leaves outcomes ∧
      compilation.issues = outcomes.filterMap Sum.getLeft? ∧
      Document.leafDocuments document = outcomes.filterMap Sum.getRight?) ∧
    compilation.issues.length + (Document.leafDocuments document).length = leaves.length ∧
    (∀ clause completed, compiler.rules.completed clause = .ok completed →
      ∃ document, compiler.leafDocument? completed = some document) ∧
    Query.searchDocument compilation.query = Query.searchDocument (compiler.compile tree) ∧
    compiler.reported tree = (document, compilation.issues) := by
  intro leaves compilation document
  have query : compilation.query = compiler.compile tree := compiler.compileWithIssues_query tree
  have parts : compilation.issues = (leaves.map compiler.outcome).filterMap Sum.getLeft? ∧
      Document.leafDocuments document = (leaves.map compiler.outcome).filterMap Sum.getRight? := by
    change _ ∧ Document.leafDocuments (Query.document compilation.query) = _
    rw [query]
    cases tree with
    | none => exact ⟨rfl, rfl⟩
    | some tree => exact ⟨compiler.issues_compile tree, compiler.leafDocuments_compile tree⟩
  refine ⟨⟨leaves.map compiler.outcome, ?_, parts⟩, ?_, ?_, congrArg Query.searchDocument query, ?_⟩
  · exact List.forall₂_map_right_iff.mpr
      (List.forall₂_same.mpr fun clause _ => compiler.yields_outcome clause)
  · rw [parts.1, parts.2, length_lefts_add_rights, List.length_map]
  · intro clause completed found
    rw [Rules.completed_eq] at found
    cases given : compiler.rules.complete clause with
    | error error => rw [given] at found; exact absurd found (by simp [Except.map])
    | ok predicate =>
        rw [given] at found
        obtain rfl := Except.ok.inj found
        exact ⟨_, compiler.leafDocument?_apart (Rules.complete_isBounded given)⟩
  · rw [compiler.reported_eq, ← query]

end

end SearchFilter
