import SearchFilter.Proofs.Filter.Operands

/-!
The normal form of query documents, read from their keys. What a field or a value is called does not
matter: the document of a test has no key of a combination where one would be looked for.
-/

namespace SearchFilter

/-! The predicates of a tree stay in their order. -/

namespace Formula

mutual

def predicates : Formula → List Predicate
  | leaf predicate => [predicate]
  | node _ parts => predicatesOf parts

def predicatesOf : List Formula → List Predicate
  | [] => []
  | part :: parts => part.predicates ++ predicatesOf parts

end

theorem predicatesOf_eq_flatMap (parts : List Formula) :
    predicatesOf parts = parts.flatMap predicates := by
  induction parts with
  | nil => rfl
  | cons part parts ih => rw [predicatesOf, ih, List.flatMap_cons]

theorem predicates_spliced (connector : Connector) (formula : Formula) :
    (formula.spliced connector).flatMap predicates = formula.predicates := by
  cases formula with
  | leaf predicate => rfl
  | node own parts =>
      by_cases same : own = connector
      · rw [spliced, if_pos same, predicates, predicatesOf_eq_flatMap]
      · rw [spliced, if_neg same, List.flatMap_singleton]

theorem predicates_gather? (connector : Connector) (parts : List Formula) :
    (gather? connector parts).toList.flatMap predicates = parts.flatMap predicates := by
  have kept : (parts.flatMap (spliced connector)).flatMap predicates =
      parts.flatMap predicates := by
    rw [List.flatMap_assoc]
    exact List.flatMap_congr fun part _ => predicates_spliced connector part
  rw [gather?, ← kept]
  cases parts.flatMap (spliced connector) with
  | nil => rfl
  | cons first rest =>
      cases rest with
      | nil => rfl
      | cons second rest =>
          simp only [Option.toList_some, List.flatMap_singleton, predicates,
            predicatesOf_eq_flatMap]

theorem Normal.predicates_ne_nil {formula : Formula} (normal : formula.Normal) :
    formula.predicates ≠ [] := by
  induction normal with
  | leaf predicate => simp [predicates]
  | node connector parts several _ _ ih =>
      obtain ⟨first, rest, rfl⟩ := List.exists_cons_of_length_pos (by omega : 0 < parts.length)
      rw [predicates, predicatesOf]
      exact List.append_ne_nil_of_left_ne_nil (ih first List.mem_cons_self) _

end Formula

namespace Tree

theorem leavesOf_eq_flatMap (trees : List Tree) : leavesOf trees = trees.flatMap leaves := by
  induction trees with
  | nil => rfl
  | cons tree trees ih => rw [leavesOf, ih, List.flatMap_cons]

theorem predicates_canonical? (rules : Rules) (tree : Tree) :
    (tree.canonical? rules).toList.flatMap Formula.predicates =
      tree.leaves.filterMap fun clause => (rules.complete clause).toOption := by
  induction tree with
  | leaf clause =>
      rw [canonical?_leaf, leaves, List.filterMap_cons]
      cases rules.complete clause <;> rfl
  | node connector children ih =>
      rw [canonical?_node, Formula.predicates_gather?, List.flatMap_assoc, leaves,
        leavesOf_eq_flatMap, List.filterMap_flatMap]
      exact List.flatMap_congr ih

theorem toOption_complete_eq_some_iff {rules : Rules} {clause : Clause} {predicate : Predicate} :
    (rules.complete clause).toOption = some predicate ↔
      rules.complete clause = .ok predicate := by
  cases rules.complete clause <;> simp [Except.toOption]

theorem complete_of_mem {rules : Rules} {tree : Tree} {formula : Formula}
    (found : tree.canonical? rules = some formula) {predicate : Predicate}
    (member : predicate ∈ formula.predicates) :
    ∃ clause ∈ tree.leaves, rules.complete clause = .ok predicate := by
  have leaves := tree.predicates_canonical? rules
  rw [found, Option.toList_some, List.flatMap_singleton] at leaves
  rw [leaves] at member
  obtain ⟨clause, known, complete⟩ := List.mem_filterMap.mp member
  exact ⟨clause, known, toOption_complete_eq_some_iff.mp complete⟩

theorem canonical?_eq_none_iff {rules : Rules} {tree : Tree} :
    tree.canonical? rules = none ↔
      ∀ clause ∈ tree.leaves, (rules.complete clause).isOk = false := by
  have leaves := tree.predicates_canonical? rules
  have unready (clause : Clause) :
      (rules.complete clause).toOption = none ↔ (rules.complete clause).isOk = false := by
    cases rules.complete clause <;> simp [Except.toOption, Except.isOk, Except.toBool]
  simp only [← unready, ← List.filterMap_eq_nil_iff, ← leaves]
  cases found : tree.canonical? rules with
  | none => simp
  | some formula => simpa using (canonical?_normal found).predicates_ne_nil

end Tree

/-! Documents by their keys. -/

namespace Document

def bodyOf? (document : Json) : Option (List (String × Json)) :=
  (fields? document).bind fun outer => (outer.lookup "bool").bind fields?

def under? (key : String) (document : Json) : Option Json :=
  (bodyOf? document).bind fun body => body.lookup key

def entries (document : Json) : List Json :=
  ((bodyOf? document).getD []).flatMap fun field => field.2.list?.getD []

inductive Part (document : Json) : Json → Prop
  | whole : Part document document
  | entry {outer part} : Part document outer → part ∈ entries outer → Part document part

def key : Connector → String
  | .and => "must"
  | .or => "should"

theorem bodyOf?_test (test : FieldQuery) : bodyOf? test.toJson = none := by
  obtain ⟨body, shape⟩ := test.toJson_eq_object
  have other : ("bool" == test.kind) = false := beq_false_of_ne (Ne.symm test.kind_ne_bool)
  simp [shape, bodyOf?, fields?, List.lookup_cons, other]

theorem entries_test (test : FieldQuery) : entries test.toJson = [] := by
  rw [entries, bodyOf?_test]
  rfl

theorem under?_test (name : String) (test : FieldQuery) : under? name test.toJson = none := by
  rw [under?, bodyOf?_test]
  rfl

theorem entries_combined (connector : Connector) (parts : List Json) :
    entries (combined connector parts) = parts := by
  cases connector <;> exact List.append_nil parts

theorem under?_combined (connector : Connector) (parts : List Json) :
    under? (key connector) (combined connector parts) = some (.list parts) := by
  cases connector <;> rfl

theorem under?_combined_ne {own other : Connector} (different : own ≠ other) (parts : List Json) :
    under? (key other) (combined own parts) = none := by
  cases own <;> cases other <;> first | rfl | exact absurd rfl different

end Document

namespace Formula

variable {compiler : Compiler} {formula : Formula}

theorem document_leaf_cases (compiler : Compiler) (predicate : Predicate) :
    (leaf predicate).document compiler = (compiler.fieldQuery predicate).toJson ∨
      (leaf predicate).document compiler =
        Document.negation (compiler.fieldQuery predicate).toJson := by
  rw [document, Compiler.leafQuery]
  split
  · exact .inr rfl
  · exact .inl rfl

theorem document_node (compiler : Compiler) (connector : Connector) (parts : List Formula) :
    (node connector parts).document compiler =
      Document.combined connector (parts.map (document compiler)) := by
  cases connector <;> rw [document, documents_eq_map] <;> rfl

theorem mem_predicates_node {connector : Connector} {parts : List Formula} {part : Formula}
    {predicate : Predicate} (member : part ∈ parts) (inside : predicate ∈ part.predicates) :
    predicate ∈ (node connector parts).predicates := by
  rw [predicates, predicatesOf_eq_flatMap]
  exact List.mem_flatMap.mpr ⟨part, member, inside⟩

theorem part_cases (normal : formula.Normal) {part : Json}
    (inside : Document.Part (formula.document compiler) part) :
    (∃ inner : Formula, inner.Normal ∧ inner.predicates ⊆ formula.predicates ∧
        part = inner.document compiler) ∨
      ∃ predicate ∈ formula.predicates, part = (compiler.fieldQuery predicate).toJson := by
  induction inside with
  | whole => exact .inl ⟨formula, normal, fun _ member => member, rfl⟩
  | entry outer member ih =>
      rcases ih with ⟨inner, innerNormal, fewer, rfl⟩ | ⟨predicate, known, rfl⟩
      · cases innerNormal with
        | leaf predicate =>
            rcases document_leaf_cases compiler predicate with test | negated
            · rw [test, Document.entries_test] at member
              exact absurd member List.not_mem_nil
            · rw [negated] at member
              obtain rfl := List.mem_singleton.mp member
              exact .inr ⟨predicate, fewer List.mem_cons_self, rfl⟩
        | node connector parts several others normals =>
            rw [document_node, Document.entries_combined] at member
            obtain ⟨next, nextMember, rfl⟩ := List.mem_map.mp member
            exact .inl ⟨next, normals next nextMember,
              fun predicate known => fewer (mem_predicates_node nextMember known), rfl⟩
      -- What is negated is a test, and no document stands in a test.
      · rw [Document.entries_test] at member
        exact absurd member List.not_mem_nil

theorem under?_document {connector : Connector} (other : formula.connector? ≠ some connector) :
    Document.under? (Document.key connector) (formula.document compiler) = none := by
  cases formula with
  | leaf predicate =>
      rcases document_leaf_cases compiler predicate with test | negated
      · rw [test, Document.under?_test]
      · rw [negated]
        cases connector <;> rfl
  | node own parts =>
      rw [document_node]
      exact Document.under?_combined_ne (fun same => other (congrArg some same)) _

end Formula

/-! The normal form. -/

def Compiler.IsTest (compiler : Compiler) (clauses : List Clause) (document : Json) : Prop :=
  ∃ clause ∈ clauses, ∃ predicate, compiler.rules.complete clause = .ok predicate ∧
    document = (compiler.fieldQuery predicate).toJson

namespace Document

/-- What the keys of a part say in a document in normal form, in which only some documents are
tests. -/
structure NormalPart (isTest : Json → Prop) (document part : Json) : Prop where
  matchAll : isMatchAll part = true → part = document
  several : ∀ connector held, under? (key connector) part = some held →
    ∃ parts, held = .list parts ∧ 2 ≤ parts.length ∧
      ∀ entry ∈ parts, under? (key connector) entry = none
  minimum : ∀ held, under? "should" part = some held →
    under? "minimum_should_match" part = some (Json.nat 1)
  negated : ∀ held, under? "must_not" part = some held →
    ∃ test, isTest test ∧ held = .list [test]
  shape : isMatchAll part = true ∨ (isTest part ∧ bodyOf? part = none) ∨
    ∃ body, part = .object [("bool", .object body)] ∧
      body.map Prod.fst ∈ [["must"], ["minimum_should_match", "should"], ["must_not"]]

variable {isTest : Json → Prop} {document part : Json}

theorem Part.eq_matchAll (inside : Part Document.matchAll part) : part = Document.matchAll := by
  induction inside with
  | whole => rfl
  | entry outer member same =>
      rw [same] at member
      exact absurd member List.not_mem_nil

theorem NormalPart.of_no_body (closed : bodyOf? part = none)
    (whole : isMatchAll part = true → part = document)
    (kind : isMatchAll part = true ∨ isTest part) : NormalPart isTest document part := by
  have under (name : String) : under? name part = none := by rw [under?, closed, Option.bind_none]
  refine ⟨whole, ?_, ?_, ?_, kind.imp_right fun test => .inl ⟨test, closed⟩⟩
  · intro connector held found
    exact absurd found (by simp [under])
  · intro held found
    exact absurd found (by simp [under])
  · intro held found
    exact absurd found (by simp [under])

theorem NormalPart.combined {connector : Connector} {parts : List Json} (several : 2 ≤ parts.length)
    (others : ∀ entry ∈ parts, under? (key connector) entry = none) :
    NormalPart isTest document (combined connector parts) where
  matchAll := by cases connector <;> exact fun all => Bool.noConfusion all
  several := by
    intro other held found
    by_cases same : connector = other
    · subst same
      rw [under?_combined] at found
      exact ⟨parts, (Option.some.inj found).symm, several, others⟩
    · rw [under?_combined_ne same] at found
      exact absurd found (Option.some_ne_none held).symm
  minimum := by
    intro held found
    cases connector with
    | and => exact absurd found (Option.some_ne_none held).symm
    | or => rfl
  negated := by
    intro held found
    cases connector <;> exact absurd found (Option.some_ne_none held).symm
  shape := by cases connector <;> exact .inr (.inr ⟨_, rfl, by simp⟩)

theorem NormalPart.negation {test : Json} (known : isTest test) :
    NormalPart isTest document (negation test) where
  matchAll := fun all => Bool.noConfusion all
  several := by rintro (_ | _) held found <;> exact absurd found (Option.some_ne_none held).symm
  minimum := fun held found => absurd found (Option.some_ne_none held).symm
  negated := fun held found => ⟨test, known, (Option.some.inj found).symm⟩
  shape := .inr (.inr ⟨_, rfl, by simp⟩)

end Document

section

variable (compiler : Compiler) (tree : Option Tree)

theorem Compiler.document_eq_matchAll_iff :
    Query.document (compiler.compile tree) = Document.matchAll ↔
      ∀ clause ∈ (tree.map Tree.leaves).getD [], (compiler.rules.complete clause).isOk = false := by
  cases tree with
  | none => exact ⟨fun _ _ absent => absurd absent List.not_mem_nil, fun _ => rfl⟩
  | some tree =>
      rw [compiler.document_eq_canonical, Option.map_some, Option.getD_some,
        ← Tree.canonical?_eq_none_iff]
      cases tree.canonical? compiler.rules with
      | none => exact ⟨fun _ => rfl, fun _ => rfl⟩
      | some formula => simpa using formula.document_ne_matchAll compiler

theorem Formula.Normal.normalPart {compiler : Compiler} {formula : Formula}
    (normal : formula.Normal) {isTest : Json → Prop} {document : Json}
    (tests : ∀ predicate ∈ formula.predicates, isTest (compiler.fieldQuery predicate).toJson) :
    Document.NormalPart isTest document (formula.document compiler) := by
  cases normal with
  | leaf predicate =>
      have known := tests predicate List.mem_cons_self
      rcases document_leaf_cases compiler predicate with test | negated
      · rw [test]
        exact .of_no_body (Document.bodyOf?_test _)
          (fun all => absurd all (by simp [Document.isMatchAll_test])) (.inr known)
      · rw [negated]
        exact .negation known
  | node connector parts several others normals =>
      rw [document_node]
      refine .combined (by simpa using several) ?_
      intro entry member
      obtain ⟨part, partMember, rfl⟩ := List.mem_map.mp member
      exact under?_document (others part partMember)

theorem Compiler.isTest_of_mem {compiler : Compiler} {tree : Tree} {formula : Formula}
    (found : tree.canonical? compiler.rules = some formula) {predicate : Predicate}
    (member : predicate ∈ formula.predicates) :
    compiler.IsTest tree.leaves (compiler.fieldQuery predicate).toJson := by
  obtain ⟨clause, known, complete⟩ := Tree.complete_of_mem found member
  exact ⟨clause, known, predicate, complete, rfl⟩

/-- The document of a tree is in normal form. It matches everything when no leaf is complete, and
only then. -/
theorem query_document_normal :
    let document := Query.document (compiler.compile tree)
    let leaves := (tree.map Tree.leaves).getD []
    compiler.assembled tree = document ∧
    (document = Document.matchAll ↔
      ∀ clause ∈ leaves, (compiler.rules.complete clause).isOk = false) ∧
    ∀ part, Document.Part document part →
      Document.NormalPart (compiler.IsTest leaves) document part := by
  intro document leaves
  refine ⟨compiler.assembled_eq_document tree, compiler.document_eq_matchAll_iff tree, ?_⟩
  intro part inside
  have shape : document = ((tree.bind (Tree.canonical? compiler.rules)).map
      (Formula.document compiler)).getD Document.matchAll := compiler.document_eq_formula tree
  cases found : tree.bind (Tree.canonical? compiler.rules) with
  | none =>
      rw [found] at shape
      rw [shape] at inside ⊢
      obtain rfl := inside.eq_matchAll
      exact .of_no_body rfl (fun _ => rfl) (.inl rfl)
  | some formula =>
      obtain ⟨own, rfl, canonical⟩ := Option.bind_eq_some_iff.mp found
      rw [found, Option.map_some, Option.getD_some] at shape
      rw [shape] at inside
      rcases Formula.part_cases (Tree.canonical?_normal canonical) inside with
        ⟨inner, normal, fewer, rfl⟩ | ⟨predicate, member, rfl⟩
      · exact normal.normalPart fun predicate known =>
          Compiler.isTest_of_mem canonical (fewer known)
      · exact .of_no_body (Document.bodyOf?_test _)
          (fun all => absurd all (by simp [Document.isMatchAll_test]))
          (.inr (Compiler.isTest_of_mem canonical member))

end

end SearchFilter
