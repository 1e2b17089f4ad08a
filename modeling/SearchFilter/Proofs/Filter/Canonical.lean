import SearchFilter.Filter.Document
import SearchFilter.Filter.Rendering
import SearchFilter.Proofs.Filter.Formula

/-!
The canonical form of a tree is the normal form of what is left of it without its incomplete
clauses. Queries and previews of a tree are those of its canonical form.
-/

namespace SearchFilter

namespace Tree

mutual

def ready? (rules : Rules) : Tree → Option Formula
  | leaf clause =>
    match rules.complete clause with
    | .ok predicate => some (.leaf predicate)
    | .error _ => none
  | node connector children => some (.node connector (readies rules children))

def readies (rules : Rules) : List Tree → List Formula
  | [] => []
  | tree :: trees => (tree.ready? rules).toList ++ readies rules trees

end

def canonical? (rules : Rules) (tree : Tree) : Option Formula :=
  (tree.ready? rules).bind Formula.normal?

theorem readies_eq_flatMap (rules : Rules) (trees : List Tree) :
    readies rules trees = trees.flatMap fun tree => (tree.ready? rules).toList := by
  induction trees with
  | nil => rfl
  | cons tree trees ih => rw [readies, ih, List.flatMap_cons]

theorem toList_canonical? (rules : Rules) (tree : Tree) :
    (tree.canonical? rules).toList = Formula.normals (tree.ready? rules).toList := by
  rw [canonical?]
  cases tree.ready? rules with
  | none => rfl
  | some formula => rw [Option.bind_some, Option.toList_some, Formula.normals_singleton]

theorem normals_readies (rules : Rules) (trees : List Tree) :
    Formula.normals (readies rules trees) =
      trees.flatMap fun tree => (tree.canonical? rules).toList := by
  rw [Formula.normals_eq_flatMap, readies_eq_flatMap, List.flatMap_assoc]
  apply List.flatMap_congr
  intro tree _
  rw [toList_canonical?, Formula.normals_eq_flatMap]

theorem canonical?_node (rules : Rules) (connector : Connector) (children : List Tree) :
    (node connector children).canonical? rules =
      Formula.gather? connector
        (children.flatMap fun child => (child.canonical? rules).toList) := by
  rw [canonical?, ready?, Option.bind_some, Formula.normal?, normals_readies]

theorem canonical?_normal {rules : Rules} {tree : Tree} {formula : Formula}
    (found : tree.canonical? rules = some formula) : formula.Normal := by
  obtain ⟨source, -, normal⟩ := Option.bind_eq_some_iff.mp found
  exact source.normal?_normal formula normal

theorem normal_of_canonical? (rules : Rules) (children : List Tree) :
    ∀ part ∈ children.flatMap fun child => (child.canonical? rules).toList, part.Normal := by
  intro part member
  obtain ⟨child, -, found⟩ := List.mem_flatMap.mp member
  exact canonical?_normal (Option.mem_toList.mp found)

end Tree

namespace Formula

mutual

def document (compiler : Compiler) : Formula → Json
  | leaf predicate => (compiler.leafQuery predicate).toJson
  | node .and parts => .object [("bool", .object [("must", .list (documents compiler parts))])]
  | node .or parts =>
    .object [("bool", .object [("minimum_should_match", Json.nat 1),
      ("should", .list (documents compiler parts))])]

def documents (compiler : Compiler) : List Formula → List Json
  | [] => []
  | part :: parts => part.document compiler :: documents compiler parts

end

mutual

/-- The text of a formula under a parent: those of its parts with its connector between them, in
parentheses when the parent is there and has another connector. -/
def print (parent : Option Connector) : Formula → String
  | leaf predicate => predicate.phrase
  | node connector parts =>
    let text := String.intercalate (" " ++ connector.name ++ " ") (prints connector parts)
    if parent.isSome ∧ parent ≠ some connector then "(" ++ text ++ ")" else text

def prints (connector : Connector) : List Formula → List String
  | [] => []
  | part :: parts => part.print (some connector) :: prints connector parts

end

mutual

def query (compiler : Compiler) : Formula → Query
  | leaf predicate => compiler.leafQuery predicate
  | node .and parts => .all (queries compiler parts)
  | node .or parts => .any (queries compiler parts)

def queries (compiler : Compiler) : List Formula → List Query
  | [] => []
  | part :: parts => part.query compiler :: queries compiler parts

end

theorem queries_eq_map (compiler : Compiler) (parts : List Formula) :
    queries compiler parts = parts.map (query compiler) := by
  induction parts with
  | nil => rfl
  | cons part parts ih => rw [queries, ih, List.map_cons]

theorem documents_eq_map (compiler : Compiler) (parts : List Formula) :
    documents compiler parts = parts.map (document compiler) := by
  induction parts with
  | nil => rfl
  | cons part parts ih => rw [documents, ih, List.map_cons]

theorem prints_eq_map (connector : Connector) (parts : List Formula) :
    prints connector parts = parts.map (print (some connector)) := by
  induction parts with
  | nil => rfl
  | cons part parts ih => rw [prints, ih, List.map_cons]

/-! Queries. -/

theorem toJson_query (compiler : Compiler) (formula : Formula) :
    (formula.query compiler).toJson = formula.document compiler := by
  induction formula with
  | leaf predicate => rfl
  | node connector parts ih =>
      have each : Query.toJsonAll (queries compiler parts) = documents compiler parts := by
        rw [Query.toJsonAll_eq_map, queries_eq_map, documents_eq_map, List.map_map]
        exact List.map_congr_left ih
      cases connector <;> rw [query, Query.toJson, document, each]

theorem spliced_leafQuery (compiler : Compiler) (connector : Connector) (predicate : Predicate) :
    (compiler.leafQuery predicate).spliced connector = [compiler.leafQuery predicate] := by
  rw [Compiler.leafQuery]
  split <;> cases connector <;> rfl

theorem spliced_query (compiler : Compiler) (connector : Connector) (formula : Formula) :
    (formula.query compiler).spliced connector =
      (formula.spliced connector).map (query compiler) := by
  cases formula with
  | leaf predicate => exact spliced_leafQuery compiler connector predicate
  | node own parts =>
      cases own <;> cases connector <;> simp [query, Query.spliced, Formula.spliced, queries_eq_map]

theorem gather?_query (compiler : Compiler) (connector : Connector) (parts : List Formula) :
    Query.gather? connector (parts.map (query compiler)) =
      (gather? connector parts).map (query compiler) := by
  have each : (parts.map (query compiler)).flatMap (Query.spliced connector) =
      (parts.flatMap (spliced connector)).map (query compiler) := by
    rw [List.flatMap_map, List.map_flatMap]
    exact List.flatMap_congr fun part _ => spliced_query compiler connector part
  rw [Query.gather?, gather?, each]
  cases parts.flatMap (spliced connector) with
  | nil => rfl
  | cons first rest =>
      cases rest with
      | nil => rfl
      | cons second rest => cases connector <;> simp [query, queries_eq_map]

end Formula

theorem Compiler.query?_eq_canonical (compiler : Compiler) (tree : Tree) :
    compiler.query? tree = (tree.canonical? compiler.rules).map (Formula.query compiler) := by
  induction tree with
  | leaf clause =>
      rw [query?, Tree.canonical?, Tree.ready?]
      cases compiler.rules.complete clause <;> rfl
  | node connector children ih =>
      have parts : compiler.queries children =
          (children.flatMap fun child => (child.canonical? compiler.rules).toList).map
            (Formula.query compiler) := by
        rw [queries_eq_flatMap, List.map_flatMap]
        apply List.flatMap_congr
        intro child member
        rw [ih child member]
        cases child.canonical? compiler.rules <;> rfl
      rw [query?, parts, Formula.gather?_query, Tree.canonical?_node]

/-! Previews. -/

namespace Formula

theorem spliced_ne_nil {formula : Formula} (connector : Connector) (normal : formula.Normal) :
    spliced connector formula ≠ [] := by
  cases normal with
  | leaf predicate => simp [Formula.spliced]
  | node own parts several others normals =>
      rw [Formula.spliced]
      split
      · rintro rfl
        simp at several
      · simp

theorem print_node (parent : Option Connector) (connector : Connector) (parts : List Formula) :
    (node connector parts).print parent =
      if parent.isSome ∧ parent ≠ some connector then
        "(" ++ (node connector parts).print none ++ ")"
      else (node connector parts).print none := by
  simp [print]

def phrase (formula : Formula) : Phrase := ⟨formula.connector?, formula.print none⟩

theorem within_phrase (parent : Option Connector) (formula : Formula) :
    formula.phrase.within parent = formula.print parent := by
  cases formula with
  | leaf predicate => rfl
  | node connector parts =>
      rw [print_node, phrase, connector?]
      cases parent with
      | none => rfl
      | some parent =>
          by_cases same : connector = parent
          · simp [Phrase.within, same]
          · simp [Phrase.within, same, Ne.symm same]

def between (connector : Connector) : String := " " ++ connector.name ++ " "

theorem print_eq_intercalate (connector : Connector) (formula : Formula) :
    formula.print (some connector) =
      String.intercalate (between connector)
        ((formula.spliced connector).map (print (some connector))) := by
  cases formula with
  | leaf predicate => simp [Formula.spliced, String.intercalate_singleton]
  | node own parts =>
      by_cases same : own = connector
      · simp [Formula.spliced, print, prints_eq_map, same, between]
      · simp [Formula.spliced, same, String.intercalate_singleton]

theorem intercalate_flatMap (between : String) (formulas : List Formula)
    (texts : Formula → List String) (present : ∀ formula ∈ formulas, texts formula ≠ []) :
    String.intercalate between
        (formulas.map fun formula => String.intercalate between (texts formula)) =
      String.intercalate between (formulas.flatMap texts) := by
  induction formulas with
  | nil => rfl
  | cons formula rest ih =>
      have tail := ih fun other member => present other (List.mem_cons_of_mem _ member)
      cases rest with
      | nil => simp [String.intercalate_singleton]
      | cons next rest =>
          have here := present formula List.mem_cons_self
          have there : (next :: rest).flatMap texts ≠ [] := by
            simp [present next (by simp)]
          rw [List.map_cons, List.flatMap_cons, String.intercalate_cons_of_ne_nil (by simp), tail,
            String.intercalate_append_of_ne_nil here there]

theorem intercalate_within (connector : Connector) (parts : List Formula)
    (normal : ∀ part ∈ parts, part.Normal) :
    String.intercalate (between connector)
        (parts.map fun part => part.phrase.within (some connector)) =
      (node connector (parts.flatMap (spliced connector))).print none := by
  have joined := intercalate_flatMap (between connector) parts
    (fun part => (part.spliced connector).map (print (some connector)))
    fun part member => by simpa using spliced_ne_nil connector (normal part member)
  calc
    _ = String.intercalate (between connector) (parts.map fun part =>
          String.intercalate (between connector)
            ((part.spliced connector).map (print (some connector)))) := by
      simp only [within_phrase, ← print_eq_intercalate]
    _ = _ := by
      rw [joined, ← List.map_flatMap, ← prints_eq_map]
      simp [print, between]

theorem gather?_of_several {connector : Connector} {first second : Formula} {rest : List Formula}
    (normal : ∀ part ∈ first :: second :: rest, part.Normal) :
    gather? connector (first :: second :: rest) =
      some (node connector ((first :: second :: rest).flatMap (spliced connector))) := by
  have several : 2 ≤ ((first :: second :: rest).flatMap (spliced connector)).length := by
    have one := List.length_pos_of_ne_nil (spliced_ne_nil connector (normal first (by simp)))
    have two := List.length_pos_of_ne_nil (spliced_ne_nil connector (normal second (by simp)))
    simp only [List.flatMap_cons, List.length_append]
    omega
  rw [gather?]
  generalize (first :: second :: rest).flatMap (Formula.spliced connector) = parts at several ⊢
  cases parts with
  | nil => simp at several
  | cons head tail =>
      cases tail with
      | nil => simp at several
      | cons next others => rfl

theorem gather?_phrase (connector : Connector) (parts : List Formula)
    (normal : ∀ part ∈ parts, part.Normal) :
    Phrase.gather? connector (parts.map phrase) = (gather? connector parts).map phrase := by
  match parts with
  | [] => rfl
  | [only] =>
      rw [gather?_singleton (normal only List.mem_cons_self)]
      rfl
  | first :: second :: rest =>
      rw [gather?_of_several normal, Option.map_some, phrase, ← intercalate_within _ _ normal]
      simp [Phrase.gather?, connector?, between, Function.comp_def]

end Formula

theorem Rules.phrase?_eq_canonical (rules : Rules) (tree : Tree) :
    rules.phrase? tree = (tree.canonical? rules).map Formula.phrase := by
  induction tree with
  | leaf clause =>
      rw [phrase?, Tree.canonical?, Tree.ready?]
      cases rules.complete clause <;> rfl
  | node connector children ih =>
      have parts : rules.phrases children =
          (children.flatMap fun child => (child.canonical? rules).toList).map Formula.phrase := by
        rw [phrases_eq_flatMap, List.map_flatMap]
        apply List.flatMap_congr
        intro child member
        rw [ih child member]
        cases child.canonical? rules <;> rfl
      rw [phrase?, parts, Tree.canonical?_node,
        Formula.gather?_phrase connector _ (Tree.normal_of_canonical? rules children)]

/-! Both together. -/

namespace Formula

theorem phrase_ne_empty (predicate : Predicate) : predicate.phrase ≠ "" := by
  intro empty
  have chars := congrArg String.toList empty
  simp [Predicate.phrase] at chars

theorem Normal.print_ne_empty {formula : Formula} (normal : formula.Normal) :
    formula.print none ≠ "" := by
  cases normal with
  | leaf predicate => exact phrase_ne_empty predicate
  | node connector parts several others normals =>
      match parts, several with
      | first :: second :: rest, _ =>
          intro empty
          have chars := congrArg String.toList empty
          simp [print, prints, String.intercalate_cons_cons] at chars

theorem document_ne_matchAll (compiler : Compiler) (formula : Formula) :
    formula.document compiler ≠ Document.matchAll := by
  intro same
  have other := Document.isMatchAll_toJson (formula.query compiler)
  rw [toJson_query, same] at other
  exact absurd other (by decide)

end Formula

theorem Compiler.document_eq_canonical (compiler : Compiler) (tree : Tree) :
    Query.document (compiler.compile (some tree)) =
      ((tree.canonical? compiler.rules).map (Formula.document compiler)).getD
        Document.matchAll := by
  rw [compile, Option.bind_some, query?_eq_canonical]
  cases tree.canonical? compiler.rules with
  | none => rfl
  | some formula => exact Formula.toJson_query compiler formula

theorem Rules.render?_eq_canonical (rules : Rules) (tree : Tree) (parent : Option Connector) :
    rules.render? tree parent = (tree.canonical? rules).map (Formula.print parent) := by
  rw [render?, phrase?_eq_canonical, Option.map_map]
  cases tree.canonical? rules with
  | none => rfl
  | some formula => exact congrArg some (Formula.within_phrase parent formula)

/-- The query of a tree and its text under any parent are written straight from one canonical
form, to which simplification in any order leads. The text is empty when the query matches
everything, and only then. -/
theorem document_and_text_canonical (compiler : Compiler) (tree : Tree) :
    let canonical := tree.canonical? compiler.rules
    let document := (canonical.map (Formula.document compiler)).getD Document.matchAll
    (∀ outcome, Formula.IsOutcome (tree.ready? compiler.rules).toList outcome ↔
      outcome = canonical.toList) ∧
    Query.document (compiler.compile (some tree)) = document ∧
    compiler.assembled (some tree) = document ∧
    (∀ parent, compiler.rules.render? tree parent = canonical.map (Formula.print parent) ∧
      compiler.rules.rendered? parent tree = canonical.map (Formula.print parent)) ∧
    (compiler.rules.preview (some tree) = "" ↔
      Query.document (compiler.compile (some tree)) = Document.matchAll) := by
  intro canonical document
  have query : Query.document (compiler.compile (some tree)) = document :=
    compiler.document_eq_canonical tree
  refine ⟨?_, query, ?_, ?_, ?_⟩
  · intro outcome
    rw [Formula.isOutcome_iff, Tree.toList_canonical?]
  · rw [compiler.assembled_eq_document, query]
  · intro parent
    rw [Rules.rendered?_eq_render?]
    exact ⟨Rules.render?_eq_canonical _ tree parent, Rules.render?_eq_canonical _ tree parent⟩
  · rw [query, Rules.preview, Option.bind_some, Rules.render?_eq_canonical]
    change (canonical.map _).getD "" = "" ↔ (canonical.map _).getD Document.matchAll = _
    match found : canonical with
    | none => exact ⟨fun _ => rfl, fun _ => rfl⟩
    | some formula =>
        have normal : formula.Normal := Tree.canonical?_normal found
        exact ⟨fun empty => absurd empty normal.print_ne_empty,
          fun same => absurd same (Formula.document_ne_matchAll compiler formula)⟩

end SearchFilter
