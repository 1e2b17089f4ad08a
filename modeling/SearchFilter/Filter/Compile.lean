import SearchFilter.Filter.Query
import SearchFilter.Filter.Tree

/-! Compilation of trees into queries. Clauses that are not complete are left out and reported. -/

namespace SearchFilter

structure Compiler where
  rules : Rules := {}
  ignoreCase : Bool := true

structure Compilation where
  query : Option Query
  issues : List ClauseError

namespace Compilation

def warnings (compilation : Compilation) : List ClauseError :=
  compilation.issues.filter ClauseError.isWarning

end Compilation

namespace Compiler

/-- The test of a predicate without its negation. Exact fields and numbers are compared as a whole,
and on other fields a prefix is a wildcard. -/
def fieldQuery (compiler : Compiler) (predicate : Predicate) : FieldQuery :=
  let field := predicate.field
  match predicate.condition with
  | .equals _ value =>
    if predicate.exact || value.isNumber then .term field value else .analyzed field value
  | .oneOf _ values => .terms field values
  | .exists _ => .exists field
  | .range min max => .range field ((min.toList ++ max.toList).foldl (fun bounds bound =>
      bound.set bounds) [])
  | .startsWith text =>
    if predicate.exact then .startsWith field text
    else .wildcard field (text ++ "*") compiler.ignoreCase
  | .wildcard pattern => .wildcard field pattern compiler.ignoreCase
  | .queryString query => .queryString field query

def leafQuery (compiler : Compiler) (predicate : Predicate) : Query :=
  if predicate.condition.isNegated then .except (compiler.fieldQuery predicate)
  else .test (compiler.fieldQuery predicate)

mutual

def query? (compiler : Compiler) : Tree → Option Query
  | .leaf clause =>
    match compiler.rules.complete clause with
    | .ok predicate => some (compiler.leafQuery predicate)
    | .error _ => none
  | .node connector children => Query.gather? connector (compiler.queries children)

def queries (compiler : Compiler) : List Tree → List Query
  | [] => []
  | tree :: trees => (compiler.query? tree).toList ++ compiler.queries trees

end

theorem queries_eq_flatMap (compiler : Compiler) (trees : List Tree) :
    compiler.queries trees = trees.flatMap fun tree => (compiler.query? tree).toList := by
  induction trees with
  | nil => rfl
  | cons tree trees ih => rw [queries, ih, List.flatMap_cons]

mutual

def diagnose (compiler : Compiler) : Tree → Compilation
  | .leaf clause =>
    match compiler.rules.complete clause with
    | .ok predicate => ⟨some (compiler.leafQuery predicate), []⟩
    | .error error => ⟨none, [error]⟩
  | .node connector children =>
    let (queries, issues) := compiler.diagnoseAll children
    ⟨Query.gather? connector queries, issues⟩

def diagnoseAll (compiler : Compiler) : List Tree → List Query × List ClauseError
  | [] => ([], [])
  | tree :: trees =>
    let first := compiler.diagnose tree
    let (queries, issues) := compiler.diagnoseAll trees
    (first.query.toList ++ queries, first.issues ++ issues)

end

def compile (compiler : Compiler) (tree : Option Tree) : Option Query :=
  tree.bind compiler.query?

def compileWithIssues (compiler : Compiler) : Option Tree → Compilation
  | some tree => compiler.diagnose tree
  | none => ⟨none, []⟩

end Compiler

end SearchFilter
