import SearchFilter.Filter.Document

/-!
Compilation in one pass over a tree, which puts the document together and notes the errors on its
way. A complete clause keeps its operator and its operand apart here, so not every pair of them has
a document; those that clauses are completed to have one.
-/

namespace SearchFilter

inductive Operand where
  | absent
  | scalar (value : Scalar)
  | list (values : List Scalar)
  | range (min max : Option Bound)

structure Completed where
  field : String
  operator : Operator
  operand : Operand
  exact : Bool
  negated : Bool

namespace Rules

def ends (rules : Rules) (clause : Clause) (field : String) (exact : Bool) :
    Except ClauseError (Option Bound × Option Bound) :=
  let min := scalar? exact clause.minValue
  let max := scalar? exact clause.maxValue
  if min.isNone && max.isNone then .error (.missingRangeBounds field)
  else do
    let min ← rules.bound field .lower clause.minOperator min
    let max ← rules.bound field .upper clause.maxOperator max
    return (min, max)

def operand (rules : Rules) (clause : Clause) (field : String) (exact : Bool)
    (operator : Operator) : Except ClauseError Operand :=
  match operator with
  | .is | .isNot =>
    match scalar? exact clause.value with
    | some value => .ok (.scalar value)
    | none => .error (.missingValue field operator)
  | .isOneOf | .isNotOneOf =>
    let values := clause.items.filterMap (Scalar.ofJson? exact)
    if values.isEmpty then .error (.emptyValueList field operator) else .ok (.list values)
  | .present | .absent => .ok .absent
  | .range => (rules.ends clause field exact).map fun (min, max) => .range min max
  | .startsWith | .wildcard | .queryString =>
    match clause.value.bind fun value => Scalar.patternOf? value.json with
    | some text => .ok (.scalar (.text text))
    | none => .error (.missingValue field operator)

def completed (rules : Rules) (clause : Clause) : Except ClauseError Completed :=
  let field := Text.trimmed clause.field
  if field = "" then .error .missingField
  else if Text.allBlank clause.operator then .error (.missingOperator field)
  else
    match Operator.read? clause.operator with
    | none => .error (.unknownOperator clause.operator)
    | some operator =>
      let exact := rules.isExact field
      (rules.operand clause field exact operator).map fun operand =>
        ⟨field, operator, operand, exact, operator.isNegated⟩

end Rules

namespace Compiler

def wildcardDocument (compiler : Compiler) (field pattern : String) : Json :=
  (FieldQuery.wildcard field pattern compiler.ignoreCase).toJson

/-- The test of a complete clause. There is none for an operand that does not fit the operator, and
for a range without an end. -/
def testDocument? (compiler : Compiler) (completed : Completed) : Option Json :=
  let field := completed.field
  match completed.operator, completed.operand with
  | .is, .scalar value | .isNot, .scalar value =>
    let kind := if completed.exact || value.isNumber then "term" else "match"
    some (FieldQuery.about kind field value.toJson)
  | .isOneOf, .list values | .isNotOneOf, .list values =>
    some (FieldQuery.about "terms" field (.list (values.map Scalar.toJson)))
  | .present, _ | .absent, _ => some (FieldQuery.exists field).toJson
  | .range, .range min max =>
    let bounds := (min.toList ++ max.toList).foldl (fun bounds bound => bound.set bounds) []
    if bounds.isEmpty then none else some (FieldQuery.range field bounds).toJson
  | .startsWith, .scalar value =>
    if completed.exact then some (FieldQuery.about "prefix" field value.toJson)
    else some (compiler.wildcardDocument field (value.toText ++ "*"))
  | .wildcard, .scalar value => some (compiler.wildcardDocument field value.toText)
  | .queryString, .scalar value => some (FieldQuery.queryString field value.toText).toJson
  | _, _ => none

def leafDocument? (compiler : Compiler) (completed : Completed) : Option Json :=
  (compiler.testDocument? completed).map fun document =>
    if completed.negated then Document.negation document else document

mutual

def visited (compiler : Compiler) (issues : List ClauseError) :
    Tree → Option Json × List ClauseError
  | .leaf clause =>
    match compiler.rules.completed clause with
    | .ok completed => (compiler.leafDocument? completed, issues)
    | .error error => (none, issues ++ [error])
  | .node connector children =>
    let (documents, issues) := compiler.visitedAll connector [] issues children
    match documents with
    | [] => (none, issues)
    | [only] => (some only, issues)
    | parts => (some (Document.combined connector parts), issues)

def visitedAll (compiler : Compiler) (connector : Connector) (documents : List Json)
    (issues : List ClauseError) : List Tree → List Json × List ClauseError
  | [] => (documents, issues)
  | tree :: trees =>
    let (document, issues) := compiler.visited issues tree
    let kept := document.filter fun document => !Document.isMatchAll document
    let documents := documents ++ kept.toList.flatMap (Document.spliced connector)
    compiler.visitedAll connector documents issues trees

end

def reported (compiler : Compiler) (tree : Option Tree) : Json × List ClauseError :=
  match tree with
  | some tree =>
    let (document, issues) := compiler.visited [] tree
    (document.getD Document.matchAll, issues)
  | none => (Document.matchAll, [])

end Compiler

end SearchFilter
