import SearchFilter.Filter.Operator
import SearchFilter.Json.Record

/-!
Clauses and groups as they are stored. A clause keeps what was typed, and becomes a predicate when
it is complete.
-/

namespace SearchFilter

structure GroupMark where
  group : Option String
  isStart : Bool
  isEnd : Bool
deriving DecidableEq

def GroupMark.none : GroupMark := ⟨Option.none, false, false⟩

structure Clause where
  field : String := ""
  operator : String := ""
  value : Option Value := none
  values : Option (List Value) := none
  minValue : Option Value := none
  maxValue : Option Value := none
  minOperator : Option String := none
  maxOperator : Option String := none
  disabled : Bool := false
  connector : Option Connector := none
  mark : GroupMark := GroupMark.none

namespace Clause

def empty (connector : Option Connector) : Clause := { connector := connector }

def of (field : String) (operator : Operator) : Clause :=
  { field := field, operator := operator.name }

def withMin (clause : Clause) (value : Value) (comparison : Option Comparison) : Clause :=
  { clause with minValue := some value, minOperator := comparison.map Comparison.key }

def withMax (clause : Clause) (value : Value) (comparison : Option Comparison) : Clause :=
  { clause with maxValue := some value, maxOperator := comparison.map Comparison.key }

def unmarked (clause : Clause) : Clause := { clause with mark := GroupMark.none }

def effectiveConnector (clause : Clause) : Connector := clause.connector.getD .and

theorem unmarked_unmarked (clause : Clause) : clause.unmarked.unmarked = clause.unmarked := rfl

theorem effectiveConnector_unmarked (clause : Clause) :
    clause.unmarked.effectiveConnector = clause.effectiveConnector := rfl

def fieldNames : List String :=
  ["field", "operator", "value", "values", "minValue", "maxValue", "minOperator", "maxOperator",
    "disabled", "connector", "groupId", "isGroupStart", "isGroupEnd"]

def toJson (clause : Clause) : Json :=
  .object ([("field", .text clause.field), ("operator", .text clause.operator)] ++
    Json.optional "value" (clause.value.map Value.json) ++
    Json.optional "values" (clause.values.map fun values => .list (values.map Value.json)) ++
    Json.optional "minValue" (clause.minValue.map Value.json) ++
    Json.optional "maxValue" (clause.maxValue.map Value.json) ++
    Json.optional "minOperator" (clause.minOperator.map Json.text) ++
    Json.optional "maxOperator" (clause.maxOperator.map Json.text) ++
    Json.flag "disabled" clause.disabled ++
    Json.optional "connector" (clause.connector.map fun connector => .text connector.name) ++
    Json.optional "groupId" (clause.mark.group.map Json.text) ++
    Json.flag "isGroupStart" clause.mark.isStart ++
    Json.flag "isGroupEnd" clause.mark.isEnd)

end Clause

def Connector.ofJson? (dialect : Json.Dialect) (json : Json) : Option Connector :=
  (dialect.name? json).bind Connector.ofName?

/-- Reading a clause. Null counts as absent wherever a field may be absent. -/
def Clause.ofJson? (dialect : Json.Dialect) (json : Json) : Option Clause := do
  let part ← dialect.record? Clause.fieldNames json
  let field ← Json.orDefault Json.text? "" (part "field")
  let operator ← Json.orDefault Json.text? "" (part "operator")
  let value ← Json.nullable Json.any? (part "value")
  let values ← Json.nullable (Json.listOf? Json.any?) (part "values")
  let minValue ← Json.nullable Json.any? (part "minValue")
  let maxValue ← Json.nullable Json.any? (part "maxValue")
  let minOperator ← Json.nullable Json.text? (part "minOperator")
  let maxOperator ← Json.nullable Json.text? (part "maxOperator")
  let disabled ← Json.orDefault Json.bool? false (part "disabled")
  let connector ← Json.nullable (Connector.ofJson? dialect) (part "connector")
  let group ← Json.nullable Json.text? (part "groupId")
  let isStart ← Json.orDefault Json.bool? false (part "isGroupStart")
  let isEnd ← Json.orDefault Json.bool? false (part "isGroupEnd")
  some {
    field, operator, value, values, minValue, maxValue, minOperator, maxOperator, disabled,
    connector, mark := ⟨group, isStart, isEnd⟩
  }

structure Group where
  id : String
  connector : Connector
  indices : List Nat
deriving DecidableEq

namespace Group

def first (group : Group) : Option Nat := group.indices.min?

def last (group : Group) : Option Nat := group.indices.max?

def contains (group : Group) (index : Nat) : Bool := group.indices.contains index

def fieldNames : List String := ["id", "type", "clauseIndices"]

def toJson (group : Group) : Json :=
  .object [("id", .text group.id), ("type", .text group.connector.name),
    ("clauseIndices", .list (group.indices.map Json.nat))]

def ofJson? (dialect : Json.Dialect) (json : Json) : Option Group := do
  let part ← dialect.record? fieldNames json
  let id ← Json.required Json.text? (part "id")
  let connector ← Json.required (Connector.ofJson? dialect) (part "type")
  let indices ← Json.required (Json.listOf? Json.nat?) (part "clauseIndices")
  some ⟨id, connector, indices⟩

theorem contains_iff (group : Group) (index : Nat) :
    group.contains index = true ↔ index ∈ group.indices := by
  simp [contains]

end Group

end SearchFilter
