import SearchFilter.Filter.Clause
import SearchFilter.Filter.Scalar

/-!
Predicates: clauses that are complete, with typed values. A clause that is not complete has an
error, the first unmet condition in the order field, operator, value.
-/

namespace SearchFilter

inductive Side where
  | lower
  | upper
deriving DecidableEq

def Side.name : Side → String
  | lower => "lower"
  | upper => "upper"

def Side.admits (side : Side) (comparison : Comparison) : Bool :=
  match side with
  | lower => comparison.isLower
  | upper => !comparison.isLower

inductive ClauseError where
  | missingField
  | missingOperator (field : String)
  | unknownOperator (written : String)
  | missingValue (field : String) (operator : Operator)
  | emptyValueList (field : String) (operator : Operator)
  | missingRangeBounds (field : String)
  | invalidRangeOperator (field : String) (side : Side) (written : String)
deriving DecidableEq

namespace ClauseError

def message : ClauseError → String
  | missingField => "Clause has no field"
  | missingOperator field => "Clause on field '" ++ field ++ "' has no operator"
  | unknownOperator written =>
    "Unknown operator: '" ++ written ++ "'. Valid operators are: " ++
      String.intercalate ", " (Operator.all.map Operator.name)
  | missingValue field operator =>
    "Operator '" ++ operator.name ++ "' on field '" ++ field ++ "' requires a value"
  | emptyValueList field operator =>
    "Operator '" ++ operator.name ++ "' on field '" ++ field ++ "' requires at least one value"
  | missingRangeBounds field =>
    "Range on field '" ++ field ++ "' needs a lower or an upper bound"
  | invalidRangeOperator field side written =>
    "Invalid range operator '" ++ written ++ "' for the " ++ side.name ++ " bound on field '" ++
      field ++ "'"

def isWarning : ClauseError → Bool
  | unknownOperator _ => true
  | _ => false

end ClauseError

structure Bound where
  comparison : Comparison
  value : Scalar
deriving DecidableEq

inductive Condition where
  | equals (negated : Bool) (value : Scalar)
  | oneOf (negated : Bool) (values : List Scalar)
  | exists (negated : Bool)
  | range (min max : Option Bound)
  | startsWith (text : String)
  | wildcard (pattern : String)
  | queryString (query : String)
deriving DecidableEq

namespace Condition

def operator : Condition → Operator
  | equals negated _ => if negated then .isNot else .is
  | oneOf negated _ => if negated then .isNotOneOf else .isOneOf
  | .exists negated => if negated then .absent else .present
  | range _ _ => .range
  | startsWith _ => .startsWith
  | wildcard _ => .wildcard
  | queryString _ => .queryString

def isNegated (condition : Condition) : Bool := condition.operator.isNegated

def isNumeric : Condition → Bool
  | equals _ value => value.isNumber
  | _ => false

end Condition

/-- A complete clause. An exact field is matched as a whole and holds no numbers. -/
structure Predicate where
  field : String
  exact : Bool
  condition : Condition
deriving DecidableEq

structure Rules where
  suffix : String := ".keyword"
  lower : Comparison := .above
  upper : Comparison := .below
deriving DecidableEq, Inhabited

/-- The items from which a list of values is taken: the list of values, else an array, else the
parts of a text between commas, else the single value. -/
def Clause.items (clause : Clause) : List Json :=
  let single := match clause.value.map Value.json with
    | some (.list items) => items
    | some (.text text) =>
      (text.toList.splitOn ',').map fun part => .text (String.ofList (Text.trim part))
    | some other => [other]
    | none => []
  match clause.values with
  | some (value :: values) => (value :: values).map Value.json
  | _ => single

namespace Rules

def isExact (rules : Rules) (field : String) : Bool :=
  rules.suffix ≠ "" && rules.suffix.toList.isSuffixOf field.toList

/-- The comparison of one end of a range. A blank text names none; one that is named has to bound
this end. -/
def comparison (rules : Rules) (field : String) (side : Side) (written : Option String) :
    Except ClauseError Comparison :=
  let default := match side with
    | .lower => rules.lower
    | .upper => rules.upper
  match written with
  | none => .ok default
  | some written =>
    if Text.allBlank written then .ok default
    else match Comparison.read? written with
      | some comparison =>
        if side.admits comparison then .ok comparison
        else .error (.invalidRangeOperator field side written)
      | none => .error (.invalidRangeOperator field side written)

def bound (rules : Rules) (field : String) (side : Side) (written : Option String) :
    Option Scalar → Except ClauseError (Option Bound)
  | none => .ok none
  | some value =>
    (rules.comparison field side written).map fun comparison => some ⟨comparison, value⟩

def scalar? (exact : Bool) (value : Option Value) : Option Scalar :=
  value.bind fun value => Scalar.ofJson? exact value.json

def range (rules : Rules) (clause : Clause) (field : String) (exact : Bool) :
    Except ClauseError Condition :=
  match scalar? exact clause.minValue, scalar? exact clause.maxValue with
  | none, none => .error (.missingRangeBounds field)
  | min, max =>
    match rules.bound field .lower clause.minOperator min with
    | .error error => .error error
    | .ok min =>
      match rules.bound field .upper clause.maxOperator max with
      | .error error => .error error
      | .ok max => .ok (.range min max)

def condition (rules : Rules) (clause : Clause) (field : String) (exact : Bool)
    (operator : Operator) : Except ClauseError Condition :=
  let single := match scalar? exact clause.value with
    | some value => .ok (.equals operator.isNegated value)
    | none => .error (.missingValue field operator)
  let list := match clause.items.filterMap (Scalar.ofJson? exact) with
    | [] => .error (.emptyValueList field operator)
    | values => .ok (.oneOf operator.isNegated values)
  let pattern := fun make : String → Condition =>
    match clause.value.bind fun value => Scalar.patternOf? value.json with
    | some text => .ok (make text)
    | none => .error (.missingValue field operator)
  match operator with
  | .is | .isNot => single
  | .isOneOf | .isNotOneOf => list
  | .present | .absent => .ok (.exists operator.isNegated)
  | .range => rules.range clause field exact
  | .startsWith => pattern .startsWith
  | .wildcard => pattern .wildcard
  | .queryString => pattern .queryString

def complete (rules : Rules) (clause : Clause) : Except ClauseError Predicate :=
  let field := Text.trimmed clause.field
  if field = "" then .error .missingField
  else if Text.allBlank clause.operator then .error (.missingOperator field)
  else
    match Operator.read? clause.operator with
    | none => .error (.unknownOperator clause.operator)
    | some operator =>
      (rules.condition clause field (rules.isExact field) operator).map fun condition =>
        ⟨field, rules.isExact field, condition⟩

theorem condition_placed (rules : Rules) (clause : Clause) (connector : Option Connector)
    (mark : GroupMark) (field : String) (exact : Bool) (operator : Operator) :
    rules.condition { clause with connector, mark } field exact operator =
      rules.condition clause field exact operator := by
  cases operator <;> rfl

theorem complete_placed (rules : Rules) (clause : Clause) (connector : Option Connector)
    (mark : GroupMark) :
    rules.complete { clause with connector, mark } = rules.complete clause := by
  simp only [complete, condition_placed]

theorem condition_of_complete {rules : Rules} {clause : Clause} {predicate : Predicate}
    (completed : rules.complete clause = .ok predicate) :
    ∃ operator, Operator.read? clause.operator = some operator ∧
      rules.condition clause predicate.field predicate.exact operator =
        .ok predicate.condition := by
  rw [complete] at completed
  split at completed
  · cases completed
  split at completed
  · cases completed
  split at completed
  · cases completed
  · next operator read =>
    refine ⟨operator, read, ?_⟩
    cases found : rules.condition clause (Text.trimmed clause.field)
        (rules.isExact (Text.trimmed clause.field)) operator with
    | error error =>
      rw [found] at completed
      cases completed
    | ok condition =>
      rw [found] at completed
      cases completed
      exact found

end Rules

end SearchFilter
