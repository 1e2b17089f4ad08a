import SearchFilter.Text.Blank

/-! The words of a filter: connectors, operators, and the comparisons of ranges. -/

namespace SearchFilter

inductive Connector where
  | and
  | or
deriving DecidableEq, Inhabited

namespace Connector

def name : Connector → String
  | and => "AND"
  | or => "OR"

def ofName? (name : String) : Option Connector :=
  if name = "AND" ∨ name = "and" then some and
  else if name = "OR" ∨ name = "or" then some or
  else none

theorem ofName?_name (connector : Connector) : ofName? connector.name = some connector := by
  cases connector <;> decide

end Connector

inductive Operator where
  | is
  | isNot
  | isOneOf
  | isNotOneOf
  | present
  | absent
  | range
  | startsWith
  | wildcard
  | queryString
deriving DecidableEq

namespace Operator

def name : Operator → String
  | is => "is"
  | isNot => "is_not"
  | isOneOf => "is_one_of"
  | isNotOneOf => "is_not_one_of"
  | present => "exists"
  | absent => "does_not_exist"
  | range => "range"
  | startsWith => "prefix"
  | wildcard => "wildcard"
  | queryString => "query_string"

def all : List Operator :=
  [is, isNot, isOneOf, isNotOneOf, present, absent, range, startsWith, wildcard, queryString]

theorem mem_all (operator : Operator) : operator ∈ all := by
  cases operator <;> simp [all]

def isNegated : Operator → Bool
  | isNot | isNotOneOf | absent => true
  | _ => false

def isMultiValued : Operator → Bool
  | isOneOf | isNotOneOf => true
  | _ => false

def ofName? (name : String) : Option Operator := all.find? fun operator => operator.name == name

theorem ofName?_name (operator : Operator) : ofName? operator.name = some operator := by
  cases operator <;> decide

/-- The spelling under which an operator is looked up: trimmed, in small letters, with a low line
for each hyphen and each blank. The names of operators are ASCII. -/
def spelling (written : String) : String :=
  String.ofList ((Text.trim written.toList).map fun char =>
    if char == '-' || char == ' ' then '_' else char.toLower)

def read? (written : String) : Option Operator := ofName? (spelling written)

end Operator

inductive Comparison where
  | above
  | atLeast
  | below
  | atMost
deriving DecidableEq

namespace Comparison

def key : Comparison → String
  | above => "gt"
  | atLeast => "gte"
  | below => "lt"
  | atMost => "lte"

def symbol : Comparison → String
  | above => ">"
  | atLeast => ">="
  | below => "<"
  | atMost => "<="

def isLower : Comparison → Bool
  | above | atLeast => true
  | below | atMost => false

def all : List Comparison := [above, atLeast, below, atMost]

def ofKey? (key : String) : Option Comparison := all.find? fun comparison => comparison.key == key

def read? (written : String) : Option Comparison :=
  let spelling := String.ofList ((Text.trim written.toList).map Char.toLower)
  all.find? fun comparison => comparison.key == spelling || comparison.symbol == spelling

theorem ofKey?_key (comparison : Comparison) : ofKey? comparison.key = some comparison := by
  cases comparison <;> decide

end Comparison

end SearchFilter
