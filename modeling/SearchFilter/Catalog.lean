import SearchFilter.Filter.Operator
import SearchFilter.Json.Parser
import SearchFilter.Json.Record

/-! The fields that a filter can ask about, their types, and the operators offered for each. -/

namespace SearchFilter

inductive FieldType where
  | keyword
  | text
  | long
  | integer
  | short
  | byte
  | double
  | float
  | date
  | boolean
  | ip
  | other
deriving DecidableEq

namespace FieldType

def name : FieldType → String
  | keyword => "keyword"
  | text => "text"
  | long => "long"
  | integer => "integer"
  | short => "short"
  | byte => "byte"
  | double => "double"
  | float => "float"
  | date => "date"
  | boolean => "boolean"
  | ip => "ip"
  | other => "other"

def all : List FieldType :=
  [keyword, text, long, integer, short, byte, double, float, date, boolean, ip, other]

def ofName (name : String) : FieldType :=
  (all.find? fun fieldType => fieldType.name == name).getD other

theorem ofName_name (fieldType : FieldType) : ofName fieldType.name = fieldType := by
  cases fieldType <;> decide

def isNumeric : FieldType → Bool
  | long | integer | short | byte | double | float => true
  | _ => false

def isString : FieldType → Bool
  | keyword | text => true
  | _ => false

def operators : FieldType → List Operator
  | keyword | text =>
    [.is, .isNot, .isOneOf, .isNotOneOf, .present, .absent, .startsWith, .wildcard, .queryString]
  | long | integer | short | byte | double | float | date | ip =>
    [.is, .isNot, .isOneOf, .isNotOneOf, .present, .absent, .range]
  | boolean => [.is, .isNot, .present, .absent]
  | other => Operator.all

def ofJson? (dialect : Json.Dialect) (json : Json) : Option FieldType :=
  (dialect.name? json).map ofName

end FieldType

structure Field where
  name : String
  type : FieldType
deriving DecidableEq

namespace Field

def fieldNames : List String := ["name", "type"]

def ofJson? (dialect : Json.Dialect) (json : Json) : Option Field := do
  let part ← dialect.record? fieldNames json
  let name ← Json.required Json.text? (part "name")
  let type ← Json.required (FieldType.ofJson? dialect) (part "type")
  some ⟨name, type⟩

def toJson (field : Field) : Json :=
  .object [("name", .text field.name), ("type", .text field.type.name)]

end Field

structure Catalog where
  fields : List Field
deriving DecidableEq

namespace Catalog

def empty : Catalog := ⟨[]⟩

def find? (catalog : Catalog) (name : String) : Option Field :=
  catalog.fields.find? fun field => field.name == name

def operatorsFor (catalog : Catalog) (name : String) : List Operator :=
  match catalog.find? name with
  | some field => field.type.operators
  | none => Operator.all

def named (catalog : Catalog) : Option String → List Field
  | some name => catalog.fields.filter fun field => field.name == name
  | none => catalog.fields

def ofJson? (dialect : Json.Dialect) (json : Json) : Option Catalog :=
  (Json.listOf? (Field.ofJson? dialect) json).map Catalog.mk

def ofText? (source : String) : Option Catalog := (Json.parse? source).bind (ofJson? .json)

def toJson (catalog : Catalog) : Json := .list (catalog.fields.map Field.toJson)

end Catalog

end SearchFilter
