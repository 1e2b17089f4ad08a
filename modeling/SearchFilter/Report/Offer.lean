import SearchFilter.Catalog
import SearchFilter.Json.Printer
import SearchFilter.Report.Grid

/-! The report on the operators that are offered for fields. -/

namespace SearchFilter.Report.Offer

def operatorNames (field : Field) : List String := field.type.operators.map Operator.name

def row (field : Field) : List String :=
  [field.name, field.type.name, String.intercalate ", " (operatorNames field)]

def text : List Field → String
  | [] => "No fields in catalog.\n"
  | fields => Grid.draw ⟨["Field", "Type", "Operators"], fields.map row⟩ ++ "\n"

def fieldJson (field : Field) : Json :=
  .object [("name", .text field.name), ("operators", Json.texts (operatorNames field)),
    ("type", .text field.type.name)]

def json (fields : List Field) : Json := .list (fields.map fieldJson)

end SearchFilter.Report.Offer
