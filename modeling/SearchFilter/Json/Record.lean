import SearchFilter.Json.Printer

/-!
Reading records, names and lists out of documents. The formats in which documents are written differ
in what they accept for a record or for a name with a payload.
-/

namespace SearchFilter.Json

structure Dialect where
  rows : Bool
  surplus : Bool
  /-- A name may be the only key of an object that holds one of these. -/
  unit : Json → Bool

def isNull : Json → Bool
  | null => true
  | _ => false

def isEmpty : Json → Bool
  | list items => items.isEmpty
  | object fields => fields.isEmpty
  | _ => false

def Dialect.json : Dialect := ⟨true, false, isNull⟩

def Dialect.json5 : Dialect := ⟨false, false, isNull⟩

def Dialect.toml : Dialect := ⟨true, true, isEmpty⟩

def named (name : String) (fields : List (String × Json)) : List Json :=
  fields.filterMap fun (key, value) => if key = name then some value else none

/-- The fields of a record by name. A known field may not be repeated, and unknown fields are
ignored. -/
def Dialect.record? (dialect : Dialect) (names : List String) :
    Json → Option (String → Option Json)
  | object fields =>
    if names.all fun name => (named name fields).length ≤ 1 then
      some fun name => (named name fields).head?
    else none
  | list items =>
    if dialect.rows && (dialect.surplus || items.length ≤ names.length) then
      some fun name => (names.zip items).lookup name
    else none
  | _ => none

def Dialect.name? (dialect : Dialect) : Json → Option String
  | text name => some name
  | object [(name, payload)] => if dialect.unit payload then some name else none
  | _ => none

def text? : Json → Option String
  | text value => some value
  | _ => none

def bool? : Json → Option Bool
  | bool value => some value
  | _ => none

def list? : Json → Option (List Json)
  | list items => some items
  | _ => none

def nat? : Json → Option Nat
  | number (.integer value _) => if 0 ≤ value then some value.toNat else none
  | _ => none

def orDefault {α : Type} (read : Json → Option α) (default : α) : Option Json → Option α
  | none => some default
  | some json => read json

def nullable {α : Type} (read : Json → Option α) : Option Json → Option (Option α)
  | none => some none
  | some null => some none
  | some json => (read json).map some

def required {α : Type} (read : Json → Option α) : Option Json → Option α
  | none => none
  | some json => read json

def listOf? {α : Type} (read : Json → Option α) (json : Json) : Option (List α) :=
  json.list?.bind fun items => items.mapM read

def any? (json : Json) : Option Value := some (Value.ofJson json)

end SearchFilter.Json
