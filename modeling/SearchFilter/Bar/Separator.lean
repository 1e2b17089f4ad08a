import SearchFilter.Filter.Clause

/-! What is drawn between adjacent clauses. -/

namespace SearchFilter

structure Separator where
  connector : Connector
  /-- The two clauses lie on different sides of the edge of a group. -/
  isBoundary : Bool
  group : Option String
deriving DecidableEq

def groupAt (groups : List Group) (index : Nat) : Option Group :=
  groups.find? fun group => group.contains index

def Separator.of (before after : Option Group) (clause : Clause) : Separator :=
  let edge : Separator :=
    ⟨clause.effectiveConnector, before.isSome || after.isSome, none⟩
  match before, after with
  | some left, some right => if left.id = right.id then ⟨left.connector, false, left.id⟩ else edge
  | _, _ => edge

def separatorsFrom (groups : List Group) (index : Nat) : List Clause → List Separator
  | _ :: second :: rest =>
    Separator.of (groupAt groups index) (groupAt groups (index + 1)) second ::
      separatorsFrom groups (index + 1) (second :: rest)
  | _ => []

def separators (clauses : List Clause) (groups : List Group) : List Separator :=
  separatorsFrom groups 0 clauses

theorem length_separatorsFrom (groups : List Group) (index : Nat) (clauses : List Clause) :
    (separatorsFrom groups index clauses).length = clauses.length - 1 := by
  induction clauses generalizing index with
  | nil => rfl
  | cons first rest ih =>
    cases rest with
    | nil => rfl
    | cons second rest => simpa [separatorsFrom] using ih (index + 1)

def Separator.toJson (separator : Separator) : Json :=
  .object ([("connectorType", .text separator.connector.name)] ++
    Json.optional "groupId" (separator.group.map Json.text) ++
    [("isGroupBoundary", .bool separator.isBoundary)])

end SearchFilter
