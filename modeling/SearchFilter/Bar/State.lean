import SearchFilter.Bar.Error
import SearchFilter.Filter.Clause
import SearchFilter.Filter.Indices
import SearchFilter.Json5.Parser

/-! The part of a filter bar that is stored, its written form, and when its groups are valid. -/

namespace SearchFilter

structure State where
  clauses : List Clause
  groups : List Group

namespace State

def fieldNames : List String := ["clauses", "groups"]

def toJson (state : State) : Json :=
  .object [("clauses", .list (state.clauses.map Clause.toJson)),
    ("groups", .list (state.groups.map Group.toJson))]

def toText (state : State) : String := state.toJson.compact

def ofJson? (dialect : Json.Dialect) (json : Json) : Option State := do
  let part ← dialect.record? fieldNames json
  let clauses ← Json.orDefault (Json.listOf? (Clause.ofJson? dialect)) [] (part "clauses")
  let groups ← Json.orDefault (Json.listOf? (Group.ofJson? dialect)) [] (part "groups")
  some ⟨clauses, groups⟩

def ofText? (source : String) : Option State := (Json5.parse? source).bind (ofJson? .json5)

end State

def checkGroupsFrom (count : Nat) (ids : List String) (covered : List Nat) :
    List Group → Except GroupError Unit
  | [] => .ok ()
  | group :: rest =>
    let indices := Indices.distinct group.indices
    if ids.contains group.id then .error (.duplicateGroup group.id)
    else if indices.length < 2 then .error (.tooFewMembers indices.length)
    else
      match indices.find? (count ≤ ·) with
      | some index => .error (.indexOutOfRange index count)
      | none =>
        if (Indices.span? indices).isNone then .error (.notAdjacent indices)
        else
          match indices.find? covered.contains with
          | some index => .error (.sharedClause index)
          | none => checkGroupsFrom count (group.id :: ids) (indices ++ covered) rest

def checkGroups (count : Nat) (groups : List Group) : Except GroupError Unit :=
  checkGroupsFrom count [] [] groups

end SearchFilter
