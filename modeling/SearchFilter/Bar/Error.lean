import SearchFilter.Text.Digits

/-! Why a change of the filter bar, or the loading of a stored one, is refused. -/

namespace SearchFilter

inductive GroupError where
  | tooFewMembers (count : Nat)
  | notAdjacent (indices : List Nat)
  | indexOutOfRange (index count : Nat)
  | groupNotFound (id : String)
  | splitsGroup (index : Nat) (id : String)
  | duplicateGroup (id : String)
  | sharedClause (index : Nat)
deriving DecidableEq

open Text

def GroupError.message : GroupError → String
  | tooFewMembers count => "A group needs at least 2 clauses, got " ++ digits count
  | notAdjacent indices => "Grouped clauses must be adjacent, got indices " ++ bracketed indices
  | indexOutOfRange index count =>
    "Clause index " ++ digits index ++ " is out of range (filter bar has " ++ digits count ++
      " clauses)"
  | groupNotFound id => "No group with id '" ++ id ++ "'"
  | splitsGroup index id =>
    "Inserting after clause " ++ digits index ++ " would split group '" ++ id ++ "'"
  | duplicateGroup id => "Invalid filter bar state: duplicate group id '" ++ id ++ "'"
  | sharedClause index =>
    "Invalid filter bar state: clause " ++ digits index ++ " belongs to more than one group"

end SearchFilter
