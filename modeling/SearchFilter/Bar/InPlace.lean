import SearchFilter.Bar.Action

/-!
The changes of a bar as they are made in place. Every access to a clause is checked: a change that
reaches for one that does not exist has no result.
-/

namespace SearchFilter

namespace Bar

/-! Clauses. -/

def inserted? (clauses : List Clause) (index : Nat) (clause : Clause) : Option (List Clause) :=
  if index ≤ clauses.length then some (clauses.insertIdx index clause) else none

def erased? (clauses : List Clause) (index : Nat) : Option (List Clause) :=
  if index < clauses.length then some (clauses.eraseIdx index) else none

def edited? (change : Clause → Clause) (clauses : List Clause) (index : Nat) :
    Option (List Clause) :=
  if index < clauses.length then some (clauses.modify index change) else none

def noted? (note : Nat → GroupMark) (indices : List Nat) (clauses : List Clause) :
    Option (List Clause) :=
  indices.foldlM (fun clauses index =>
    edited? (fun clause => { clause with mark := note index }) clauses index) clauses

def retagged? (groups : List Group) (clauses : List Clause) : Option (List Clause) :=
  groups.foldlM (fun clauses group => noted? group.note group.indices clauses) clauses

/-! Changes. -/

def checked (bar : Bar) (index : Nat) (next : Option (Except GroupError Bar)) :
    Option (Except GroupError Bar) :=
  if index < bar.clauses.length then next
  else some (.error (.indexOutOfRange index bar.clauses.length))

def edit? (bar : Bar) (index : Nat) (change : Clause → Clause) : Option (Except GroupError Bar) :=
  bar.checked index do
    let clauses ← edited? change bar.clauses index
    some (.ok { bar with clauses })

def insertInPlace? (bar : Bar) (index : Nat) (connector : Connector) :
    Option (Except GroupError Bar) :=
  bar.checked index <|
    match (bar.groupOf index).filter fun group => group.last ≠ some index with
    | some group => some (.error (.splitsGroup index group.id))
    | none => do
      let clauses ← inserted? bar.clauses (index + 1) (Clause.empty (some connector))
      some (.ok { bar with
        clauses, groups := bar.groups.map (shiftedUp index), selection := .empty })

def removeInPlace? (bar : Bar) (index : Nat) : Option (Except GroupError Bar) :=
  bar.checked index do
    let shifted := bar.groups.map (lowered index)
    let clauses ← erased? bar.clauses index
    let clauses ← noted? (fun _ => GroupMark.none) (orphans shifted) clauses
    let clauses ← retagged? (survivors shifted) clauses
    some (.ok { bar with clauses, groups := survivors shifted, selection := .empty })

def createInPlace? (bar : Bar) (connector : Connector) : Option (Except GroupError Bar) :=
  match bar.selection.range with
  | .error error => some (.error error)
  | .ok (start, stop) =>
    if bar.clauses.length < stop then
      some (.error (.indexOutOfRange (stop - 1) bar.clauses.length))
    else do
      let overlapping := (bar.groups.filter (meets start stop)).map Group.id
      let rest := overlapping.foldl detached bar
      let created : Group :=
        ⟨idOf bar.nextNumber, connector, (List.range (stop - start)).map (start + ·)⟩
      let groups := ordered (rest.groups ++ [created])
      let clauses ← retagged? groups rest.clauses
      some (.ok ⟨clauses, groups, .empty, bar.nextNumber + 1⟩)

def loadInPlace? (state : State) : Option (Except GroupError Bar) :=
  match checkGroups state.clauses.length state.groups with
  | .error error => some (.error error)
  | .ok () => do
    let groups := ordered (state.groups.map fun group =>
      { group with indices := Indices.distinct group.indices })
    let clauses ← retagged? groups (state.clauses.map Clause.unmarked)
    some (.ok ⟨clauses, groups, .empty, freshNumber state.groups⟩)

def performInPlace? (bar : Bar) : Action → Option (Except GroupError Bar)
  | .push clause => some (.ok (bar.push clause))
  | .insertAfter index connector => bar.insertInPlace? index connector
  | .update index content => bar.edit? index fun current =>
    { content with connector := current.connector, mark := current.mark }
  | .setConnector index connector => bar.edit? index fun current =>
    { current with connector := some connector }
  | .toggleDisabled index => bar.edit? index fun current =>
    { current with disabled := !current.disabled }
  | .remove index => bar.removeInPlace? index
  | .select index how => bar.checked index <|
    some (.ok { bar with selection := bar.selection.click index how })
  | .clearSelection => some (.ok bar.clearSelection)
  | .createGroup connector => bar.createInPlace? connector
  | .removeGroup id => some (bar.removeGroup id)
  | .reload => loadInPlace? bar.state

end Bar

end SearchFilter
