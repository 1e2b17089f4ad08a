import SearchFilter.Bar.Selection
import SearchFilter.Bar.Separator
import SearchFilter.Bar.State
import SearchFilter.Json.Scan

/-!
The filter bar: clauses, groups of adjacent clauses, and a selection. Every change is checked before
it is made, and a change that is refused leaves the bar as it is. Groups are numbered by a counter
of 64 bits, which goes on with zero when it overflows.
-/

namespace SearchFilter

def Group.note (group : Group) (index : Nat) : GroupMark :=
  ⟨some group.id, group.first == some index, group.last == some index⟩

structure Bar where
  clauses : List Clause
  groups : List Group
  selection : Selection
  nextNumber : UInt64

namespace Bar

def empty : Bar := ⟨[], [], .empty, 1⟩

def state (bar : Bar) : State := ⟨bar.clauses, bar.groups⟩

def groupOf (bar : Bar) (index : Nat) : Option Group := groupAt bar.groups index

def markAt (groups : List Group) (index : Nat) : GroupMark :=
  match groupAt groups index with
  | some group => group.note index
  | none => .none

def marked (groups : List Group) (clauses : List Clause) : List Clause :=
  clauses.mapIdx fun index clause => { clause with mark := markAt groups index }

def noted (note : Nat → GroupMark) (indices : List Nat) (clauses : List Clause) : List Clause :=
  indices.foldl (fun clauses index =>
    clauses.modify index fun clause => { clause with mark := note index }) clauses

def cleared (indices : List Nat) (clauses : List Clause) : List Clause :=
  noted (fun _ => GroupMark.none) indices clauses

/-- The notes of one group after the other. A clause of several groups keeps that of the last. -/
def retagged (groups : List Group) (clauses : List Clause) : List Clause :=
  groups.foldl (fun clauses group => noted group.note group.indices clauses) clauses

def ordered (groups : List Group) : List Group :=
  Indices.sortBy (fun group => group.first.getD 0) groups

def idStem : String := "group-"

def idOf (number : UInt64) : String := idStem ++ Text.digits number.toNat

def spelled? (id : String) : Option Nat := do
  let rest ← Scan.after? idStem.toList id.toList
  let digits := match rest with
    | '+' :: digits => digits
    | digits => digits
  if !digits.isEmpty && digits.all Char.isDigit then some (Nat.ofDigitChars 10 digits 0) else none

def numberOf? (id : String) : Option Nat :=
  (spelled? id).filter fun number => number < 0x10000000000000000

def largestNumber (groups : List Group) : Nat :=
  (groups.filterMap fun group => numberOf? group.id).foldl max 0

/-- The number behind those that are counted, which is zero behind the largest of 64 bits. -/
def freshNumber (groups : List Group) : UInt64 := UInt64.ofNat (largestNumber groups) + 1

/-- The bar of a stored state, if its groups are valid. Notes of groups on the clauses are not
believed but made anew. -/
def load (state : State) : Except GroupError Bar :=
  match checkGroups state.clauses.length state.groups with
  | .error error => .error error
  | .ok () =>
    let groups := ordered (state.groups.map fun group =>
      { group with indices := Indices.distinct group.indices })
    .ok ⟨marked groups state.clauses, groups, .empty, freshNumber state.groups⟩

def clause (bar : Bar) (index : Nat) : Except GroupError Clause :=
  match bar.clauses[index]? with
  | some clause => .ok clause
  | none => .error (.indexOutOfRange index bar.clauses.length)

theorem clause_of_lt {bar : Bar} {index : Nat} (inside : index < bar.clauses.length) :
    bar.clause index = .ok bar.clauses[index] := by
  rw [clause, List.getElem?_eq_getElem inside]

theorem clause_of_le {bar : Bar} {index : Nat} (outside : bar.clauses.length ≤ index) :
    bar.clause index = .error (.indexOutOfRange index bar.clauses.length) := by
  rw [clause, List.getElem?_eq_none outside]

def push (bar : Bar) (clause : Clause) : Bar :=
  { bar with clauses := bar.clauses ++ [clause.unmarked] }

def shiftedUp (index : Nat) (group : Group) : Group :=
  { group with indices := group.indices.map fun member =>
      if index < member then member + 1 else member }

def shiftedDown (index : Nat) (group : Group) : Group :=
  { group with indices := (group.indices.filter (· ≠ index)).map fun member =>
      if index < member then member - 1 else member }

def insertAfter (bar : Bar) (index : Nat) (connector : Connector) : Except GroupError Bar :=
  (bar.clause index).bind fun _ =>
    let inserted : Bar :=
      { bar with
        clauses := bar.clauses.insertIdx (index + 1) (Clause.empty (some connector))
        groups := bar.groups.map (shiftedUp index)
        selection := .empty }
    match bar.groupOf index with
    | some group =>
      if group.last = some index then .ok inserted else .error (.splitsGroup index group.id)
    | none => .ok inserted

def update (bar : Bar) (index : Nat) (content : Clause) : Except GroupError Bar :=
  (bar.clause index).map fun current =>
    let kept := { content with connector := current.connector, mark := current.mark }
    { bar with clauses := bar.clauses.set index kept }

def setConnector (bar : Bar) (index : Nat) (connector : Connector) : Except GroupError Bar :=
  (bar.clause index).map fun current =>
    { bar with clauses := bar.clauses.set index { current with connector := some connector } }

def toggleDisabled (bar : Bar) (index : Nat) : Except GroupError Bar :=
  (bar.clause index).map fun current =>
    { bar with clauses := bar.clauses.set index { current with disabled := !current.disabled } }

def lowered (index : Nat) (group : Group) : Group :=
  { group with indices := Indices.distinct (shiftedDown index group).indices }

def survivors (groups : List Group) : List Group :=
  groups.filter fun group => 2 ≤ group.indices.length

def orphans (groups : List Group) : List Nat :=
  (groups.filter fun group => group.indices.length < 2).flatMap Group.indices

/-- The bar without a clause. A group that is left with fewer than two clauses is dissolved: its
clauses lose their notes before the other groups write theirs. -/
def remove (bar : Bar) (index : Nat) : Except GroupError Bar :=
  (bar.clause index).map fun _ =>
    let shifted := bar.groups.map (lowered index)
    let clauses := cleared (orphans shifted) (bar.clauses.eraseIdx index)
    { bar with
      clauses := retagged (survivors shifted) clauses
      groups := survivors shifted
      selection := .empty }

def select (bar : Bar) (index : Nat) (how : Click) : Except GroupError Bar :=
  (bar.clause index).map fun _ => { bar with selection := bar.selection.click index how }

def clearSelection (bar : Bar) : Bar := { bar with selection := .empty }

def meets (start stop : Nat) (group : Group) : Bool :=
  group.indices.any fun index => start ≤ index && index < stop

def detached (bar : Bar) (id : String) : Bar :=
  match bar.groups.find? fun group => group.id == id with
  | some group =>
    { bar with
      clauses := cleared group.indices bar.clauses
      groups := bar.groups.eraseP fun group => group.id == id }
  | none => bar

def createGroup (bar : Bar) (connector : Connector) : Except GroupError Bar :=
  bar.selection.range.bind fun (start, stop) =>
    if bar.clauses.length < stop then .error (.indexOutOfRange (stop - 1) bar.clauses.length)
    else
      let overlapping := (bar.groups.filter (meets start stop)).map Group.id
      let rest := overlapping.foldl detached bar
      let created : Group :=
        ⟨idOf bar.nextNumber, connector, (List.range (stop - start)).map (start + ·)⟩
      let groups := ordered (rest.groups ++ [created])
      .ok ⟨retagged groups rest.clauses, groups, .empty, bar.nextNumber + 1⟩

def group (bar : Bar) (id : String) : Except GroupError Group :=
  match bar.groups.find? fun group => group.id == id with
  | some group => .ok group
  | none => .error (.groupNotFound id)

def removeGroup (bar : Bar) (id : String) : Except GroupError Bar :=
  (bar.group id).map fun _ => bar.detached id

def reload (bar : Bar) : Except GroupError Bar := load bar.state

def separators (bar : Bar) : List Separator := SearchFilter.separators bar.clauses bar.groups

end Bar

end SearchFilter
