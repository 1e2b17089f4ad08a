import SearchFilter.Bar.Error
import SearchFilter.Filter.Indices

/-! The clauses that the user picked. -/

namespace SearchFilter

inductive Click where
  | single
  | toggle
  | extend
deriving DecidableEq

structure Selection where
  indices : List Nat
  lastClicked : Option Nat
deriving DecidableEq

namespace Selection

def empty : Selection := ⟨[], none⟩

def contains (selection : Selection) (index : Nat) : Bool := selection.indices.contains index

def between (first second : Nat) : List Nat :=
  let low := min first second
  (List.range (max first second + 1 - low)).map (low + ·)

/-- The selection after a click. Without a clause clicked before, extending picks one clause. -/
def click (selection : Selection) (index : Nat) (how : Click) : Selection :=
  let indices := match how, selection.lastClicked with
    | .toggle, _ =>
      if selection.contains index then selection.indices.erase index
      else Indices.insert index selection.indices
    | .extend, some anchor => between anchor index
    | _, _ => [index]
  ⟨indices, some index⟩

def range (selection : Selection) : Except GroupError (Nat × Nat) :=
  if selection.indices.length < 2 then .error (.tooFewMembers selection.indices.length)
  else
    match Indices.span? selection.indices with
    | some span => .ok span
    | none => .error (.notAdjacent selection.indices)

end Selection

end SearchFilter
