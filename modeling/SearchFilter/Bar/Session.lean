import SearchFilter.Bar.InPlace

/-!
Sessions with a filter bar. A change checks and writes one thing after the other, and what it wrote
stays when it is refused afterwards. A change that reaches for a clause that does not exist has no
result.
-/

namespace SearchFilter

abbrev Change := ExceptT GroupError (StateT Bar Option)

namespace Change

open Bar

variable {α β : Type}

def run (change : Change α) (bar : Bar) : Option (Except GroupError α × Bar) :=
  StateT.run (ExceptT.run change) bar

@[simp] theorem run_pure (value : α) (bar : Bar) :
    run (pure value) bar = some (.ok value, bar) := rfl

@[simp] theorem run_throw (error : GroupError) (bar : Bar) :
    run (throw error : Change α) bar = some (.error error, bar) := rfl

@[simp] theorem run_get (bar : Bar) : run get bar = some (.ok bar, bar) := rfl

@[simp] theorem run_set (next bar : Bar) : run (set next) bar = some (.ok (), next) := rfl

@[simp] theorem run_modify (change : Bar → Bar) (bar : Bar) :
    run (modify change) bar = some (.ok (), change bar) := rfl

@[simp] theorem run_bind (first : Change α) (next : α → Change β) (bar : Bar) :
    run (first >>= next) bar =
      match run first bar with
      | some (.ok value, left) => run (next value) left
      | some (.error error, left) => some (.error error, left)
      | none => none := by
  rw [run, ExceptT.run_bind, StateT.run_bind]
  change Option.bind (run first bar) _ = _
  cases run first bar with
  | none => rfl
  | some settled =>
      obtain ⟨result, left⟩ := settled
      cases result <;> rfl

@[simp] theorem run_map (made : α → β) (change : Change α) (bar : Bar) :
    run (made <$> change) bar =
      (run change bar).map fun (result, left) => (result.map made, left) := by
  rw [← bind_pure_comp, run_bind]
  cases run change bar with
  | none => rfl
  | some settled =>
      obtain ⟨result, left⟩ := settled
      cases result <;> rfl

@[simp] theorem run_lift (value : Option α) (bar : Bar) :
    run (liftM value : Change α) bar = value.map fun value => (.ok value, bar) := by
  cases value <;> rfl

@[simp] theorem run_liftExcept (value : Except GroupError α) (bar : Bar) :
    run (liftExcept value : Change α) bar = some (value, bar) := by
  cases value <;> rfl

/-! Steps that changes share. -/

def checkIndex (index : Nat) : Change Unit := do
  let bar ← get
  if index < bar.clauses.length then return ()
  else throw (.indexOutOfRange index bar.clauses.length)

theorem run_checkIndex (index : Nat) (bar : Bar) :
    run (checkIndex index) bar =
      some (if index < bar.clauses.length then .ok ()
        else .error (.indexOutOfRange index bar.clauses.length), bar) := by
  rw [checkIndex, run_bind]
  by_cases inside : index < bar.clauses.length <;> simp [inside]

def write (change : List Clause → Option (List Clause)) : Change Unit := do
  let bar ← get
  let clauses ← change bar.clauses
  set { bar with clauses }

@[simp] theorem run_write (change : List Clause → Option (List Clause)) (bar : Bar) :
    run (write change) bar =
      (change bar.clauses).map fun clauses => (.ok (), { bar with clauses }) := by
  rw [write, run_bind]
  cases made : change bar.clauses <;> simp [made]

def regroup (change : List Group → List Group) : Change Unit :=
  modify fun bar => { bar with groups := change bar.groups }

@[simp] theorem run_regroup (change : List Group → List Group) (bar : Bar) :
    run (regroup change) bar = some (.ok (), { bar with groups := change bar.groups }) := rfl

def retag : Change Unit := do
  let bar ← get
  write (retagged? bar.groups)

@[simp] theorem run_retag (bar : Bar) :
    run retag bar =
      (retagged? bar.groups bar.clauses).map fun clauses => (.ok (), { bar with clauses }) := by
  simp [retag]

def unselect : Change Unit := modify clearSelection

def detach (id : String) : Change (Option Group) := do
  let bar ← get
  set (bar.detached id)
  return bar.groups.find? fun group => group.id == id

@[simp] theorem run_detach (id : String) (bar : Bar) :
    run (detach id) bar =
      some (.ok (bar.groups.find? fun group => group.id == id), bar.detached id) := rfl

/-! Changes. -/

def push (clause : Clause) : Change Answer := do
  write fun clauses => some (clauses ++ [clause.unmarked])
  let bar ← get
  return .index (bar.clauses.length - 1)

def insertAfter (index : Nat) (connector : Connector) : Change Answer := do
  checkIndex index
  let bar ← get
  match (bar.groupOf index).filter fun group => group.last ≠ some index with
  | some group => throw (.splitsGroup index group.id)
  | none =>
    write (inserted? · (index + 1) (Clause.empty (some connector)))
    regroup fun groups => groups.map (shiftedUp index)
    unselect
    return .index (index + 1)

def edit (index : Nat) (change : Clause → Clause) : Change Unit := do
  checkIndex index
  write (edited? change · index)

def toggleDisabled (index : Nat) : Change Answer := do
  edit index fun current => { current with disabled := !current.disabled }
  let bar ← get
  let clause ← bar.clauses[index]?
  return .flag clause.disabled

def remove (index : Nat) : Change Answer := do
  checkIndex index
  let bar ← get
  let shifted := bar.groups.map (lowered index)
  let removed ← bar.clauses[index]?
  write (erased? · index)
  regroup fun _ => survivors shifted
  write (noted? (fun _ => GroupMark.none) (orphans shifted))
  retag
  unselect
  return .clause removed

def select (index : Nat) (how : Click) : Change Unit := do
  checkIndex index
  modify fun bar => { bar with selection := bar.selection.click index how }

def createGroup (connector : Connector) : Change Answer := do
  let bar ← get
  let (start, stop) ← (liftExcept bar.selection.range)
  if bar.clauses.length < stop then throw (.indexOutOfRange (stop - 1) bar.clauses.length)
  else
    ((bar.groups.filter (meets start stop)).map Group.id).forM fun id => discard (detach id)
    -- Detaching groups does not give back their numbers.
    let number := bar.nextNumber
    modify fun bar => { bar with nextNumber := number + 1 }
    regroup fun groups =>
      ordered (groups ++ [⟨idOf number, connector, (List.range (stop - start)).map (start + ·)⟩])
    retag
    unselect
    return .id (idOf number)

/-- The group is taken from the bar before it is known whether there was one. -/
def removeGroup (id : String) : Change Answer := do
  match ← detach id with
  | some group => return .group group
  | none => throw (.groupNotFound id)

def reload : Change Unit := do
  let bar ← get
  match ← loadInPlace? bar.state with
  | .ok loaded => set loaded
  | .error error => throw error

def attempt : Action → Change Answer
  | .push clause => push clause
  | .insertAfter index connector => insertAfter index connector
  | .update index content => do
    edit index fun current =>
      { content with connector := current.connector, mark := current.mark }
    return .done
  | .setConnector index connector => do
    edit index fun current => { current with connector := some connector }
    return .done
  | .toggleDisabled index => toggleDisabled index
  | .remove index => remove index
  | .select index how => do
    select index how
    return .done
  | .clearSelection => do
    unselect
    return .done
  | .createGroup connector => createGroup connector
  | .removeGroup id => removeGroup id
  | .reload => do
    reload
    return .done

end Change

def Bar.session (bar : Bar) : List Action → Option (List (Except GroupError Answer) × Bar)
  | [] => some ([], bar)
  | action :: actions => do
    let (result, left) ← (Change.attempt action).run bar
    let (results, last) ← left.session actions
    some (result :: results, last)

end SearchFilter
