import SearchFilter.Bar.Action
import SearchFilter.Proofs.Bar.Acceptance

/-!
When the changes of a bar are made, and what they make. Each lemma says all that a change can do.
-/

namespace SearchFilter.Bar

variable {bar next : Bar} {index : Nat}

theorem clause_map_eq_ok_iff {change : Clause → Bar} :
    (bar.clause index).map change = .ok next ↔
      ∃ current, bar.clauses[index]? = some current ∧ change current = next := by
  rw [clause]
  cases bar.clauses[index]? <;> simp [Except.map]

theorem insertAfter_eq_ok_iff {connector : Connector} :
    bar.insertAfter index connector = .ok next ↔
      index < bar.clauses.length ∧
        (∀ group, bar.groupOf index = some group → group.last = some index) ∧
        next = { bar with
          clauses := bar.clauses.insertIdx (index + 1) (Clause.empty (some connector))
          groups := bar.groups.map (shiftedUp index)
          selection := .empty } := by
  rw [insertAfter]
  by_cases inside : index < bar.clauses.length
  · rw [clause_of_lt inside]
    cases bar.groupOf index with
    | none => simp [Except.bind, inside, eq_comm (b := next)]
    | some group =>
        by_cases last : group.last = some index <;>
          simp [Except.bind, inside, last, eq_comm (b := next)]
  · rw [clause_of_le (Nat.le_of_not_lt inside)]
    simp [Except.bind, inside]

def without (bar : Bar) (index : Nat) : Bar :=
  let shifted := bar.groups.map (lowered index)
  { bar with
    clauses := retagged (survivors shifted) (cleared (orphans shifted) (bar.clauses.eraseIdx index))
    groups := survivors shifted
    selection := .empty }

theorem remove_of_lt (inside : index < bar.clauses.length) :
    bar.remove index = .ok (bar.without index) := by
  rw [remove, clause_of_lt inside]
  rfl

theorem remove_eq_ok_iff :
    bar.remove index = .ok next ↔ index < bar.clauses.length ∧ next = bar.without index := by
  by_cases inside : index < bar.clauses.length
  · rw [remove_of_lt inside]
    simp [inside, eq_comm]
  · rw [remove, clause_of_le (Nat.le_of_not_lt inside)]
    simp [inside, Except.map]

theorem createGroup_eq_ok_iff {connector : Connector} :
    bar.createGroup connector = .ok next ↔
      ∃ start stop, bar.selection.range = .ok (start, stop) ∧ stop ≤ bar.clauses.length ∧
        let created : Group :=
          ⟨idOf bar.nextNumber, connector, (List.range (stop - start)).map (start + ·)⟩
        let rest := ((bar.groups.filter (meets start stop)).map Group.id).foldl detached bar
        let groups := ordered (rest.groups ++ [created])
        next = ⟨retagged groups rest.clauses, groups, .empty, bar.nextNumber + 1⟩ := by
  rw [createGroup]
  cases found : bar.selection.range with
  | error error => simp [Except.bind]
  | ok range =>
      obtain ⟨start, stop⟩ := range
      by_cases beyond : bar.clauses.length < stop
      · simp [Except.bind, beyond]
      · simp [Except.bind, beyond, Nat.le_of_not_lt beyond, eq_comm (b := next)]

theorem ne_id_of_find?_eq_none {groups : List Group} {id : String}
    (none : (groups.find? fun group => group.id == id) = none) :
    ∀ group ∈ groups, group.id ≠ id := by
  simpa using none

theorem mem_of_find?_id {groups : List Group} {id : String} {group : Group}
    (found : (groups.find? fun group => group.id == id) = some group) :
    group ∈ groups ∧ group.id = id :=
  ⟨List.mem_of_find?_eq_some found, by simpa using List.find?_some found⟩

theorem removeGroup_eq_ok_iff {id : String} :
    bar.removeGroup id = .ok next ↔
      (∃ group ∈ bar.groups, group.id = id) ∧ next = bar.detached id := by
  rw [removeGroup, group]
  cases found : bar.groups.find? fun group => group.id == id with
  | none =>
      have absent := ne_id_of_find?_eq_none found
      simpa [Except.map] using fun group member same => absurd same (absent group member)
  | some group =>
      have present : ∃ group ∈ bar.groups, group.id = id := ⟨group, mem_of_find?_id found⟩
      simp [Except.map, present, eq_comm (b := next)]

theorem load_eq_ok_iff {state : State} :
    load state = .ok next ↔
      ((state.groups.map Group.id).Nodup ∧
          (∀ group ∈ state.groups, group.sorted.IsRun state.clauses.length) ∧
          state.groups.Pairwise Group.Apart) ∧
        let groups := ordered (state.groups.map Group.sorted)
        next = ⟨marked groups state.clauses, groups, .empty, freshNumber state.groups⟩ := by
  rw [load, ← checkGroups_ok_iff]
  cases checkGroups state.clauses.length state.groups with
  | error error => simp
  | ok accepted =>
      simp only [true_and, Except.ok.injEq]
      exact eq_comm

end SearchFilter.Bar
