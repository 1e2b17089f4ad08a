import SearchFilter.Proofs.Bar.Regrouping

/-!
Groups and selection hold clauses that exist, in every run and behind an overflow of the counter
too. So no change in place reaches for a clause that does not exist.
-/

namespace SearchFilter.Bar

structure InBounds (bar : Bar) : Prop where
  members : ∀ group ∈ bar.groups, ∀ index ∈ group.indices, index < bar.clauses.length
  selection : bar.selection.Within bar.clauses.length

variable {bar next : Bar} {index : Nat}

theorem Sound.inBounds (sound : bar.Sound) : bar.InBounds := ⟨sound.bounded, sound.selection⟩

/-! One change. -/

theorem InBounds.push (bounded : bar.InBounds) (clause : Clause) : (bar.push clause).InBounds := by
  have grown : bar.clauses.length ≤ (bar.push clause).clauses.length := by
    simp [Bar.push]
  exact ⟨fun group member index inside =>
    Nat.lt_of_lt_of_le (bounded.members group member index inside) grown,
    bounded.selection.mono grown⟩

theorem InBounds.insertAfter {connector : Connector} (bounded : bar.InBounds)
    (done : bar.insertAfter index connector = .ok next) : next.InBounds := by
  obtain ⟨inside, -, rfl⟩ := insertAfter_eq_ok_iff.mp done
  have length : (bar.clauses.insertIdx (index + 1) (Clause.empty (some connector))).length =
      bar.clauses.length + 1 :=
    List.length_insertIdx_of_le_length inside _
  refine ⟨?_, .empty _⟩
  intro moved member place belongs
  obtain ⟨group, groupMember, rfl⟩ := List.mem_map.mp member
  obtain ⟨old, holds, same⟩ := Group.mem_shiftedUp.mp belongs
  have bound := bounded.members group groupMember old holds
  rw [length]
  split at same <;> omega

theorem InBounds.edit {change : Clause → Clause} (bounded : bar.InBounds)
    (done : (bar.clause index).map (fun current =>
      { bar with clauses := bar.clauses.set index (change current) }) = .ok next) :
    next.InBounds := by
  obtain ⟨current, -, rfl⟩ := clause_map_eq_ok_iff.mp done
  have length : (bar.clauses.set index (change current)).length = bar.clauses.length :=
    List.length_set
  exact ⟨length.symm ▸ bounded.members, length.symm ▸ bounded.selection⟩

theorem length_without (inside : index < bar.clauses.length) :
    (bar.without index).clauses.length = bar.clauses.length - 1 := by
  rw [without, length_retagged, cleared, length_noted, List.length_eraseIdx_of_lt inside]

theorem InBounds.lt_lowered (bounded : bar.InBounds) (inside : index < bar.clauses.length) :
    ∀ shifted ∈ bar.groups.map (lowered index), ∀ place ∈ shifted.indices,
      place < bar.clauses.length - 1 := by
  intro shifted member place belongs
  obtain ⟨group, groupMember, rfl⟩ := List.mem_map.mp member
  have holds := mem_lowered.mp belongs
  have bound := bounded.members group groupMember _ holds
  split at bound <;> omega

theorem InBounds.without (bounded : bar.InBounds) (inside : index < bar.clauses.length) :
    (bar.without index).InBounds := by
  refine ⟨?_, .empty _⟩
  intro shifted member place belongs
  rw [length_without inside]
  exact bounded.lt_lowered inside shifted (mem_survivors.mp member).1 place belongs

theorem InBounds.select {how : Click} (bounded : bar.InBounds)
    (done : bar.select index how = .ok next) : next.InBounds := by
  obtain ⟨current, found, rfl⟩ := clause_map_eq_ok_iff.mp done
  have inside := (List.getElem?_eq_some_iff.mp found).1
  exact ⟨bounded.members, bounded.selection.click inside how⟩

theorem InBounds.detached (bounded : bar.InBounds) (id : String) : (bar.detached id).InBounds := by
  have length := length_detached bar id
  constructor
  · intro group member
    rw [length]
    exact bounded.members group ((detached_groups_sublist bar id).subset member)
  · rw [length, detached_eq]
    exact bounded.selection

theorem InBounds.foldl_detached (bounded : bar.InBounds) (ids : List String) :
    (ids.foldl Bar.detached bar).InBounds ∧
      (ids.foldl Bar.detached bar).clauses.length = bar.clauses.length := by
  induction ids generalizing bar with
  | nil => exact ⟨bounded, rfl⟩
  | cons id rest ih =>
      obtain ⟨restBounded, length⟩ := ih (bounded.detached id)
      exact ⟨restBounded, length.trans (length_detached bar id)⟩

theorem InBounds.lt_created (bounded : bar.InBounds) {start stop : Nat}
    (bound : stop ≤ bar.clauses.length) (ids : List String) (id : String) (connector : Connector) :
    let rest := ids.foldl Bar.detached bar
    ∀ group ∈ ordered (rest.groups ++ [⟨id, connector, (List.range (stop - start)).map (start + ·)⟩]),
      ∀ index ∈ group.indices, index < rest.clauses.length := by
  obtain ⟨restBounded, length⟩ := bounded.foldl_detached ids
  intro rest group member index inside
  rcases List.mem_append.mp (mem_ordered.mp member) with old | new
  · exact restBounded.members group old index inside
  · rw [List.mem_singleton.mp new, ← List.range'_eq_map_range, List.mem_range'_1] at inside
    rw [length]
    omega

theorem InBounds.createGroup {connector : Connector} (bounded : bar.InBounds)
    (done : bar.createGroup connector = .ok next) : next.InBounds := by
  obtain ⟨start, stop, -, bound, rfl⟩ := createGroup_eq_ok_iff.mp done
  refine ⟨?_, .empty _⟩
  dsimp only
  rw [length_retagged]
  exact bounded.lt_created bound _ _ _

theorem InBounds.perform {action : Action} (bounded : bar.InBounds)
    (done : bar.perform action = .ok next) : next.InBounds := by
  cases action with
  | push clause => exact Except.ok.inj done ▸ bounded.push clause
  | insertAfter index connector => exact bounded.insertAfter done
  | update index content | setConnector index connector | toggleDisabled index =>
      exact bounded.edit done
  | remove index =>
      obtain ⟨inside, rfl⟩ := remove_eq_ok_iff.mp done
      exact bounded.without inside
  | select index how => exact bounded.select done
  | clearSelection => exact Except.ok.inj done ▸ ⟨bounded.members, .empty _⟩
  | createGroup connector => exact bounded.createGroup done
  | removeGroup id =>
      obtain ⟨-, rfl⟩ := removeGroup_eq_ok_iff.mp done
      exact bounded.detached id
  | reload => exact (load_sound done).inBounds

theorem InBounds.after (bounded : bar.InBounds) (action : Action) : (bar.after action).InBounds := by
  rw [Bar.after]
  cases done : bar.perform action with
  | error error => exact bounded
  | ok next => exact bounded.perform done

theorem InBounds.run (bounded : bar.InBounds) (actions : List Action) :
    (bar.run actions).InBounds := by
  induction actions generalizing bar with
  | nil => exact bounded
  | cons action actions ih => exact ih (bounded.after action)

/-! Changes in place. -/

theorem checked_eq {next : Option (Except GroupError Bar)} {change : Clause → Bar}
    (made : ∀ current, bar.clauses[index]? = some current → next = some (.ok (change current))) :
    bar.checked index next = some ((bar.clause index).map change) := by
  rw [checked]
  by_cases inside : index < bar.clauses.length
  · rw [if_pos inside, clause_of_lt inside, made _ (List.getElem?_eq_getElem inside)]
    rfl
  · rw [if_neg inside, clause_of_le (Nat.le_of_not_lt inside)]
    rfl

theorem edit?_eq (bar : Bar) (index : Nat) (change : Clause → Clause) :
    bar.edit? index change = some ((bar.clause index).map fun current =>
      { bar with clauses := bar.clauses.set index (change current) }) := by
  refine checked_eq ?_
  intro current present
  obtain ⟨inside, here⟩ := List.getElem?_eq_some_iff.mp present
  have same : bar.clauses.modify index change = bar.clauses.set index (change current) := by
    rw [List.modify_eq_set_getElem?, present]
    rfl
  rw [edited?, if_pos inside, same]
  rfl

theorem insertInPlace?_eq (bar : Bar) (index : Nat) (connector : Connector) :
    bar.insertInPlace? index connector = some (bar.insertAfter index connector) := by
  rw [insertInPlace?, checked, insertAfter]
  by_cases inside : index < bar.clauses.length
  · have room : index + 1 ≤ bar.clauses.length := inside
    rw [if_pos inside, clause_of_lt inside, inserted?, if_pos room]
    cases bar.groupOf index with
    | none => rfl
    | some group =>
        by_cases last : group.last = some index
        · rw [Option.filter_some, if_neg (by simpa using last)]
          simp [Except.bind, last]
        · rw [Option.filter_some, if_pos (by simpa using last)]
          simp [Except.bind, last]
  · rw [if_neg inside, clause_of_le (Nat.le_of_not_lt inside)]
    rfl

theorem removeInPlace?_eq (bounded : bar.InBounds) (index : Nat) :
    bar.removeInPlace? index = some (bar.remove index) := by
  refine checked_eq ?_
  intro removed present
  have inside := (List.getElem?_eq_some_iff.mp present).1
  have length := List.length_eraseIdx_of_lt inside
  have below := bounded.lt_lowered inside
  have lost : ∀ place ∈ orphans (bar.groups.map (lowered index)),
      place < (bar.clauses.eraseIdx index).length := by
    intro place member
    obtain ⟨shifted, shiftedMember, -, belongs⟩ := mem_orphans.mp member
    rw [length]
    exact below shifted shiftedMember place belongs
  have kept : ∀ shifted ∈ survivors (bar.groups.map (lowered index)),
      ∀ place ∈ shifted.indices, place < (cleared (orphans (bar.groups.map (lowered index)))
        (bar.clauses.eraseIdx index)).length := by
    intro shifted member place belongs
    rw [cleared, length_noted, length]
    exact below shifted (mem_survivors.mp member).1 place belongs
  dsimp only
  rw [erased?, if_pos inside]
  change (noted? _ _ _).bind _ = _
  rw [noted?_eq lost, ← cleared, Option.bind_some]
  change (retagged? _ _).bind _ = _
  rw [retagged?_eq kept, Option.bind_some]

theorem createInPlace?_eq (bounded : bar.InBounds) (connector : Connector) :
    bar.createInPlace? connector = some (bar.createGroup connector) := by
  rw [createInPlace?, createGroup]
  cases range : bar.selection.range with
  | error error => rfl
  | ok span =>
      obtain ⟨start, stop⟩ := span
      by_cases beyond : bar.clauses.length < stop
      · simp [beyond, Except.bind]
      · dsimp only [Except.bind]
        rw [if_neg beyond, if_neg beyond]
        change (retagged? _ _).bind _ = _
        rw [retagged?_eq (bounded.lt_created (Nat.le_of_not_lt beyond) _ _ _), Option.bind_some]

theorem loadInPlace?_eq (state : State) : loadInPlace? state = some (load state) := by
  cases checked : checkGroups state.clauses.length state.groups with
  | error error =>
      rw [loadInPlace?, load, checked]
  | ok accepted =>
      have loaded : load state = .ok _ :=
        load_eq_ok_iff.mpr ⟨checkGroups_ok_iff.mp checked, rfl⟩
      have sound := load_sound loaded
      have bounded := sound.bounded
      dsimp only at bounded
      rw [length_marked, ← List.length_map Clause.unmarked] at bounded
      have clear : ∀ index clause, (state.clauses.map Clause.unmarked)[index]? = some clause →
          (∀ group ∈ ordered (state.groups.map Group.sorted), index ∉ group.indices) →
          clause.mark = GroupMark.none := by
        intro index clause present _
        rw [List.getElem?_map] at present
        obtain ⟨old, -, rfl⟩ := Option.map_eq_some_iff.mp present
        rfl
      rw [loadInPlace?, checked, loaded]
      change (retagged? (ordered (state.groups.map Group.sorted)) _).bind _ = _
      rw [retagged?_eq bounded, retagged_eq_marked sound.arranged.apart clear, marked_unmarked]
      rfl

theorem performInPlace?_eq (bounded : bar.InBounds) (action : Action) :
    bar.performInPlace? action = some (bar.perform action) := by
  cases action with
  | push clause => rfl
  | insertAfter index connector => exact insertInPlace?_eq bar index connector
  | update index content => exact edit?_eq bar index _
  | setConnector index connector => exact edit?_eq bar index _
  | toggleDisabled index => exact edit?_eq bar index _
  | remove index => exact removeInPlace?_eq bounded index
  | select index how => exact checked_eq fun _ _ => rfl
  | clearSelection => rfl
  | createGroup connector => exact createInPlace?_eq bounded connector
  | removeGroup id => rfl
  | reload => exact loadInPlace?_eq bar.state

end SearchFilter.Bar
