import SearchFilter.Proofs.Bar.Marks

/-!
Notes written in place, clause by clause. Within the clauses every write succeeds, and when groups
are apart the notes are afterwards those that the groups call for.
-/

namespace SearchFilter.Bar

variable {groups : List Group} {clauses : List Clause} {index : Nat}

/-! The notes of one group. -/

theorem getElem?_noted (note : Nat → GroupMark) (indices : List Nat) (clauses : List Clause)
    (index : Nat) :
    (noted note indices clauses)[index]? = clauses[index]?.map fun clause =>
      { clause with mark := if index ∈ indices then note index else clause.mark } := by
  induction indices generalizing clauses with
  | nil =>
      rw [noted, List.foldl_nil]
      cases clauses[index]? <;> rfl
  | cons first rest ih =>
      rw [noted, List.foldl_cons, ← noted, ih, List.getElem?_modify]
      cases clauses[index]? with
      | none => rfl
      | some clause =>
          by_cases here : first = index
          · subst here
            by_cases again : first ∈ rest <;> simp [again]
          · simp [here, Ne.symm here]

theorem length_noted (note : Nat → GroupMark) (indices : List Nat) (clauses : List Clause) :
    (noted note indices clauses).length = clauses.length := by
  induction indices generalizing clauses with
  | nil => rfl
  | cons first rest ih =>
      rw [noted, List.foldl_cons, ← noted, ih, List.length_modify]

theorem noted?_eq {note : Nat → GroupMark} {indices : List Nat}
    (inside : ∀ index ∈ indices, index < clauses.length) :
    noted? note indices clauses = some (noted note indices clauses) := by
  induction indices generalizing clauses with
  | nil => rfl
  | cons index rest ih =>
      have later : ∀ member ∈ rest, member <
          (clauses.modify index fun clause => { clause with mark := note index }).length := by
        intro member belongs
        rw [List.length_modify]
        exact inside member (List.mem_cons_of_mem index belongs)
      rw [noted?, List.foldlM_cons, edited?, if_pos (inside index List.mem_cons_self)]
      exact ih later

theorem noted_unmarked (note : Nat → GroupMark) (indices : List Nat) (clauses : List Clause) :
    (noted note indices clauses).map Clause.unmarked = clauses.map Clause.unmarked := by
  apply List.ext_getElem?
  intro index
  rw [List.getElem?_map, List.getElem?_map, getElem?_noted, Option.map_map]
  rfl

theorem getElem?_cleared (indices : List Nat) (clauses : List Clause) (index : Nat) :
    (cleared indices clauses)[index]? = clauses[index]?.map fun clause =>
      { clause with mark := if index ∈ indices then GroupMark.none else clause.mark } :=
  getElem?_noted _ indices clauses index

/-! The notes of all groups. -/

def noteAfter (groups : List Group) (index : Nat) (mark : GroupMark) : GroupMark :=
  groups.foldl (fun mark group => if index ∈ group.indices then group.note index else mark) mark

theorem noteAfter_cons (group : Group) (groups : List Group) (index : Nat) (mark : GroupMark) :
    noteAfter (group :: groups) index mark =
      noteAfter groups index (if index ∈ group.indices then group.note index else mark) := rfl

theorem noteAfter_of_not_mem (outside : ∀ group ∈ groups, index ∉ group.indices)
    (mark : GroupMark) : noteAfter groups index mark = mark := by
  induction groups with
  | nil => rfl
  | cons group rest ih =>
      obtain ⟨here, later⟩ := List.forall_mem_cons.mp outside
      rw [noteAfter_cons, if_neg here, ih later]

/-- What was noted before does not matter to a clause that a group holds. -/
theorem noteAfter_of_mem {group : Group} (member : group ∈ groups) (inside : index ∈ group.indices)
    (mark other : GroupMark) : noteAfter groups index mark = noteAfter groups index other := by
  induction groups generalizing mark other with
  | nil => cases member
  | cons first rest ih =>
      rw [noteAfter_cons, noteAfter_cons]
      rcases List.mem_cons.mp member with rfl | later
      · rw [if_pos inside, if_pos inside]
      · exact ih later _ _

theorem noteAfter_eq_note {group : Group} (apart : groups.Pairwise Group.Apart)
    (member : group ∈ groups) (inside : index ∈ group.indices) (mark : GroupMark) :
    noteAfter groups index mark = group.note index := by
  induction groups generalizing mark with
  | nil => cases member
  | cons first rest ih =>
      obtain ⟨separate, tail⟩ := List.pairwise_cons.mp apart
      rw [noteAfter_cons]
      rcases List.mem_cons.mp member with rfl | later
      · rw [if_pos inside, noteAfter_of_not_mem fun other member =>
          separate other member index inside]
      · exact ih tail later _

theorem getElem?_retagged (groups : List Group) (clauses : List Clause) (index : Nat) :
    (retagged groups clauses)[index]? = clauses[index]?.map fun clause =>
      { clause with mark := noteAfter groups index clause.mark } := by
  induction groups generalizing clauses with
  | nil =>
      rw [retagged, List.foldl_nil]
      cases clauses[index]? <;> rfl
  | cons group rest ih =>
      rw [retagged, List.foldl_cons, ← retagged, ih, getElem?_noted, Option.map_map]
      rfl

theorem length_retagged (groups : List Group) (clauses : List Clause) :
    (retagged groups clauses).length = clauses.length := by
  induction groups generalizing clauses with
  | nil => rfl
  | cons group rest ih => rw [retagged, List.foldl_cons, ← retagged, ih, length_noted]

theorem retagged?_eq
    (inside : ∀ group ∈ groups, ∀ index ∈ group.indices, index < clauses.length) :
    retagged? groups clauses = some (retagged groups clauses) := by
  induction groups generalizing clauses with
  | nil => rfl
  | cons group rest ih =>
      rw [retagged?, List.foldlM_cons, noted?_eq (inside group List.mem_cons_self)]
      refine ih ?_
      intro other member index belongs
      rw [length_noted]
      exact inside other (List.mem_cons_of_mem group member) index belongs

/-- Writing the notes of all groups is enough when no other clause has one. -/
theorem retagged_eq_marked (apart : groups.Pairwise Group.Apart)
    (clear : ∀ index clause, clauses[index]? = some clause →
      (∀ group ∈ groups, index ∉ group.indices) → clause.mark = GroupMark.none) :
    retagged groups clauses = marked groups clauses := by
  apply List.ext_getElem?
  intro index
  rw [getElem?_retagged, marked, List.getElem?_mapIdx]
  cases present : clauses[index]? with
  | none => rfl
  | some clause =>
      have same : noteAfter groups index clause.mark = markAt groups index := by
        cases found : groupAt groups index with
        | some group =>
            obtain ⟨member, inside⟩ := (groupAt_eq_some_iff apart).mp found
            rw [noteAfter_eq_note apart member inside, markAt_of_mem apart member inside]
        | none =>
            have outside := groupAt_eq_none_iff.mp found
            rw [noteAfter_of_not_mem outside, markAt_of_not_mem outside,
              clear index clause present outside]
      rw [Option.map_some, Option.map_some, same]

end SearchFilter.Bar
