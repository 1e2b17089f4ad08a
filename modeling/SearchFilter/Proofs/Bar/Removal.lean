import SearchFilter.Proofs.Bar.Composites
import SearchFilter.Proofs.Bar.Surroundings

/-!
A disabled clause that is removed. Unless its group is dissolved, the other clauses keep their
notes, and the filter stays as it is.
-/

namespace SearchFilter

def Clause.named (clause : Clause) : Clause :=
  { clause with mark := ⟨clause.mark.group, false, false⟩ }

namespace Bar

variable {rules : Rules} {groups : List Group} {bar : Bar} {index : Nat} {clause : Clause}

/-! Where a clause stands in its group is not looked at. -/

theorem splitBy_map {α β : Type} (change : α → β) (test : β → β → Bool) (items : List α) :
    (items.map change).splitBy test =
      (items.splitBy fun first second => test (change first) (change second)).map
        (List.map change) := by
  rw [List.splitBy_eq_iff]
  refine ⟨?_, ?_, ?_, ?_⟩
  · rw [← List.map_flatten, List.flatten_splitBy]
  · intro empty
    obtain ⟨part, member, none⟩ := List.mem_map.mp empty
    exact List.ne_nil_of_mem_splitBy member (List.map_eq_nil_iff.mp none)
  · rw [List.forall_mem_map]
    intro part member
    exact (List.isChain_map change).mpr (List.isChain_of_mem_splitBy member)
  · rw [List.isChain_map]
    refine (List.isChain_getLast_head_splitBy _ items).imp ?_
    rintro first second ⟨firstNonempty, secondNonempty, different⟩
    refine ⟨by simpa using firstNonempty, by simpa using secondNonempty, ?_⟩
    rw [List.getLast_map, List.head_map, different]

theorem stretches_named (clauses : List Clause) :
    stretches (clauses.map Clause.named) = (stretches clauses).map (List.map Clause.named) :=
  splitBy_map Clause.named sameNote clauses

theorem operand?_named (owner : Option Connector) (clauses : List Clause) :
    rules.operand? owner (clauses.map Clause.named) = rules.operand? owner clauses := by
  have same : rules.predicates (clauses.map Clause.named) = rules.predicates clauses := by
    rw [Rules.predicates, List.filterMap_map]
    apply List.filterMap_congr
    intro clause _
    have complete : rules.complete clause.named = rules.complete clause :=
      rules.complete_placed clause clause.connector _
    rw [Function.comp_apply, complete]
    rfl
  rw [Rules.operand?, List.find?_map, Option.map_map, same]
  rfl

theorem operands_named (clauses : List Clause) :
    operands rules groups (clauses.map Clause.named) = operands rules groups clauses := by
  rw [operands, stretches_named, List.filterMap_map]
  apply List.filterMap_congr
  intro stretch _
  have owner : ownConnector? groups (stretch.map Clause.named) = ownConnector? groups stretch := by
    rw [ownConnector?, ownConnector?, List.head?_map]
    cases stretch.head? <;> rfl
  rw [Function.comp_apply, owner, operand?_named]

theorem operands_eq_of_named {clauses others : List Clause}
    (same : clauses.map Clause.named = others.map Clause.named) :
    operands rules groups clauses = operands rules groups others := by
  rw [← operands_named clauses, same, operands_named]

/-! The bar that is left. -/

theorem groupAt_shiftedDown (groups : List Group) (index place : Nat) :
    groupAt (groups.map (shiftedDown index)) place =
      (groupAt groups (if place < index then place else place + 1)).map (shiftedDown index) := by
  rw [groupAt, List.find?_map, groupAt]
  refine congrArg (fun test => (groups.find? test).map (shiftedDown index)) ?_
  funext group
  apply Bool.eq_iff_iff.mpr
  rw [Function.comp_apply, Group.contains_iff, Group.contains_iff, Group.mem_shiftedDown]

theorem named_marked (sound : bar.Sound) (index : Nat) :
    (marked (bar.groups.map (shiftedDown index)) (bar.clauses.eraseIdx index)).map Clause.named =
      (bar.clauses.eraseIdx index).map Clause.named := by
  apply List.ext_getElem?
  intro place
  rw [List.getElem?_map, List.getElem?_map, marked, List.getElem?_mapIdx, List.getElem?_eraseIdx,
    ← apply_ite fun place => bar.clauses[place]?]
  cases found : bar.clauses[if place < index then place else place + 1]? with
  | none => rfl
  | some clause =>
      have same : (markAt (bar.groups.map (shiftedDown index)) place).group =
          clause.mark.group := by
        rw [markAt_group, groupAt_shiftedDown, Option.map_map, note_eq sound found]
        rfl
      simp only [Option.map_some, Clause.named, same]

theorem two_le_length_shiftedDown {count : Nat} {group : Group} (run : group.IsRun count)
    (kept : index ∈ group.indices → 3 ≤ group.indices.length) :
    2 ≤ (shiftedDown index group).indices.length := by
  have large := run.two_le_length
  have erased : group.indices.filter (· ≠ index) = group.indices.erase index := by
    rw [run.ascending.nodup.erase_eq_filter]
    exact List.filter_congr fun member _ => by simp [bne, beq_eq_decide]
  rw [shiftedDown, List.length_map, erased, List.length_erase]
  split
  · next inside => exact Nat.le_sub_one_of_lt (kept inside)
  · exact large

theorem groups_without_kept (sound : bar.Sound)
    (kept : ∀ group ∈ bar.groups, index ∈ group.indices → 3 ≤ group.indices.length) :
    (bar.without index).groups = bar.groups.map (shiftedDown index) := by
  rw [sound.groups_without]
  refine List.filter_eq_self.mpr (List.forall_mem_map.mpr ?_)
  intro group member
  have run := sound.arranged.runs group member
  exact decide_eq_true (two_le_length_shiftedDown run (kept group member))

theorem operands_without (sound : bar.Sound) (inside : index < bar.clauses.length)
    (kept : ∀ group ∈ bar.groups, index ∈ group.indices → 3 ≤ group.indices.length) :
    operands rules (bar.without index).groups (bar.without index).clauses =
      operands rules bar.groups (bar.clauses.eraseIdx index) := by
  have clauses : (bar.without index).clauses =
      marked (bar.without index).groups (bar.clauses.eraseIdx index) := by
    rw [sound.clauses_without inside, sound.groups_without]
  rw [clauses, groups_without_kept sound kept, operands_eq_of_named (named_marked sound index),
    operands_map_groups (shiftedDown index) (fun _ => rfl) fun _ => rfl]

end Bar

end SearchFilter
