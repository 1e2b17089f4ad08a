import SearchFilter.Proofs.Bar.Invariant
import SearchFilter.Proofs.Bar.Retagging

/-!
Removal of clauses, and groups that are detached and created. They clear and write notes in place,
and groups are detached by their ids. On a sound bar the result is the one that is meant, and a
group that is created before the counter overflows leaves it sound.
-/

namespace SearchFilter

def Action.creates : Action → Bool
  | .createGroup _ => true
  | _ => false

namespace Bar

variable {bar next : Bar} {index : Nat}

/-! Removal of a clause. -/

theorem Sound.map_lowered (sound : bar.Sound) (index : Nat) :
    bar.groups.map (lowered index) = bar.groups.map (shiftedDown index) := by
  apply List.map_congr_left
  intro group member
  have ascending := Group.shiftedDown_ascending index (sound.arranged.runs group member).ascending
  rw [lowered, Indices.distinct_eq_self ascending]
  rfl

theorem mem_lowered {group : Group} {place : Nat} :
    place ∈ (lowered index group).indices ↔
      (if place < index then place else place + 1) ∈ group.indices := by
  rw [lowered, Indices.mem_distinct, Group.mem_shiftedDown]

theorem mem_orphans {groups : List Group} {index : Nat} :
    index ∈ orphans groups ↔
      ∃ group ∈ groups, group.indices.length < 2 ∧ index ∈ group.indices := by
  simp [orphans, and_assoc]

theorem mem_survivors {groups : List Group} {group : Group} :
    group ∈ survivors groups ↔ group ∈ groups ∧ 2 ≤ group.indices.length := by
  simp [survivors]

theorem clear_of_orphans (sound : bar.Sound) (index : Nat) {position : Nat} {clause : Clause}
    (present : (cleared (orphans (bar.groups.map (shiftedDown index)))
      (bar.clauses.eraseIdx index))[position]? = some clause)
    (outside : ∀ group ∈ survivors (bar.groups.map (shiftedDown index)),
      position ∉ group.indices) : clause.mark = GroupMark.none := by
  rw [getElem?_cleared] at present
  obtain ⟨old, oldPresent, rfl⟩ := Option.map_eq_some_iff.mp present
  by_cases orphan : position ∈ orphans (bar.groups.map (shiftedDown index))
  · exact if_pos orphan
  · refine (if_neg orphan).trans ?_
    rw [List.getElem?_eraseIdx, ← apply_ite (fun place => bar.clauses[place]?)] at oldPresent
    rw [sound.notes _ old oldPresent]
    refine markAt_of_not_mem ?_
    intro group member inside
    have moved : shiftedDown index group ∈ bar.groups.map (shiftedDown index) :=
      List.mem_map_of_mem member
    have belongs : position ∈ (shiftedDown index group).indices := Group.mem_shiftedDown.mpr inside
    by_cases large : 2 ≤ (shiftedDown index group).indices.length
    · exact outside _ (mem_survivors.mpr ⟨moved, large⟩) belongs
    · exact orphan (mem_orphans.mpr ⟨_, moved, Nat.lt_of_not_le large, belongs⟩)

theorem Sound.groups_without (sound : bar.Sound) (index : Nat) :
    (bar.without index).groups = survivors (bar.groups.map (shiftedDown index)) :=
  congrArg survivors (sound.map_lowered index)

theorem Sound.clauses_without (sound : bar.Sound) (inside : index < bar.clauses.length) :
    (bar.without index).clauses =
      marked (survivors (bar.groups.map (shiftedDown index))) (bar.clauses.eraseIdx index) := by
  have arranged : Arranged (bar.clauses.length - 1)
      (survivors (bar.groups.map (shiftedDown index))) := sound.arranged.shiftedDown inside
  rw [without]
  dsimp only
  rw [sound.map_lowered,
    retagged_eq_marked arranged.apart fun position clause => clear_of_orphans sound index]
  exact marked_eq_of_unmarked_eq (noted_unmarked _ _ _)

theorem Sound.without (sound : bar.Sound) (inside : index < bar.clauses.length) :
    (bar.without index).Sound := by
  have clauses := sound.clauses_without inside
  have groups := sound.groups_without index
  refine ⟨?_, ?_, ?_, .empty _, ?_⟩
  · rw [clauses, groups, length_marked, List.length_eraseIdx_of_lt inside]
    exact sound.arranged.shiftedDown inside
  · have shifted : (bar.groups.map (shiftedDown index)).map Group.id = bar.groups.map Group.id :=
      List.map_map
    have all := sound.ids
    rw [← shifted] at all
    rw [groups]
    exact all.sublist (List.filter_sublist.map Group.id)
  · rw [clauses, groups]
    exact .marked _ _
  · intro whole group member number spelled
    rw [groups] at member
    obtain ⟨source, sourceMember, rfl⟩ := List.mem_map.mp (List.mem_filter.mp member).1
    exact sound.fresh whole source sourceMember number spelled

/-! Groups that are detached. -/

theorem eraseP_eq_filter {groups : List Group} (ids : (groups.map Group.id).Nodup) (id : String) :
    (groups.eraseP fun group => group.id == id) = groups.filter fun group => group.id ≠ id := by
  induction groups with
  | nil => rfl
  | cons group rest ih =>
      obtain ⟨alone, tail⟩ := List.nodup_cons.mp ids
      by_cases same : group.id = id
      · have others : ∀ other ∈ rest, other.id ≠ id := by
          intro other member equal
          exact alone (List.mem_map.mpr ⟨other, member, equal.trans same.symm⟩)
        rw [List.eraseP_cons_of_pos (by simpa using same),
          List.filter_cons_of_neg (by simpa using same)]
        exact (List.filter_eq_self.mpr (by simpa using others)).symm
      · rw [List.eraseP_cons_of_neg (by simpa using same),
          List.filter_cons_of_pos (by simpa using same), ih tail]

theorem detached_eq (bar : Bar) (id : String) :
    bar.detached id =
      { bar with clauses := (bar.detached id).clauses, groups := (bar.detached id).groups } := by
  rw [detached]
  split <;> rfl

theorem detached_groups (sound : bar.Sound) (id : String) :
    (bar.detached id).groups = bar.groups.filter fun group => group.id ≠ id := by
  rw [detached]
  cases found : bar.groups.find? fun group => group.id == id with
  | none =>
      exact (List.filter_eq_self.mpr (by simpa using ne_id_of_find?_eq_none found)).symm
  | some group => exact eraseP_eq_filter sound.ids id

theorem detached_content (bar : Bar) (id : String) :
    (bar.detached id).clauses.map Clause.unmarked = bar.clauses.map Clause.unmarked := by
  rw [detached]
  split
  · exact noted_unmarked _ _ _
  · rfl

theorem length_detached (bar : Bar) (id : String) :
    (bar.detached id).clauses.length = bar.clauses.length := by
  simpa using congrArg List.length (detached_content bar id)

theorem detached_groups_sublist (bar : Bar) (id : String) :
    (bar.detached id).groups.Sublist bar.groups := by
  rw [detached]
  split
  · exact List.eraseP_sublist
  · exact .refl _

theorem detached_notes (sound : bar.Sound) (id : String) :
    Marked (bar.groups.filter fun group => group.id ≠ id) (bar.detached id).clauses := by
  have apart := sound.arranged.apart
  rw [detached]
  cases found : bar.groups.find? fun group => group.id == id with
  | none =>
      rw [List.filter_eq_self.mpr (by simpa using ne_id_of_find?_eq_none found)]
      exact sound.notes
  | some group =>
      obtain ⟨member, same⟩ := mem_of_find?_id found
      intro position clause present
      change (cleared group.indices bar.clauses)[position]? = some clause at present
      rw [getElem?_cleared] at present
      obtain ⟨old, oldPresent, rfl⟩ := Option.map_eq_some_iff.mp present
      by_cases inside : position ∈ group.indices
      · refine (if_pos inside).trans (markAt_of_not_mem ?_).symm
        intro other kept shared
        obtain ⟨otherMember, different⟩ := List.mem_filter.mp kept
        have here := (groupAt_eq_some_iff apart).mpr ⟨member, inside⟩
        have there := (groupAt_eq_some_iff apart).mpr ⟨otherMember, shared⟩
        obtain rfl := Option.some.inj (here.symm.trans there)
        exact of_decide_eq_true different same
      · refine (if_neg inside).trans ((sound.notes position old oldPresent).trans ?_)
        refine markAt_congr apart (apart.filter _) ?_
        intro other holds
        rw [List.mem_filter, decide_eq_true_eq]
        refine ⟨fun otherMember => ⟨otherMember, ?_⟩, And.left⟩
        intro equal
        obtain rfl := List.inj_on_of_nodup_map sound.ids otherMember member (equal.trans same.symm)
        exact inside holds

theorem Sound.detached (sound : bar.Sound) (id : String) : (bar.detached id).Sound := by
  have fewer := detached_groups_sublist bar id
  have length := length_detached bar id
  rw [detached_eq]
  refine ⟨?_, sound.ids.sublist (fewer.map Group.id), ?_, ?_, ?_⟩
  · rw [length]
    exact sound.arranged.sublist fewer
  · rw [detached_groups sound]
    exact detached_notes sound id
  · rw [length]
    exact sound.selection
  · exact fun whole group member => sound.fresh whole group (fewer.subset member)

theorem foldl_detached (sound : bar.Sound) (ids : List String) :
    (ids.foldl detached bar).Sound ∧
      (ids.foldl detached bar).groups = (bar.groups.filter fun group => group.id ∉ ids) ∧
      (ids.foldl detached bar).clauses.map Clause.unmarked = bar.clauses.map Clause.unmarked := by
  induction ids generalizing bar with
  | nil => exact ⟨sound, by simp, rfl⟩
  | cons id rest ih =>
      obtain ⟨restSound, groups, content⟩ := ih (sound.detached id)
      refine ⟨restSound, ?_, content.trans (detached_content bar id)⟩
      rw [List.foldl_cons, groups, detached_groups sound, List.filter_filter]
      apply List.filter_congr
      intro group member
      simp [Bool.and_comm]

/-! Groups that are created. -/

theorem filter_overlapping (sound : bar.Sound) (start stop : Nat) :
    (bar.groups.filter fun group =>
      group.id ∉ (bar.groups.filter (meets start stop)).map Group.id) =
      bar.groups.filter fun group => !meets start stop group := by
  apply List.filter_congr
  intro group member
  have same : group.id ∈ (bar.groups.filter (meets start stop)).map Group.id ↔
      meets start stop group = true := by
    constructor
    · intro listed
      obtain ⟨other, kept, equal⟩ := List.mem_map.mp listed
      obtain ⟨otherMember, met⟩ := List.mem_filter.mp kept
      obtain rfl := List.inj_on_of_nodup_map sound.ids otherMember member equal
      exact met
    · intro met
      exact List.mem_map_of_mem (List.mem_filter.mpr ⟨member, met⟩)
  simp [same]

theorem Sound.arranged_created (sound : bar.Sound) {start stop : Nat}
    (range : bar.selection.range = .ok (start, stop)) (bound : stop ≤ bar.clauses.length)
    (id : String) (connector : Connector) :
    Arranged bar.clauses.length (ordered ((bar.groups.filter fun group => !meets start stop group) ++
      [⟨id, connector, (List.range (stop - start)).map (start + ·)⟩])) := by
  obtain ⟨large, -⟩ := sound.selection.of_range range
  generalize shape : Group.mk id connector ((List.range (stop - start)).map (start + ·)) = created
  have indices : created.indices = List.range' start (stop - start) := by
    rw [← shape, ← List.range'_eq_map_range]
  have spared : (bar.groups.filter fun group => !meets start stop group).Sublist bar.groups :=
    List.filter_sublist
  apply arranged_ordered
  · intro group member
    rcases List.mem_append.mp member with old | new
    · exact sound.arranged.runs group (spared.subset old)
    · rw [List.mem_singleton.mp new]
      exact ⟨start, stop - start, large, by omega, indices⟩
  · refine List.pairwise_append.mpr
      ⟨sound.arranged.apart.sublist spared, List.pairwise_singleton _ _, ?_⟩
    intro group member other same index inGroup inOther
    rw [List.mem_singleton.mp same, indices, List.mem_range'_1] at inOther
    have unmet := (List.mem_filter.mp member).2
    rw [Bool.not_eq_true', ← Bool.not_eq_true, meets_iff] at unmet
    exact unmet ⟨index, inGroup, by omega, by omega⟩

/-- The ids of groups that meet the selection are theirs alone, so no other group is detached. -/
theorem Sound.createGroup_eq_ok_iff {connector : Connector} (sound : bar.Sound) :
    bar.createGroup connector = .ok next ↔
      ∃ start stop, bar.selection.range = .ok (start, stop) ∧ stop ≤ bar.clauses.length ∧
        let created : Group :=
          ⟨idOf bar.nextNumber, connector, (List.range (stop - start)).map (start + ·)⟩
        let groups :=
          ordered ((bar.groups.filter fun group => !meets start stop group) ++ [created])
        next = ⟨marked groups bar.clauses, groups, .empty, bar.nextNumber + 1⟩ := by
  rw [Bar.createGroup_eq_ok_iff]
  refine exists_congr fun start => exists_congr fun stop => and_congr_right fun range =>
    and_congr_right fun bound => ?_
  obtain ⟨restSound, groups, content⟩ :=
    foldl_detached sound ((bar.groups.filter (meets start stop)).map Group.id)
  rw [filter_overlapping sound] at groups
  have apart := (sound.arranged_created range bound (idOf bar.nextNumber) connector).apart
  dsimp only
  rw [groups, retagged_eq_marked apart ?_, marked_eq_of_unmarked_eq content]
  intro index clause present outside
  rw [restSound.notes index clause present, groups]
  refine markAt_of_not_mem ?_
  intro group member
  exact outside group (mem_ordered.mpr (List.mem_append_left _ member))

theorem Sound.id_ne (sound : bar.Sound) (whole : bar.nextNumber ≠ 0) :
    ∀ group ∈ bar.groups, group.id ≠ idOf bar.nextNumber := by
  intro group member same
  have spelled := numberOf?_idOf bar.nextNumber
  rw [← same] at spelled
  exact Nat.lt_irrefl _ (sound.fresh whole group member _ spelled)

theorem Sound.createGroup {connector : Connector} (sound : bar.Sound) (whole : bar.nextNumber ≠ 0)
    (done : bar.createGroup connector = .ok next) : next.Sound := by
  obtain ⟨start, stop, range, bound, rfl⟩ := sound.createGroup_eq_ok_iff.mp done
  have arranged := sound.arranged_created range bound (idOf bar.nextNumber) connector
  have spared : (bar.groups.filter fun group => !meets start stop group).Sublist bar.groups :=
    List.filter_sublist
  refine ⟨?_, ?_, .marked _ _, .empty _, ?_⟩
  · rw [length_marked]
    exact arranged
  · rw [(map_id_ordered_perm _).nodup_iff, List.map_append, List.nodup_append]
    refine ⟨sound.ids.sublist (spared.map Group.id), by simp, ?_⟩
    intro known old other new same
    obtain ⟨group, member, rfl⟩ := List.mem_map.mp old
    rw [List.map_singleton, List.mem_singleton] at new
    exact sound.id_ne whole group (spared.subset member) (same.trans new)
  · intro more group member number spelled
    rw [toNat_add_one more]
    rcases List.mem_append.mp (mem_ordered.mp member) with old | new
    · exact Nat.lt_succ_of_lt (sound.fresh whole group (spared.subset old) number spelled)
    · rw [List.mem_singleton.mp new, numberOf?_idOf] at spelled
      obtain rfl := Option.some.inj spelled
      exact Nat.lt_succ_self _

/-! Runs. -/

/-- A group is created although the counter overflowed, after which it is zero. -/
structure Misnumbers (bar : Bar) (action : Action) : Prop where
  creates : action.creates = true
  zero : bar.nextNumber = 0
  done : ∃ next, bar.perform action = .ok next

/-- No action of the run creates a group behind an overflow of the counter. -/
def Unwrapped (bar : Bar) : List Action → Prop
  | [] => True
  | action :: actions => ¬ bar.Misnumbers action ∧ (bar.after action).Unwrapped actions

theorem Unwrapped.of_idle {actions : List Action}
    (idle : ∀ action ∈ actions, action.creates = false) : bar.Unwrapped actions := by
  induction actions generalizing bar with
  | nil => trivial
  | cons action actions ih =>
      obtain ⟨here, later⟩ := List.forall_mem_cons.mp idle
      refine ⟨fun misnumbers => ?_, ih later⟩
      exact Bool.false_ne_true (here.symm.trans misnumbers.creates)

theorem Unwrapped.append {front rest : List Action} (before : bar.Unwrapped front)
    (behind : (bar.run front).Unwrapped rest) : bar.Unwrapped (front ++ rest) := by
  induction front generalizing bar with
  | nil => exact behind
  | cons action front ih => exact ⟨before.1, ih before.2 behind⟩

theorem Sound.perform {action : Action} (sound : bar.Sound) (numbered : ¬ bar.Misnumbers action)
    (done : bar.perform action = .ok next) : next.Sound := by
  cases action with
  | push clause => exact Except.ok.inj done ▸ sound.push clause
  | insertAfter index connector => exact sound.insertAfter done
  | update index content =>
      exact sound.edit index (fun current =>
        { content with connector := current.connector, mark := current.mark }) (fun _ => rfl) done
  | setConnector index connector =>
      exact sound.edit index (fun current => { current with connector := some connector })
        (fun _ => rfl) done
  | toggleDisabled index =>
      exact sound.edit index (fun current => { current with disabled := !current.disabled })
        (fun _ => rfl) done
  | remove index =>
      obtain ⟨inside, rfl⟩ := remove_eq_ok_iff.mp done
      exact sound.without inside
  | select index how => exact sound.select done
  | clearSelection => exact Except.ok.inj done ▸ sound.clearSelection
  | createGroup connector =>
      exact sound.createGroup (fun zero => numbered ⟨rfl, zero, next, done⟩) done
  | removeGroup id =>
      obtain ⟨-, rfl⟩ := removeGroup_eq_ok_iff.mp done
      exact sound.detached id
  | reload => exact load_sound done

theorem Sound.after {action : Action} (sound : bar.Sound) (numbered : ¬ bar.Misnumbers action) :
    (bar.after action).Sound := by
  rw [Bar.after]
  cases done : bar.perform action with
  | error error => exact sound
  | ok next => exact sound.perform numbered done

theorem Sound.run {actions : List Action} (sound : bar.Sound) (unwrapped : bar.Unwrapped actions) :
    (bar.run actions).Sound := by
  induction actions generalizing bar with
  | nil => exact sound
  | cons action actions ih => exact ih (sound.after unwrapped.1) unwrapped.2

end Bar

end SearchFilter
