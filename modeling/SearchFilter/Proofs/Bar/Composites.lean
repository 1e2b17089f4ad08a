import Mathlib.Data.List.InsertIdx
import SearchFilter.Proofs.Bar.Session

/-!
Two changes of a bar, one after the other. A clause that was inserted and a group that was created
can be taken back, and two clauses can be removed in either order.
-/

namespace SearchFilter

namespace Bar

variable {bar next : Bar} {index : Nat}

/-! Sessions of two actions. -/

theorem run_attempt_of_ok (bounded : bar.InBounds) (action : Action)
    (done : bar.perform action = .ok next) :
    (Change.attempt action).run bar = some (.ok (bar.answer action), next) := by
  rw [run_attempt_eq bounded, done]
  rfl

theorem session_pair (bounded : bar.InBounds) (first second : Action) {last : Bar}
    (done : bar.perform first = .ok next) (later : next.perform second = .ok last) :
    bar.session [first, second] =
      some ([.ok (bar.answer first), .ok (next.answer second)], last) := by
  rw [session_cons (run_attempt_of_ok bounded first done),
    session_cons (run_attempt_of_ok (bounded.perform done) second later)]
  rfl

/-! Removal. -/

theorem answer_remove {clause : Clause} (present : bar.clauses[index]? = some clause) :
    bar.answer (.remove index) = .clause clause := by
  rw [answer, present]

theorem lowered_lowered {low high : Nat} (less : low < high) (group : Group) :
    lowered low (lowered high group) = lowered (high - 1) (lowered low group) := by
  have indices : (lowered low (lowered high group)).indices =
      (lowered (high - 1) (lowered low group)).indices := by
    refine Indices.eq_of_ascending (Indices.distinct_ascending _) (Indices.distinct_ascending _) ?_
    intro place
    rw [mem_lowered, mem_lowered, mem_lowered, mem_lowered]
    have same : (if (if place < low then place else place + 1) < high then
        (if place < low then place else place + 1) else
        (if place < low then place else place + 1) + 1) =
        if (if place < high - 1 then place else place + 1) < low then
        (if place < high - 1 then place else place + 1) else
        (if place < high - 1 then place else place + 1) + 1 := by
      grind
    rw [same]
  exact congrArg (Group.mk group.id group.connector) indices

theorem length_lowered_le (index : Nat) (group : Group) :
    (lowered index group).indices.length ≤ group.indices.length := by
  have fewer : (shiftedDown index group).indices.length ≤ group.indices.length := by
    rw [shiftedDown, List.length_map]
    exact List.length_filter_le _ _
  have once : (lowered index group).indices ⊆ (shiftedDown index group).indices :=
    fun place => (Indices.mem_distinct place _).mp
  have nodup : (lowered index group).indices.Nodup :=
    (Indices.distinct_ascending _).imp Nat.ne_of_lt
  exact Nat.le_trans (List.subperm_of_subset nodup once).length_le fewer

/-- A group that a removal dissolves would not survive a further removal either. -/
theorem survivors_map_survivors (index : Nat) (groups : List Group) :
    survivors ((survivors groups).map (lowered index)) = survivors (groups.map (lowered index)) := by
  simp only [survivors, List.filter_map, List.filter_filter]
  refine congrArg (List.map (lowered index)) (List.filter_congr ?_)
  intro group member
  have shrinks := length_lowered_le index group
  simp only [Function.comp_apply]
  grind

theorem eraseIdx_eraseIdx {α : Type} {low high : Nat} (less : low < high) (items : List α) :
    (items.eraseIdx high).eraseIdx low = (items.eraseIdx low).eraseIdx (high - 1) := by
  apply List.ext_getElem?
  intro index
  simp only [List.getElem?_eraseIdx]
  grind

theorem retagged_cleared (groups : List Group) (clauses : List Clause) :
    retagged (survivors groups) (cleared (orphans groups) clauses) =
      retagged (survivors groups) (cleared (groups.flatMap Group.indices) clauses) := by
  apply List.ext_getElem?
  intro place
  rw [getElem?_retagged, getElem?_retagged, getElem?_cleared, getElem?_cleared, Option.map_map,
    Option.map_map]
  refine Option.map_congr ?_
  intro clause present
  refine congrArg (fun mark => { clause with mark }) ?_
  by_cases holds : ∃ group ∈ survivors groups, place ∈ group.indices
  · obtain ⟨group, member, inside⟩ := holds
    exact noteAfter_of_mem member inside _ _
  · have same : place ∈ orphans groups ↔ place ∈ groups.flatMap Group.indices := by
      rw [mem_orphans, List.mem_flatMap]
      constructor
      · rintro ⟨group, member, -, inside⟩
        exact ⟨group, member, inside⟩
      · rintro ⟨group, member, inside⟩
        refine ⟨group, member, Nat.lt_of_not_le fun large => ?_, inside⟩
        exact holds ⟨group, mem_survivors.mpr ⟨member, large⟩, inside⟩
    simp only [same]

theorem mem_flatMap_lowered {groups : List Group} {place : Nat} :
    place ∈ (groups.map (lowered index)).flatMap Group.indices ↔
      (if place < index then place else place + 1) ∈ groups.flatMap Group.indices := by
  simp [mem_lowered]

/-- Behind a removal that cleared all groups, a further one clears what is left of them. -/
theorem cleared_retagged (index : Nat) (groups : List Group) (clauses : List Clause) :
    cleared (((survivors groups).map (lowered index)).flatMap Group.indices)
        ((retagged (survivors groups)
          (cleared (groups.flatMap Group.indices) clauses)).eraseIdx index) =
      cleared ((groups.map (lowered index)).flatMap Group.indices) (clauses.eraseIdx index) := by
  apply List.ext_getElem?
  intro place
  rw [getElem?_cleared, getElem?_cleared, List.getElem?_eraseIdx, List.getElem?_eraseIdx,
    ← apply_ite (fun place => (retagged _ _)[place]?), ← apply_ite (fun place => clauses[place]?),
    getElem?_retagged, getElem?_cleared, Option.map_map, Option.map_map]
  simp only [mem_flatMap_lowered]
  generalize (if place < index then place else place + 1) = old
  refine Option.map_congr ?_
  intro clause present
  refine congrArg (fun mark => { clause with mark }) ?_
  by_cases holds : old ∈ (survivors groups).flatMap Group.indices
  · obtain ⟨group, member, inside⟩ := List.mem_flatMap.mp holds
    have before : old ∈ groups.flatMap Group.indices :=
      List.mem_flatMap.mpr ⟨group, (mem_survivors.mp member).1, inside⟩
    rw [if_pos holds, if_pos before]
  · have outside : ∀ group ∈ survivors groups, old ∉ group.indices := by
      intro group member inside
      exact holds (List.mem_flatMap.mpr ⟨group, member, inside⟩)
    exact (if_neg holds).trans (noteAfter_of_not_mem outside _)

theorem without_without_eq (first second : Nat) (bar : Bar) :
    (bar.without first).without second =
      let moved := (bar.groups.map (lowered first)).map (lowered second)
      { bar with
        clauses := retagged (survivors moved) (cleared (moved.flatMap Group.indices)
          ((bar.clauses.eraseIdx first).eraseIdx second))
        groups := survivors moved
        selection := .empty } := by
  simp only [without]
  rw [retagged_cleared, retagged_cleared, cleared_retagged, survivors_map_survivors]

theorem without_without {low high : Nat} (less : low < high) (bar : Bar) :
    (bar.without high).without low = (bar.without low).without (high - 1) := by
  have groups : (bar.groups.map (lowered high)).map (lowered low) =
      (bar.groups.map (lowered low)).map (lowered (high - 1)) := by
    rw [List.map_map, List.map_map]
    apply List.map_congr_left
    intro group member
    exact lowered_lowered less group
  rw [without_without_eq, without_without_eq, groups, eraseIdx_eraseIdx less]

/-- Of a bar that a run reaches, two clauses can be removed in either order. Both sessions succeed
and leave the same bar, with the same notes, groups and number for the next group. -/
theorem removals_commute (reachable : bar.Reachable) {low high : Nat} (less : low < high)
    (inside : high < bar.clauses.length) :
    ∃ (answers others : List Answer) (last : Bar),
      bar.session [.remove high, .remove low] = some (answers.map .ok, last) ∧
      bar.session [.remove low, .remove (high - 1)] = some (others.map .ok, last) := by
  have bounded := InBounds.of_reachable reachable
  have lowInside : low < bar.clauses.length := Nat.lt_trans less inside
  have lowLater : low < (bar.without high).clauses.length := by
    rw [length_without inside]
    omega
  have highLater : high - 1 < (bar.without low).clauses.length := by
    rw [length_without lowInside]
    omega
  have highFirst := session_pair bounded (.remove high) (.remove low)
    (remove_of_lt inside) (remove_of_lt lowLater)
  have lowFirst := session_pair bounded (.remove low) (.remove (high - 1))
    (remove_of_lt lowInside) (remove_of_lt highLater)
  rw [← without_without less bar] at lowFirst
  exact ⟨[_, _], [_, _], _, highFirst, lowFirst⟩

theorem removals_commute_of_groups :
    ∃ start, load ⟨[{}, {}, {}, {}, {}], [⟨"pair", .or, [0, 1]⟩, ⟨"three", .and, [4, 3, 2]⟩]⟩ =
        .ok start ∧
      (1 < 3 ∧ 3 < start.clauses.length) ∧
      ∃ (answers others : List Answer) (last : Bar),
        start.session [.remove 3, .remove 1] = some (answers.map .ok, last) ∧
        start.session [.remove 1, .remove 2] = some (others.map .ok, last) ∧
        last.groups = [⟨"three", .and, [1, 2]⟩] := by
  obtain ⟨start, loaded, inside, groups⟩ : ∃ start,
      load ⟨[{}, {}, {}, {}, {}], [⟨"pair", .or, [0, 1]⟩, ⟨"three", .and, [4, 3, 2]⟩]⟩ =
          .ok start ∧
        3 < start.clauses.length ∧
        ∀ results last, start.session [.remove 3, .remove 1] = some (results, last) →
          last.groups = [⟨"three", .and, [1, 2]⟩] := by
    refine ⟨_, rfl, by decide, ?_⟩
    intro results last ran
    cases ran
    rfl
  have reachable : start.Reachable := ⟨start, [], .inr ⟨_, loaded⟩, rfl⟩
  have less : 1 < 3 := by decide
  obtain ⟨answers, others, last, highFirst, lowFirst⟩ := removals_commute reachable less inside
  exact ⟨start, loaded, ⟨less, inside⟩, answers, others, last, highFirst, lowFirst,
    groups _ _ highFirst⟩

/-! Insertion. -/

theorem survivors_arranged {count : Nat} {groups : List Group} (arranged : Arranged count groups) :
    survivors groups = groups := by
  refine List.filter_eq_self.mpr ?_
  intro group member
  exact decide_eq_true (arranged.runs group member).two_le_length

theorem lowered_shiftedUp {group : Group} (ascending : group.indices.Pairwise (· < ·))
    (index : Nat) : lowered (index + 1) (shiftedUp index group) = group := by
  have indices : (lowered (index + 1) (shiftedUp index group)).indices = group.indices := by
    refine Indices.eq_of_ascending (Indices.distinct_ascending _) ascending ?_
    intro place
    rw [mem_lowered, Group.mem_shiftedUp]
    constructor
    · rintro ⟨old, holds, same⟩
      have back : old = place := by
        split at same <;> split at same <;> omega
      exact back ▸ holds
    · intro holds
      refine ⟨place, holds, ?_⟩
      split <;> split <;> omega
  exact congrArg (Group.mk group.id group.connector) indices

theorem Sound.without_inserted {connector : Connector} {inserted : Bar} (sound : bar.Sound)
    (done : bar.insertAfter index connector = .ok inserted) :
    inserted.clauses[index + 1]? = some (Clause.empty (some connector)) ∧
      (inserted.without (index + 1)).clauses = bar.clauses ∧
      (inserted.without (index + 1)).groups = bar.groups := by
  have insertedSound := sound.insertAfter done
  obtain ⟨inside, -, rfl⟩ := insertAfter_eq_ok_iff.mp done
  have present : (bar.clauses.insertIdx (index + 1) (Clause.empty (some connector)))[index + 1]? =
      some (Clause.empty (some connector)) := by
    rw [List.getElem?_insertIdx_self, if_pos (by omega)]
  have moved : (bar.groups.map (shiftedUp index)).map (lowered (index + 1)) = bar.groups := by
    have back : ∀ group ∈ bar.groups, lowered (index + 1) (shiftedUp index group) = group :=
      fun group member => lowered_shiftedUp (sound.arranged.runs group member).ascending index
    rw [List.map_map]
    exact (List.map_congr_left back).trans (List.map_id _)
  have groups : survivors ((bar.groups.map (shiftedUp index)).map (shiftedDown (index + 1))) =
      bar.groups := by
    rw [← insertedSound.map_lowered, moved, survivors_arranged sound.arranged]
  refine ⟨present, ?_, ?_⟩
  · rw [insertedSound.clauses_without (List.getElem?_eq_some_iff.mp present).1]
    dsimp only
    rw [groups, List.eraseIdx_insertIdx_self, sound.notes.marked_eq]
  · rw [insertedSound.groups_without]
    exact groups

/-! Creation of a group. -/

theorem filter_ordered (test : Group → Bool) (groups : List Group) :
    (ordered groups).filter test = ordered (groups.filter test) := by
  rw [← List.filterMap_eq_filter]
  apply Indices.filterMap_sortBy
  intro group chosen found
  rw [(Option.guard_eq_some_iff.mp found).1]

def selected (bar : Bar) (connector : Connector) : Group :=
  ⟨idOf bar.nextNumber, connector, bar.selection.indices⟩

theorem Sound.createGroup_apart (sound : bar.Sound) (several : 2 ≤ bar.selection.indices.length)
    (gapless : Grouping.Gapless bar.selection.indices)
    (apart : ∀ group ∈ bar.groups, ∀ index ∈ bar.selection.indices, index ∉ group.indices)
    (connector : Connector) :
    let groups := ordered (bar.groups ++ [bar.selected connector])
    bar.createGroup connector =
      .ok ⟨marked groups bar.clauses, groups, .empty, bar.nextNumber + 1⟩ := by
  cases done : bar.createGroup connector with
  | error error =>
      rw [createGroup_eq_error_iff sound.inBounds,
        Selection.range_eq_error_iff sound.selection.ascending] at done
      rcases done with ⟨few, -⟩ | ⟨gap, -⟩
      · omega
      · exact absurd gapless gap
  | ok created =>
      obtain ⟨start, stop, range, -, rfl⟩ := sound.createGroup_eq_ok_iff.mp done
      obtain ⟨-, indices⟩ := sound.selection.of_range range
      have unmet : (bar.groups.filter fun group => !meets start stop group) = bar.groups := by
        refine List.filter_eq_self.mpr ?_
        intro group member
        rw [Bool.not_eq_true', ← Bool.not_eq_true, meets_iff]
        rintro ⟨index, holds, lower, upper⟩
        refine apart group member index ?_ holds
        rw [indices, List.mem_range'_1]
        omega
      rw [List.range'_eq_map_range] at indices
      simp only [unmet, selected, indices]

theorem Sound.removeGroup_created (sound : bar.Sound) (whole : bar.nextNumber ≠ 0)
    {connector : Connector} {created : Bar} (done : bar.createGroup connector = .ok created)
    (groups : created.groups = ordered (bar.groups ++ [bar.selected connector]))
    (content : created.clauses.map Clause.unmarked = bar.clauses.map Clause.unmarked) :
    created.group (idOf bar.nextNumber) = .ok (bar.selected connector) ∧
      ∃ restored, created.removeGroup (idOf bar.nextNumber) = .ok restored ∧
        restored.clauses = bar.clauses ∧ restored.groups = bar.groups := by
  have createdSound := sound.createGroup whole done
  have restoredSound := createdSound.detached (idOf bar.nextNumber)
  have member : bar.selected connector ∈ created.groups := by
    rw [groups, mem_ordered]
    simp
  have others : ∀ group ∈ bar.groups, group.id ≠ idOf bar.nextNumber := sound.id_ne whole
  have left : (created.detached (idOf bar.nextNumber)).groups = bar.groups := by
    have kept : (bar.groups.filter fun group => group.id ≠ idOf bar.nextNumber) = bar.groups :=
      List.filter_eq_self.mpr (by simpa using others)
    rw [detached_groups createdSound, groups, filter_ordered, List.filter_append, kept]
    simp [selected, sound.arranged.ordered_eq]
  refine ⟨?_, _, removeGroup_eq_ok_iff.mpr ⟨⟨_, member, rfl⟩, rfl⟩, ?_, left⟩
  · have alone : created.groups.Pairwise fun first second =>
        ¬ ((first.id == idOf bar.nextNumber) = true ∧ (second.id == idOf bar.nextNumber) = true) := by
      refine (List.pairwise_map.mp createdSound.ids).imp ?_
      intro first second differ both
      simp only [beq_iff_eq] at both
      exact differ (both.1.trans both.2.symm)
    rw [Bar.group, Indices.find?_eq_some_of_pairwise alone member (by simp [selected])]
  · have same := (detached_content created (idOf bar.nextNumber)).trans content
    rw [← restoredSound.notes.marked_eq, left, marked_eq_of_unmarked_eq same,
      sound.notes.marked_eq]

end Bar

end SearchFilter
