import SearchFilter.Proofs.Bar.Marks
import SearchFilter.Proofs.Bar.Numbers
import SearchFilter.Proofs.Bar.Steps

/-!
What the changes of a bar preserve, as long as the counter does not overflow. Groups, notes and
selection say the same about the clauses, and the counter is above the ids of the groups.
-/

namespace SearchFilter

structure Selection.Within (count : Nat) (selection : Selection) : Prop where
  ascending : selection.indices.Pairwise (· < ·)
  picked : ∀ index ∈ selection.indices, index < count
  clicked : ∀ index, selection.lastClicked = some index → index < count
  anchored : selection.indices ≠ [] → selection.lastClicked.isSome

namespace Selection

variable {count : Nat} {selection : Selection}

theorem Within.empty (count : Nat) : empty.Within count :=
  ⟨.nil, by simp [Selection.empty], by simp [Selection.empty], by simp [Selection.empty]⟩

theorem Within.mono {more : Nat} (within : selection.Within count) (grown : count ≤ more) :
    selection.Within more where
  ascending := within.ascending
  picked := fun index member => Nat.lt_of_lt_of_le (within.picked index member) grown
  clicked := fun index last => Nat.lt_of_lt_of_le (within.clicked index last) grown
  anchored := within.anchored

theorem mem_between {first second index : Nat} :
    index ∈ between first second ↔ min first second ≤ index ∧ index ≤ max first second := by
  simp only [between, List.mem_map, List.mem_range]
  constructor
  · rintro ⟨offset, inside, rfl⟩
    omega
  · intro inside
    exact ⟨index - min first second, by omega, by omega⟩

theorem between_ascending (first second : Nat) : (between first second).Pairwise (· < ·) := by
  refine List.pairwise_map.mpr (List.pairwise_lt_range.imp ?_)
  intro low high less
  omega

theorem Within.click {index : Nat} (within : selection.Within count) (inside : index < count)
    (how : Click) : (selection.click index how).Within count := by
  have single : [index].Pairwise (· < ·) ∧ ∀ member ∈ [index], member < count := by
    simpa using inside
  have picks : (selection.click index how).indices.Pairwise (· < ·) ∧
      ∀ member ∈ (selection.click index how).indices, member < count := by
    cases how with
    | single => exact single
    | toggle =>
        simp only [Selection.click]
        split
        · exact ⟨within.ascending.sublist List.erase_sublist,
            fun member belongs => within.picked member (List.mem_of_mem_erase belongs)⟩
        · refine ⟨Indices.insert_ascending index _ within.ascending, ?_⟩
          intro member belongs
          rcases (Indices.mem_insert index member _).mp belongs with rfl | before
          · exact inside
          · exact within.picked member before
    | extend =>
        cases last : selection.lastClicked with
        | none =>
            simp only [Selection.click, last]
            exact single
        | some anchor =>
            simp only [Selection.click, last]
            refine ⟨between_ascending anchor index, ?_⟩
            intro member belongs
            have bound := within.clicked anchor last
            have upper := (mem_between.mp belongs).2
            omega
  exact ⟨picks.1, picks.2, fun last same => Option.some.inj same ▸ inside, fun _ => rfl⟩

theorem Within.of_range {start stop : Nat} (within : selection.Within count)
    (found : selection.range = .ok (start, stop)) :
    2 ≤ stop - start ∧ selection.indices = List.range' start (stop - start) := by
  rw [range] at found
  split at found
  · simp at found
  · rename_i large
    split at found
    · rename_i span spanned
      obtain rfl := Except.ok.inj found
      obtain ⟨-, indices⟩ := (Indices.span?_eq_some_iff within.ascending start stop).mp spanned
      rw [indices, List.length_range'] at large
      exact ⟨Nat.le_of_not_lt large, indices⟩
    · simp at found

end Selection

namespace Bar

/-- Behind an overflow the counter says nothing about the ids. -/
structure Sound (bar : Bar) : Prop where
  arranged : Arranged bar.clauses.length bar.groups
  ids : (bar.groups.map Group.id).Nodup
  notes : Marked bar.groups bar.clauses
  selection : bar.selection.Within bar.clauses.length
  fresh : bar.nextNumber ≠ 0 → ∀ group ∈ bar.groups, ∀ number,
    numberOf? group.id = some number → number < bar.nextNumber.toNat

variable {bar next : Bar}

theorem Sound.empty : empty.Sound where
  arranged := .nil
  ids := .nil
  notes := by simp [Marked, Bar.empty]
  selection := .empty 0
  fresh := by simp [Bar.empty]

theorem Sound.bounded (sound : bar.Sound) :
    ∀ group ∈ bar.groups, ∀ index ∈ group.indices, index < bar.clauses.length :=
  fun group member => (sound.arranged.runs group member).lt_count

theorem map_id_ordered_perm (groups : List Group) :
    ((ordered groups).map Group.id).Perm (groups.map Group.id) :=
  (Indices.sortBy_perm _ groups).map Group.id

theorem load_sound {state : State} (loaded : load state = .ok bar) : bar.Sound := by
  obtain ⟨⟨ids, runs, apart⟩, rfl⟩ := load_eq_ok_iff.mp loaded
  have sortedRuns : ∀ group ∈ state.groups.map Group.sorted, group.IsRun state.clauses.length :=
    List.forall_mem_map.mpr runs
  have sortedApart : (state.groups.map Group.sorted).Pairwise Group.Apart :=
    List.pairwise_map.mpr (apart.imp Group.Apart.sorted)
  refine ⟨?_, ?_, .marked _ _, .empty _, ?_⟩
  · rw [length_marked]
    exact arranged_ordered sortedRuns sortedApart
  · rw [(map_id_ordered_perm _).nodup_iff, List.map_map]
    exact ids
  · intro whole group member number spelled
    obtain ⟨source, sourceMember, rfl⟩ := List.mem_map.mp (mem_ordered.mp member)
    rw [toNat_freshNumber whole]
    exact Nat.lt_succ_of_le (le_largestNumber sourceMember spelled)

theorem sorted_arranged {count : Nat} {groups : List Group} (arranged : Arranged count groups) :
    groups.map Group.sorted = groups := by
  have same : ∀ group ∈ groups, group.sorted = group := by
    intro group member
    rw [Group.sorted, Indices.distinct_eq_self (arranged.runs group member).ascending]
  rw [List.map_congr_left same, List.map_id']

theorem load_arranged {clauses : List Clause} {groups : List Group}
    (arranged : Arranged clauses.length groups) (ids : (groups.map Group.id).Nodup)
    (notes : Marked groups clauses) :
    load ⟨clauses, groups⟩ = .ok ⟨clauses, groups, .empty, freshNumber groups⟩ := by
  have sorted := sorted_arranged arranged
  refine load_eq_ok_iff.mpr ⟨⟨ids, ?_, arranged.apart⟩, ?_⟩
  · exact List.forall_mem_map.mp (sorted.symm ▸ arranged.runs)
  · dsimp only
    rw [sorted, arranged.ordered_eq, notes.marked_eq]

theorem Sound.push (sound : bar.Sound) (clause : Clause) : (bar.push clause).Sound := by
  have grown : bar.clauses.length ≤ (bar.push clause).clauses.length := by
    simp [Bar.push]
  exact ⟨sound.arranged.mono grown, sound.ids, sound.notes.append sound.bounded clause,
    sound.selection.mono grown, sound.fresh⟩

theorem Sound.insertAfter {index : Nat} {connector : Connector} (sound : bar.Sound)
    (done : bar.insertAfter index connector = .ok next) : next.Sound := by
  obtain ⟨inside, whole, rfl⟩ := insertAfter_eq_ok_iff.mp done
  have length : (bar.clauses.insertIdx (index + 1) (Clause.empty (some connector))).length =
      bar.clauses.length + 1 :=
    List.length_insertIdx_of_le_length inside _
  refine ⟨?_, ?_, sound.notes.insertIdx (some connector), .empty _, ?_⟩
  · rw [length]
    refine sound.arranged.shiftedUp ?_
    intro group member holds
    exact whole group ((groupAt_eq_some_iff sound.arranged.apart).mpr ⟨member, holds⟩)
  · rw [List.map_map]
    exact sound.ids
  · intro whole group member number spelled
    obtain ⟨source, sourceMember, rfl⟩ := List.mem_map.mp member
    exact sound.fresh whole source sourceMember number spelled

theorem Sound.edit (sound : bar.Sound) (index : Nat) (change : Clause → Clause)
    (kept : ∀ clause, (change clause).mark = clause.mark)
    (done : (bar.clause index).map (fun current =>
      { bar with clauses := bar.clauses.set index (change current) }) = .ok next) :
    next.Sound := by
  obtain ⟨current, found, rfl⟩ := clause_map_eq_ok_iff.mp done
  refine ⟨?_, sound.ids, sound.notes.set found (kept current), ?_, sound.fresh⟩
  · rw [List.length_set]
    exact sound.arranged
  · rw [List.length_set]
    exact sound.selection

theorem Sound.select {index : Nat} {how : Click} (sound : bar.Sound)
    (done : bar.select index how = .ok next) : next.Sound := by
  obtain ⟨current, found, rfl⟩ := clause_map_eq_ok_iff.mp done
  have inside := (List.getElem?_eq_some_iff.mp found).1
  exact ⟨sound.arranged, sound.ids, sound.notes, sound.selection.click inside how, sound.fresh⟩

theorem Sound.clearSelection (sound : bar.Sound) : bar.clearSelection.Sound :=
  ⟨sound.arranged, sound.ids, sound.notes, .empty _, sound.fresh⟩

theorem meets_iff {start stop : Nat} {group : Group} :
    meets start stop group = true ↔ ∃ index ∈ group.indices, start ≤ index ∧ index < stop := by
  simp [meets]

end Bar

end SearchFilter
