import SearchFilter.Proofs.Bar.InPlace

/-!
The bars that runs reach, and what is always true of them: where their groups lie, which notes their
clauses have, and what can be selected.
-/

namespace SearchFilter

/-- The note on a clause names the group that holds it, and says whether the clause is the first or
the last one there. -/
structure GroupMark.Describes (mark : GroupMark) (groups : List Group) (index : Nat) : Prop where
  group : ∀ group ∈ groups, mark.group = some group.id ↔ index ∈ group.indices
  isStart : mark.isStart = true ↔ ∃ group ∈ groups, group.first = some index
  isEnd : mark.isEnd = true ↔ ∃ group ∈ groups, group.last = some index
  outside : (∀ group ∈ groups, index ∉ group.indices) → mark = GroupMark.none

namespace Bar

structure Valid (bar : Bar) : Prop where
  runs : ∀ group ∈ bar.groups, ∃ start size,
    2 ≤ size ∧ start + size ≤ bar.clauses.length ∧ group.indices = List.range' start size
  apart : bar.groups.Pairwise fun first second => ∀ index ∈ first.indices, index ∉ second.indices
  ids : (bar.groups.map Group.id).Nodup
  inOrder : bar.groups.Pairwise fun first second =>
    ∃ low high, first.first = some low ∧ second.first = some high ∧ low < high
  notes : ∀ (index : Nat) (clause : Clause), bar.clauses[index]? = some clause →
    clause.mark.Describes bar.groups index
  picked : ∀ index ∈ bar.selection.indices, index < bar.clauses.length
  clicked : ∀ index, bar.selection.lastClicked = some index → index < bar.clauses.length
  anchored : bar.selection.indices ≠ [] → bar.selection.lastClicked.isSome

def Initial (bar : Bar) : Prop := bar = empty ∨ ∃ state, load state = .ok bar

def Reachable (bar : Bar) : Prop := ∃ start actions, Initial start ∧ start.run actions = bar

/-- The bars that runs reach without a group that is created behind an overflow. -/
def ReachableUnwrapped (bar : Bar) : Prop :=
  ∃ start actions, Initial start ∧ start.Unwrapped actions ∧ start.run actions = bar

variable {bar : Bar}

theorem ReachableUnwrapped.reachable (reachable : bar.ReachableUnwrapped) : bar.Reachable := by
  obtain ⟨start, actions, initial, -, ran⟩ := reachable
  exact ⟨start, actions, initial, ran⟩

theorem Sound.of_initial (initial : bar.Initial) : bar.Sound := by
  rcases initial with rfl | ⟨state, loaded⟩
  · exact .empty
  · exact load_sound loaded

theorem Sound.of_reachable (reachable : bar.ReachableUnwrapped) : bar.Sound := by
  obtain ⟨start, actions, initial, unwrapped, rfl⟩ := reachable
  exact (Sound.of_initial initial).run unwrapped

theorem InBounds.of_reachable (reachable : bar.Reachable) : bar.InBounds := by
  obtain ⟨start, actions, initial, rfl⟩ := reachable
  exact (Sound.of_initial initial).inBounds.run actions

end Bar

namespace Group

variable {group : Group} {index : Nat}

theorem mem_of_first (first : group.first = some index) : index ∈ group.indices :=
  (first_eq_some_iff.mp first).1

theorem mem_of_last (last : group.last = some index) : index ∈ group.indices :=
  (last_eq_some_iff.mp last).1

end Group

namespace Bar

variable {bar : Bar}

theorem markAt_describes {groups : List Group} (apart : groups.Pairwise Group.Apart)
    (ids : (groups.map Group.id).Nodup) (index : Nat) :
    (markAt groups index).Describes groups index := by
  cases found : groupAt groups index with
  | none =>
      have outside := groupAt_eq_none_iff.mp found
      rw [markAt_of_not_mem outside]
      refine ⟨?_, ?_, ?_, fun _ => rfl⟩
      · intro group member
        simp [GroupMark.none, outside group member]
      · refine ⟨by simp [GroupMark.none], ?_⟩
        rintro ⟨group, member, first⟩
        exact absurd (Group.mem_of_first first) (outside group member)
      · refine ⟨by simp [GroupMark.none], ?_⟩
        rintro ⟨group, member, last⟩
        exact absurd (Group.mem_of_last last) (outside group member)
  | some holder =>
      obtain ⟨member, inside⟩ := (groupAt_eq_some_iff apart).mp found
      have alone : ∀ group ∈ groups, index ∈ group.indices → group = holder := by
        intro group groupMember shared
        have other := (groupAt_eq_some_iff apart).mpr ⟨groupMember, shared⟩
        exact Option.some.inj (other.symm.trans found)
      rw [markAt_of_mem apart member inside]
      refine ⟨?_, ?_, ?_, fun outside => absurd inside (outside holder member)⟩
      · intro group groupMember
        constructor
        · intro same
          obtain rfl := List.inj_on_of_nodup_map ids member groupMember (Option.some.inj same)
          exact inside
        · intro shared
          rw [alone group groupMember shared]
          rfl
      · rw [Group.note, beq_iff_eq]
        refine ⟨fun first => ⟨holder, member, first⟩, ?_⟩
        rintro ⟨group, groupMember, first⟩
        rwa [alone group groupMember (Group.mem_of_first first)] at first
      · rw [Group.note, beq_iff_eq]
        refine ⟨fun last => ⟨holder, member, last⟩, ?_⟩
        rintro ⟨group, groupMember, last⟩
        rwa [alone group groupMember (Group.mem_of_last last)] at last

theorem Sound.valid (sound : bar.Sound) : bar.Valid where
  runs := sound.arranged.runs
  apart := sound.arranged.apart
  ids := sound.ids
  inOrder := by
    refine sound.arranged.inOrder.imp_of_mem ?_
    intro first second firstMember secondMember before
    obtain ⟨low, lowFirst⟩ := (sound.arranged.runs first firstMember).exists_first
    obtain ⟨high, highFirst⟩ := (sound.arranged.runs second secondMember).exists_first
    exact ⟨low, high, lowFirst, highFirst,
      before low (Group.mem_of_first lowFirst) high (Group.mem_of_first highFirst)⟩
  notes := by
    intro index clause present
    rw [sound.notes index clause present]
    exact markAt_describes sound.arranged.apart sound.ids index
  picked := sound.selection.picked
  clicked := sound.selection.clicked
  anchored := sound.selection.anchored

/-- Behind the largest number the counter overflows, and the number zero is in use. -/
def exhausted (clauses : List Clause) : State :=
  ⟨clauses, [⟨"group-18446744073709551615", .and, [0, 1]⟩, ⟨"group-0", .or, [2, 3]⟩]⟩

end Bar

end SearchFilter
