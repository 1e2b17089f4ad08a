import Mathlib.Data.Finset.Card
import Mathlib.Order.Bounds.Basic
import SearchFilter.Bar.Basic
import SearchFilter.Proofs.Bar.Steps
import SearchFilter.Proofs.Filter.Grouping

/-!
Why a stored state is refused. Its groups are checked in the order of the list, and the error is the
first fault of the first group that has one; a state without faults is loaded.
-/

namespace SearchFilter

namespace Indices

variable {indices : List Nat}

theorem length_distinct (indices : List Nat) :
    (distinct indices).length = indices.toFinset.card := by
  have nodup : (distinct indices).Nodup := (distinct_ascending indices).imp Nat.ne_of_lt
  have same : (distinct indices).toFinset = indices.toFinset := by
    ext index
    rw [List.mem_toFinset, List.mem_toFinset, mem_distinct]
  rw [← same, List.toFinset_card_of_nodup nodup]

theorem isLeast_of_find? {test : Nat → Bool} {index : Nat} (ascending : indices.Pairwise (· < ·))
    (found : indices.find? test = some index) :
    IsLeast {index | index ∈ indices ∧ test index = true} index := by
  obtain ⟨passes, before, after, rfl, failed⟩ := List.find?_eq_some_iff_append.mp found
  refine ⟨⟨List.mem_of_find?_eq_some found, passes⟩, ?_⟩
  rintro other ⟨member, otherPasses⟩
  rcases List.mem_append.mp member with earlier | later
  · exact absurd otherPasses (by simpa using failed other earlier)
  · rcases List.mem_cons.mp later with rfl | behind
    · exact Nat.le_refl _
    · have tail := (List.pairwise_append.mp ascending).2.1
      exact Nat.le_of_lt ((List.pairwise_cons.mp tail).1 other behind)

end Indices

def GroupError.turn : GroupError → Nat
  | duplicateGroup _ => 0
  | tooFewMembers _ => 1
  | indexOutOfRange _ _ => 2
  | notAdjacent _ => 3
  | sharedClause _ => 4
  | groupNotFound _ | splitsGroup _ _ => 5

namespace Group

/-- What is wrong with a group that follows others. Its indices count once, in any order. -/
inductive Fault (count : Nat) (before : List Group) (group : Group) : GroupError → Prop
  | duplicateId : (∃ other ∈ before, other.id = group.id) →
      Fault count before group (.duplicateGroup group.id)
  | tooFew : group.indices.toFinset.card < 2 →
      Fault count before group (.tooFewMembers group.indices.toFinset.card)
  | outOfRange {index} : IsLeast {index | index ∈ group.indices ∧ count ≤ index} index →
      Fault count before group (.indexOutOfRange index count)
  | gap {indices} : indices.Pairwise (· < ·) → indices.toFinset = group.indices.toFinset →
      ¬ Grouping.Gapless group.indices → Fault count before group (.notAdjacent indices)
  | overlap {index} :
      IsLeast {index | index ∈ group.indices ∧ ∃ other ∈ before, index ∈ other.indices} index →
      Fault count before group (.sharedClause index)

/-- The fault that is looked for before all others that the group has. -/
def FirstFault (count : Nat) (before : List Group) (group : Group) (error : GroupError) : Prop :=
  group.Fault count before error ∧
    ∀ other, group.Fault count before other → error.turn ≤ other.turn

variable {count : Nat} {before : List Group} {group : Group} {error other : GroupError}

theorem Fault.unique (fault : group.Fault count before error)
    (otherFault : group.Fault count before other) (turn : error.turn = other.turn) :
    error = other := by
  cases fault <;> cases otherFault <;> simp [GroupError.turn] at turn
  case duplicateId.duplicateId => rfl
  case tooFew.tooFew => rfl
  case outOfRange.outOfRange least _ otherLeast => rw [least.unique otherLeast]
  case gap.gap ascending same _ _ otherAscending otherSame _ =>
    refine congrArg _ (Indices.eq_of_ascending ascending otherAscending fun index => ?_)
    rw [← List.mem_toFinset, same, ← otherSame, List.mem_toFinset]
  case overlap.overlap least _ otherLeast => rw [least.unique otherLeast]

theorem FirstFault.unique (first : group.FirstFault count before error)
    (second : group.FirstFault count before other) : error = other :=
  first.1.unique second.1 (Nat.le_antisymm (first.2 other second.1) (second.2 error first.1))

section

variable (newId : ¬ ∃ other ∈ before, other.id = group.id)

include newId

theorem FirstFault.tooFew (few : group.indices.toFinset.card < 2) :
    group.FirstFault count before (.tooFewMembers group.indices.toFinset.card) := by
  refine ⟨.tooFew few, ?_⟩
  intro other fault
  cases fault with
  | duplicateId known => exact absurd known newId
  | _ => simp [GroupError.turn]

variable (several : 2 ≤ group.indices.toFinset.card)

include several

theorem FirstFault.outOfRange {index : Nat}
    (least : IsLeast {index | index ∈ group.indices ∧ count ≤ index} index) :
    group.FirstFault count before (.indexOutOfRange index count) := by
  refine ⟨.outOfRange least, ?_⟩
  intro other fault
  cases fault with
  | duplicateId known => exact absurd known newId
  | tooFew few => exact absurd several (Nat.not_le.mpr few)
  | _ => simp [GroupError.turn]

variable (inside : ∀ index ∈ group.indices, index < count)

include inside

theorem FirstFault.gap (gap : ¬ Grouping.Gapless group.indices) :
    group.FirstFault count before (.notAdjacent group.sorted.indices) := by
  have same : group.sorted.indices.toFinset = group.indices.toFinset := by
    ext index
    rw [List.mem_toFinset, List.mem_toFinset, mem_sorted]
  refine ⟨.gap (Indices.distinct_ascending group.indices) same gap, ?_⟩
  intro other fault
  cases fault with
  | duplicateId known => exact absurd known newId
  | tooFew few => exact absurd several (Nat.not_le.mpr few)
  | outOfRange least => exact absurd (inside _ least.1.1) (Nat.not_lt.mpr least.1.2)
  | _ => simp [GroupError.turn]

variable (gapless : Grouping.Gapless group.indices)

include gapless

theorem FirstFault.overlap {index : Nat} (least :
    IsLeast {index | index ∈ group.indices ∧ ∃ other ∈ before, index ∈ other.indices} index) :
    group.FirstFault count before (.sharedClause index) := by
  refine ⟨.overlap least, ?_⟩
  intro other fault
  cases fault with
  | duplicateId known => exact absurd known newId
  | tooFew few => exact absurd several (Nat.not_le.mpr few)
  | outOfRange least => exact absurd (inside _ least.1.1) (Nat.not_lt.mpr least.1.2)
  | gap _ _ gap => exact absurd gapless gap
  | overlap _ => exact Nat.le_refl _

theorem not_fault (apart : ∀ index ∈ group.indices, ¬ ∃ other ∈ before, index ∈ other.indices) :
    ¬ group.Fault count before error := by
  intro fault
  cases fault with
  | duplicateId known => exact newId known
  | tooFew few => exact absurd several (Nat.not_le.mpr few)
  | outOfRange least => exact absurd (inside _ least.1.1) (Nat.not_lt.mpr least.1.2)
  | gap _ _ gap => exact gap gapless
  | overlap least => exact apart _ least.1.1 least.1.2

end

end Group

/-! The check of groups. -/

theorem exists_split_cons {first : Group} {later : List Group}
    {holds : List Group → Group → Prop} :
    (∃ passed group rest, first :: later = passed ++ group :: rest ∧ holds passed group) ↔
      holds [] first ∨
        ∃ passed group rest, later = passed ++ group :: rest ∧ holds (first :: passed) group := by
  constructor
  · rintro ⟨passed, group, rest, split, here⟩
    cases passed with
    | nil =>
        obtain ⟨rfl, -⟩ := List.cons.inj split
        exact .inl here
    | cons head passed =>
        obtain ⟨rfl, later⟩ := List.cons.inj split
        exact .inr ⟨passed, group, rest, later, here⟩
  · rintro (here | ⟨passed, group, rest, rfl, there⟩)
    · exact ⟨[], first, later, rfl, here⟩
    · exact ⟨first :: passed, group, rest, rfl, there⟩

structure Seen (before : List Group) (ids : List String) (covered : List Nat) : Prop where
  ids : ∀ id, id ∈ ids ↔ ∃ group ∈ before, group.id = id
  covered : ∀ index, index ∈ covered ↔ ∃ group ∈ before, index ∈ group.indices

namespace Seen

variable {count : Nat} {before : List Group} {ids : List String} {covered : List Nat}
  {group : Group}

theorem nil : Seen [] [] [] := ⟨by simp, by simp⟩

theorem snoc (seen : Seen before ids covered) (group : Group) :
    Seen (before ++ [group]) (group.id :: ids) (group.sorted.indices ++ covered) where
  ids := by
    intro id
    rw [List.mem_cons, seen.ids]
    simp [or_and_right, exists_or, or_comm, eq_comm]
  covered := by
    intro index
    rw [List.mem_append, seen.covered, Group.mem_sorted]
    simp [or_and_right, exists_or, or_comm]

theorem check (seen : Seen before ids covered) (rest : List Group) :
    (∃ error, group.FirstFault count before error ∧
      checkGroupsFrom count ids covered (group :: rest) = .error error) ∨
    ((∀ error, ¬ group.Fault count before error) ∧
      checkGroupsFrom count ids covered (group :: rest) =
        checkGroupsFrom count (group.id :: ids) (group.sorted.indices ++ covered) rest) := by
  have ascending := Indices.distinct_ascending group.indices
  have members := fun index => Indices.mem_distinct index group.indices
  rw [checkGroupsFrom]
  -- Each check is reached by a group that has passed those before it.
  by_cases repeated : group.id ∈ ids
  · refine .inl ⟨_, ⟨.duplicateId ((seen.ids _).mp repeated), fun _ _ => Nat.zero_le _⟩, ?_⟩
    rw [if_pos (by simpa using repeated)]
  have newId := mt (seen.ids group.id).mpr repeated
  rw [if_neg (by simpa using repeated), Indices.length_distinct]
  by_cases few : group.indices.toFinset.card < 2
  · exact .inl ⟨_, .tooFew newId few, if_pos few⟩
  have several := Nat.le_of_not_lt few
  rw [if_neg few]
  cases outside : (Indices.distinct group.indices).find? (count ≤ ·) with
  | some index =>
      have least := Indices.isLeast_of_find? ascending outside
      simp only [members, decide_eq_true_eq] at least
      exact .inl ⟨_, .outOfRange newId several least, rfl⟩
  | none =>
      have inside : ∀ index ∈ group.indices, index < count := by simpa [members] using outside
      have nonempty : group.indices ≠ [] := by
        rintro empty
        simp [empty] at several
      by_cases gapless : Grouping.Gapless group.indices
      · have spans := (Grouping.isSome_span?_distinct nonempty).mpr gapless
        dsimp only
        rw [if_neg (by simpa using Option.ne_none_iff_isSome.mpr spans)]
        cases shared : (Indices.distinct group.indices).find? covered.contains with
        | some index =>
            have least := Indices.isLeast_of_find? ascending shared
            simp only [members, List.contains_iff_mem, seen.covered] at least
            exact .inl ⟨_, .overlap newId several inside gapless least, rfl⟩
        | none =>
            have apart : ∀ index ∈ group.indices, ¬ ∃ other ∈ before, index ∈ other.indices := by
              simpa only [List.find?_eq_none, members, List.contains_iff_mem, seen.covered]
                using shared
            exact .inr ⟨fun _ => Group.not_fault newId several inside gapless apart, rfl⟩
      · refine .inl ⟨_, .gap newId several inside gapless, if_pos ?_⟩
        rw [← Grouping.isSome_span?_distinct nonempty] at gapless
        simpa using gapless

theorem checkGroupsFrom_error_iff {groups : List Group} {error : GroupError}
    (seen : Seen before ids covered) :
    checkGroupsFrom count ids covered groups = .error error ↔
      ∃ passed group rest, groups = passed ++ group :: rest ∧
        checkGroupsFrom count ids covered passed = .ok () ∧
        group.FirstFault count (before ++ passed) error := by
  induction groups generalizing before ids covered with
  | nil => simp [checkGroupsFrom]
  | cons first later ih =>
      rw [exists_split_cons, List.append_nil]
      rcases seen.check later with ⟨fault, isFirst, refused⟩ | ⟨faultless, passes⟩
      · have blocked (passed : List Group) :
            checkGroupsFrom count ids covered (first :: passed) ≠ .ok () := by
          rcases seen.check passed with ⟨other, -, refused⟩ | ⟨faultless, -⟩
          · rw [refused]
            simp
          · exact absurd isFirst.1 (faultless fault)
        rw [refused, Except.error.injEq]
        constructor
        · rintro rfl
          exact .inl ⟨rfl, isFirst⟩
        · rintro (⟨-, fault⟩ | ⟨passed, -, -, -, accepted, -⟩)
          · exact isFirst.unique fault
          · exact absurd accepted (blocked passed)
      · have passing (passed : List Group) : checkGroupsFrom count ids covered (first :: passed) =
            checkGroupsFrom count (first.id :: ids) (first.sorted.indices ++ covered) passed := by
          rcases seen.check passed with ⟨error, fault, -⟩ | ⟨-, passes⟩
          · exact absurd fault.1 (faultless error)
          · exact passes
        have here : ¬ first.FirstFault count before error := fun fault => faultless error fault.1
        rw [passes, ih (seen.snoc first), or_iff_right fun both => here both.2]
        simp only [passing, List.append_assoc, List.singleton_append]

end Seen

structure WellFormed (count : Nat) (groups : List Group) : Prop where
  ids : (groups.map Group.id).Nodup
  several : ∀ group ∈ groups, 2 ≤ group.indices.toFinset.card
  inside : ∀ group ∈ groups, ∀ index ∈ group.indices, index < count
  gapless : ∀ group ∈ groups, Grouping.Gapless group.indices
  apart : groups.Pairwise Group.Apart

theorem checkGroups_ok_iff_wellFormed {count : Nat} {groups : List Group} :
    checkGroups count groups = .ok () ↔ WellFormed count groups := by
  have run (group : Group) : group.sorted.IsRun count ↔ 2 ≤ group.indices.toFinset.card ∧
      (∀ index ∈ group.indices, index < count) ∧ Grouping.Gapless group.indices := by
    have members : ∀ index, index ∈ group.sorted.indices ↔ index ∈ group.indices :=
      fun index => Group.mem_sorted
    have size : group.sorted.indices.length = group.indices.toFinset.card :=
      Indices.length_distinct group.indices
    rw [Group.isRun_iff (Indices.distinct_ascending group.indices), size]
    simp only [members]
    refine and_congr_right fun several => and_congr_right fun _ => ?_
    refine Grouping.isSome_span?_distinct ?_
    rintro empty
    simp [empty] at several
  rw [checkGroups_ok_iff]
  constructor
  · rintro ⟨ids, runs, apart⟩
    simp only [run] at runs
    exact ⟨ids, fun group member => (runs group member).1,
      fun group member => (runs group member).2.1,
      fun group member => (runs group member).2.2, apart⟩
  · intro formed
    exact ⟨formed.ids, fun group member => (run group).mpr
      ⟨formed.several group member, formed.inside group member, formed.gapless group member⟩,
      formed.apart⟩

namespace Bar

example : load ⟨[{}, {}], [⟨"a", .and, [1, 0, 1]⟩, ⟨"b", .or, [7, 0, 5]⟩, ⟨"a", .or, []⟩]⟩ =
    .error (.indexOutOfRange 5 2) := by rfl

end Bar

end SearchFilter
