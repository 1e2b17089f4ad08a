import SearchFilter.Bar.State
import SearchFilter.Proofs.Bar.Arranged

/-!
Which groups are accepted when a state is loaded: those with ids of their own that cover runs of
clauses, apart from one another.
-/

namespace SearchFilter

def Group.sorted (group : Group) : Group :=
  { group with indices := Indices.distinct group.indices }

namespace Group

variable {group first second : Group} {count : Nat}

theorem mem_sorted {index : Nat} : index ∈ group.sorted.indices ↔ index ∈ group.indices :=
  Indices.mem_distinct index group.indices

theorem Apart.sorted (apart : first.Apart second) : first.sorted.Apart second.sorted := by
  intro index inFirst inSecond
  exact apart index (mem_sorted.mp inFirst) (mem_sorted.mp inSecond)

theorem isRun_iff (ascending : group.indices.Pairwise (· < ·)) :
    group.IsRun count ↔ 2 ≤ group.indices.length ∧ (∀ index ∈ group.indices, index < count) ∧
      (Indices.span? group.indices).isSome := by
  constructor
  · intro run
    refine ⟨run.two_le_length, run.lt_count, ?_⟩
    obtain ⟨start, size, large, -, range⟩ := run
    rw [range, Indices.span?_range' start size (by omega)]
    rfl
  · rintro ⟨large, bounded, gapless⟩
    obtain ⟨⟨start, stop⟩, span⟩ := Option.isSome_iff_exists.mp gapless
    obtain ⟨less, range⟩ := (Indices.span?_eq_some_iff ascending start stop).mp span
    have last : stop - 1 ∈ group.indices := by
      rw [range, List.mem_range'_1]
      omega
    have bound := bounded (stop - 1) last
    rw [range, List.length_range'] at large
    exact ⟨start, stop - start, large, by omega, range⟩

end Group

theorem checkGroupsFrom_cons_ok_iff {count : Nat} {ids : List String} {covered : List Nat}
    {group : Group} {rest : List Group} :
    checkGroupsFrom count ids covered (group :: rest) = .ok () ↔
      group.id ∉ ids ∧ group.sorted.IsRun count ∧ (∀ index ∈ group.indices, index ∉ covered) ∧
        checkGroupsFrom count (group.id :: ids) (group.sorted.indices ++ covered) rest =
          .ok () := by
  rw [checkGroupsFrom, Group.isRun_iff (Indices.distinct_ascending group.indices)]
  have covers : (∀ index ∈ group.indices, index ∉ covered) ↔
      ∀ index ∈ group.sorted.indices, index ∉ covered := by
    simp only [Group.mem_sorted]
  rw [covers]
  generalize same : group.sorted.indices = indices
  change Indices.distinct group.indices = indices at same
  rw [same]
  by_cases repeated : group.id ∈ ids
  · simp [repeated]
  by_cases small : indices.length < 2
  · simp [repeated, small, Nat.not_le.mpr small]
  rw [if_neg (by simpa using repeated), if_neg small]
  cases outside : indices.find? (count ≤ ·) with
  | some index =>
      have beyond : count ≤ index := by simpa using List.find?_some outside
      have member := List.mem_of_find?_eq_some outside
      simp only [reduceCtorEq, false_iff]
      rintro ⟨-, ⟨-, bounded, -⟩, -⟩
      exact absurd (bounded index member) (Nat.not_lt.mpr beyond)
  | none =>
      have bounded : ∀ index ∈ indices, index < count := by simpa using outside
      cases span : Indices.span? indices with
      | none => simp
      | some span =>
          cases shared : indices.find? covered.contains with
          | some index =>
              have taken : index ∈ covered := by simpa using List.find?_some shared
              have member := List.mem_of_find?_eq_some shared
              simp only [Option.isNone_some, Bool.false_eq_true, if_false, reduceCtorEq, false_iff]
              rintro ⟨-, -, uncovered, -⟩
              exact uncovered index member taken
          | none =>
              have uncovered : ∀ index ∈ indices, index ∉ covered := by simpa using shared
              simp only [repeated, Option.isNone_some, Option.isSome_some, Bool.false_eq_true,
                if_false, not_false_eq_true, true_and, and_true]
              exact ⟨fun accepted => ⟨⟨Nat.not_lt.mp small, bounded⟩, uncovered, accepted⟩,
                fun both => both.2.2⟩

theorem checkGroupsFrom_ok_iff {count : Nat} {ids : List String} {covered : List Nat}
    {groups : List Group} :
    checkGroupsFrom count ids covered groups = .ok () ↔
      (∀ group ∈ groups, group.id ∉ ids ∧ ∀ index ∈ group.indices, index ∉ covered) ∧
        (groups.map Group.id).Nodup ∧ (∀ group ∈ groups, group.sorted.IsRun count) ∧
        groups.Pairwise Group.Apart := by
  induction groups generalizing ids covered with
  | nil => simp [checkGroupsFrom]
  | cons group rest ih =>
      rw [checkGroupsFrom_cons_ok_iff, ih, List.forall_mem_cons, List.forall_mem_cons,
        List.map_cons, List.nodup_cons, List.pairwise_cons]
      constructor
      · rintro ⟨newId, run, uncovered, later, nodup, runs, apart⟩
        refine ⟨⟨⟨newId, uncovered⟩, ?_⟩, ⟨?_, nodup⟩, ⟨run, runs⟩, ?_, apart⟩
        · intro other member
          obtain ⟨fresh, free⟩ := later other member
          exact ⟨fun known => fresh (List.mem_cons_of_mem group.id known),
            fun index inside taken => free index inside (List.mem_append_right _ taken)⟩
        · intro known
          obtain ⟨other, member, same⟩ := List.mem_map.mp known
          exact (later other member).1 (same ▸ List.mem_cons_self)
        · intro other member index inGroup inOther
          exact (later other member).2 index inOther
            (List.mem_append_left _ (Group.mem_sorted.mpr inGroup))
      · rintro ⟨⟨⟨newId, uncovered⟩, later⟩, ⟨unused, nodup⟩, ⟨run, runs⟩, separate, apart⟩
        refine ⟨newId, run, uncovered, ?_, nodup, runs, apart⟩
        intro other member
        obtain ⟨fresh, free⟩ := later other member
        constructor
        · intro known
          rcases List.mem_cons.mp known with same | known
          · exact unused (List.mem_map.mpr ⟨other, member, same⟩)
          · exact fresh known
        · intro index inOther taken
          rcases List.mem_append.mp taken with inGroup | taken
          · exact separate other member index (Group.mem_sorted.mp inGroup) inOther
          · exact free index inOther taken

/-- Groups are accepted exactly when their ids differ, their indices are runs among the clauses, and
no two of them share a clause. -/
theorem checkGroups_ok_iff {count : Nat} {groups : List Group} :
    checkGroups count groups = .ok () ↔
      (groups.map Group.id).Nodup ∧ (∀ group ∈ groups, group.sorted.IsRun count) ∧
        groups.Pairwise Group.Apart := by
  rw [checkGroups, checkGroupsFrom_ok_iff]
  simp

end SearchFilter
