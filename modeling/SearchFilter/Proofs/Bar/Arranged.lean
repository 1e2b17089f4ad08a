import SearchFilter.Bar.Basic
import SearchFilter.Proofs.Filter.Indices

/-!
Groups in their places: each covers a run of at least two clauses, and they follow one another. The
changes of a bar keep them so.
-/

namespace SearchFilter

namespace Group

def IsRun (count : Nat) (group : Group) : Prop :=
  ∃ start size, 2 ≤ size ∧ start + size ≤ count ∧ group.indices = List.range' start size

def Apart (first second : Group) : Prop :=
  ∀ index ∈ first.indices, index ∉ second.indices

def Before (first second : Group) : Prop :=
  ∀ low ∈ first.indices, ∀ high ∈ second.indices, low < high

variable {group first second : Group} {count index : Nat}

theorem Apart.symm (apart : first.Apart second) : second.Apart first :=
  fun index inSecond inFirst => apart index inFirst inSecond

theorem Before.apart (before : first.Before second) : first.Apart second :=
  fun index inFirst inSecond => Nat.lt_irrefl index (before index inFirst index inSecond)

theorem first_eq_some_iff :
    group.first = some index ↔ index ∈ group.indices ∧ ∀ other ∈ group.indices, index ≤ other :=
  List.min?_eq_some_iff

theorem last_eq_some_iff :
    group.last = some index ↔ index ∈ group.indices ∧ ∀ other ∈ group.indices, other ≤ index :=
  List.max?_eq_some_iff

/-! Runs. -/

theorem IsRun.of_mem {start size : Nat} (large : 2 ≤ size) (bound : start + size ≤ count)
    (ascending : group.indices.Pairwise (· < ·))
    (members : ∀ index, index ∈ group.indices ↔ start ≤ index ∧ index < start + size) :
    group.IsRun count := by
  refine ⟨start, size, large, bound, ?_⟩
  apply Indices.eq_of_ascending ascending List.pairwise_lt_range'
  intro index
  rw [members, List.mem_range'_1]

theorem IsRun.bounds (run : group.IsRun count) :
    ∃ start size, 2 ≤ size ∧ start + size ≤ count ∧
      ∀ index, index ∈ group.indices ↔ start ≤ index ∧ index < start + size := by
  obtain ⟨start, size, large, bound, range⟩ := run
  refine ⟨start, size, large, bound, ?_⟩
  intro index
  rw [range, List.mem_range'_1]

theorem IsRun.ascending (run : group.IsRun count) : group.indices.Pairwise (· < ·) := by
  obtain ⟨start, size, -, -, range⟩ := run
  rw [range]
  exact List.pairwise_lt_range'

theorem IsRun.lt_count (run : group.IsRun count) : ∀ index ∈ group.indices, index < count := by
  obtain ⟨start, size, -, bound, members⟩ := run.bounds
  intro index member
  have upper := ((members index).mp member).2
  omega

theorem IsRun.two_le_length (run : group.IsRun count) : 2 ≤ group.indices.length := by
  obtain ⟨start, size, large, -, range⟩ := run
  rw [range, List.length_range']
  exact large

theorem IsRun.mono {more : Nat} (run : group.IsRun count) (grown : count ≤ more) :
    group.IsRun more := by
  obtain ⟨start, size, large, bound, range⟩ := run
  exact ⟨start, size, large, Nat.le_trans bound grown, range⟩

theorem first_of_mem {start size : Nat} (positive : 0 < size)
    (members : ∀ index, index ∈ group.indices ↔ start ≤ index ∧ index < start + size) :
    group.first = some start := by
  rw [first_eq_some_iff, members]
  exact ⟨by omega, fun index member => ((members index).mp member).1⟩

theorem IsRun.exists_first (run : group.IsRun count) : ∃ start, group.first = some start := by
  obtain ⟨start, size, large, -, members⟩ := run.bounds
  exact ⟨start, first_of_mem (by omega) members⟩

theorem IsRun.last_ne_iff (run : group.IsRun count) (inside : index ∈ group.indices) :
    group.last ≠ some index ↔ index + 1 ∈ group.indices := by
  obtain ⟨start, size, -, -, members⟩ := run.bounds
  rw [ne_eq, last_eq_some_iff]
  constructor
  · intro notLast
    by_contra alone
    refine notLast ⟨inside, ?_⟩
    intro other member
    rw [members] at inside alone member
    omega
  · rintro next ⟨-, last⟩
    exact Nat.not_succ_le_self index (last (index + 1) next)

theorem IsRun.before (run : first.IsRun count) (other : second.IsRun count)
    (apart : first.Apart second) (order : first.first.getD 0 ≤ second.first.getD 0) :
    first.Before second := by
  obtain ⟨start, size, large, -, members⟩ := run.bounds
  obtain ⟨begin, extent, wide, -, inside⟩ := other.bounds
  rw [first_of_mem (by omega) members, first_of_mem (by omega) inside, Option.getD_some,
    Option.getD_some] at order
  have later : start + size ≤ begin := by
    by_contra overlap
    exact apart begin ((members begin).mpr (by omega)) ((inside begin).mpr (by omega))
  intro low inFirst high inSecond
  have upper := ((members low).mp inFirst).2
  have lower := ((inside high).mp inSecond).1
  omega

/-! Groups moved for a clause that is inserted. -/

theorem mem_shiftedUp {member : Nat} :
    member ∈ (Bar.shiftedUp index group).indices ↔
      ∃ old ∈ group.indices, (if index < old then old + 1 else old) = member :=
  List.mem_map

theorem shiftedUp_ascending (index : Nat) (ascending : group.indices.Pairwise (· < ·)) :
    (Bar.shiftedUp index group).indices.Pairwise (· < ·) := by
  refine List.pairwise_map.mpr (ascending.imp ?_)
  intro low high less
  split <;> split <;> omega

theorem IsRun.shiftedUp (run : group.IsRun count)
    (whole : index ∈ group.indices → group.last = some index) :
    (Bar.shiftedUp index group).IsRun (count + 1) := by
  have ascending := shiftedUp_ascending index run.ascending
  obtain ⟨start, size, large, bound, members⟩ := run.bounds
  by_cases before : start + size ≤ index + 1
  · have kept : start + size ≤ count + 1 := by omega
    refine IsRun.of_mem large kept ascending ?_
    intro member
    rw [mem_shiftedUp]
    constructor
    · rintro ⟨old, inside, rfl⟩
      rw [members] at inside
      split <;> omega
    · intro inside
      exact ⟨member, (members member).mpr inside, if_neg (by omega)⟩
  · have after : index < start := by
      by_contra inside
      have last := last_eq_some_iff.mp (whole ((members index).mpr (by omega)))
      have greatest := last.2 (index + 1) ((members (index + 1)).mpr (by omega))
      omega
    have moved : start + 1 + size ≤ count + 1 := by omega
    refine IsRun.of_mem large moved ascending ?_
    intro member
    rw [mem_shiftedUp]
    constructor
    · rintro ⟨old, inside, rfl⟩
      rw [members] at inside
      split <;> omega
    · intro inside
      refine ⟨member - 1, (members (member - 1)).mpr (by omega), ?_⟩
      rw [if_pos (by omega)]
      omega

theorem Before.shiftedUp (before : first.Before second) :
    (Bar.shiftedUp index first).Before (Bar.shiftedUp index second) := by
  intro low inFirst high inSecond
  obtain ⟨oldLow, lowMember, rfl⟩ := mem_shiftedUp.mp inFirst
  obtain ⟨oldHigh, highMember, rfl⟩ := mem_shiftedUp.mp inSecond
  have less := before oldLow lowMember oldHigh highMember
  split <;> split <;> omega

/-! Groups moved for a clause that is removed. -/

theorem mem_shiftedDown {member : Nat} :
    member ∈ (Bar.shiftedDown index group).indices ↔
      (if member < index then member else member + 1) ∈ group.indices := by
  simp only [Bar.shiftedDown, List.mem_map, List.mem_filter, decide_eq_true_eq]
  constructor
  · rintro ⟨old, ⟨inside, other⟩, rfl⟩
    have same : (if (if index < old then old - 1 else old) < index then
        (if index < old then old - 1 else old) else
        (if index < old then old - 1 else old) + 1) = old := by
      split <;> split <;> omega
    rwa [same]
  · intro inside
    refine ⟨_, ⟨inside, ?_⟩, ?_⟩
    · split <;> omega
    · split <;> split <;> omega

theorem shiftedDown_ascending (index : Nat) (ascending : group.indices.Pairwise (· < ·)) :
    (Bar.shiftedDown index group).indices.Pairwise (· < ·) := by
  refine List.pairwise_map.mpr ((ascending.filter _).imp_of_mem ?_)
  intro low high lowMember highMember less
  have lowOther := of_decide_eq_true (List.mem_filter.mp lowMember).2
  have highOther := of_decide_eq_true (List.mem_filter.mp highMember).2
  split <;> split <;> omega

theorem IsRun.shiftedDown_range (run : group.IsRun count) (inside : index < count) :
    ∃ start size, start + size ≤ count - 1 ∧
      (Bar.shiftedDown index group).indices = List.range' start size := by
  have ascending := shiftedDown_ascending index run.ascending
  obtain ⟨start, size, large, bound, members⟩ := run.bounds
  have range {low extent : Nat} (same : ∀ member,
      (if member < index then member else member + 1) ∈ group.indices ↔
        low ≤ member ∧ member < low + extent) :
      (Bar.shiftedDown index group).indices = List.range' low extent := by
    apply Indices.eq_of_ascending ascending List.pairwise_lt_range'
    intro member
    rw [mem_shiftedDown, same, List.mem_range'_1]
  by_cases before : index < start
  · refine ⟨start - 1, size, by omega, range ?_⟩
    intro member
    rw [members]
    split <;> omega
  · by_cases within : index < start + size
    · refine ⟨start, size - 1, by omega, range ?_⟩
      intro member
      rw [members]
      split <;> omega
    · refine ⟨start, size, by omega, range ?_⟩
      intro member
      rw [members]
      split <;> omega

theorem IsRun.shiftedDown (run : group.IsRun count) (inside : index < count)
    (large : 2 ≤ (Bar.shiftedDown index group).indices.length) :
    (Bar.shiftedDown index group).IsRun (count - 1) := by
  obtain ⟨start, size, bound, range⟩ := run.shiftedDown_range inside
  rw [range, List.length_range'] at large
  exact ⟨start, size, large, bound, range⟩

theorem Before.shiftedDown (before : first.Before second) :
    (Bar.shiftedDown index first).Before (Bar.shiftedDown index second) := by
  intro low inFirst high inSecond
  have less := before _ (mem_shiftedDown.mp inFirst) _ (mem_shiftedDown.mp inSecond)
  split at less <;> split at less <;> omega

end Group

/-- Groups of adjacent clauses that follow one another, among so many clauses. -/
structure Arranged (count : Nat) (groups : List Group) : Prop where
  runs : ∀ group ∈ groups, group.IsRun count
  inOrder : groups.Pairwise Group.Before

namespace Arranged

variable {count index : Nat} {groups : List Group}

theorem nil : Arranged count [] := ⟨by simp, .nil⟩

theorem apart (arranged : Arranged count groups) : groups.Pairwise Group.Apart :=
  arranged.inOrder.imp Group.Before.apart

theorem mono {more : Nat} (arranged : Arranged count groups) (grown : count ≤ more) :
    Arranged more groups :=
  ⟨fun group member => (arranged.runs group member).mono grown, arranged.inOrder⟩

theorem sublist {fewer : List Group} (arranged : Arranged count groups)
    (kept : fewer.Sublist groups) : Arranged count fewer :=
  ⟨fun group member => arranged.runs group (kept.subset member), arranged.inOrder.sublist kept⟩

theorem shiftedUp (arranged : Arranged count groups)
    (whole : ∀ group ∈ groups, index ∈ group.indices → group.last = some index) :
    Arranged (count + 1) (groups.map (Bar.shiftedUp index)) := by
  constructor
  · intro moved member
    obtain ⟨group, groupMember, rfl⟩ := List.mem_map.mp member
    exact (arranged.runs group groupMember).shiftedUp (whole group groupMember)
  · exact List.pairwise_map.mpr (arranged.inOrder.imp Group.Before.shiftedUp)

theorem shiftedDown (arranged : Arranged count groups) (inside : index < count) :
    Arranged (count - 1)
      ((groups.map (Bar.shiftedDown index)).filter fun group => 2 ≤ group.indices.length) := by
  constructor
  · intro moved member
    obtain ⟨mapped, large⟩ := List.mem_filter.mp member
    obtain ⟨group, groupMember, rfl⟩ := List.mem_map.mp mapped
    exact (arranged.runs group groupMember).shiftedDown inside (of_decide_eq_true large)
  · exact (List.pairwise_map.mpr (arranged.inOrder.imp Group.Before.shiftedDown)).filter _

end Arranged

theorem Bar.mem_ordered {group : Group} {groups : List Group} :
    group ∈ Bar.ordered groups ↔ group ∈ groups :=
  Indices.mem_sortBy _

theorem arranged_ordered {count : Nat} {groups : List Group}
    (runs : ∀ group ∈ groups, group.IsRun count) (apart : groups.Pairwise Group.Apart) :
    Arranged count (Bar.ordered groups) := by
  have runsOrdered : ∀ group ∈ Bar.ordered groups, group.IsRun count :=
    fun group member => runs group (Bar.mem_ordered.mp member)
  have apartOrdered : (Bar.ordered groups).Pairwise Group.Apart :=
    (Indices.sortBy_perm _ groups).symm.pairwise apart Group.Apart.symm
  have ascending := Indices.sortBy_ascending (fun group : Group => group.first.getD 0) groups
  refine ⟨runsOrdered, (apartOrdered.and ascending).imp_of_mem ?_⟩
  intro first second firstMember secondMember both
  exact (runsOrdered first firstMember).before (runsOrdered second secondMember) both.1 both.2

theorem Arranged.ascending {count : Nat} {groups : List Group} (arranged : Arranged count groups) :
    groups.Pairwise fun first second => first.first.getD 0 ≤ second.first.getD 0 := by
  refine arranged.inOrder.imp_of_mem ?_
  intro first second firstMember secondMember before
  obtain ⟨low, lowFirst⟩ := (arranged.runs first firstMember).exists_first
  obtain ⟨high, highFirst⟩ := (arranged.runs second secondMember).exists_first
  have less := before low (Group.first_eq_some_iff.mp lowFirst).1 high
    (Group.first_eq_some_iff.mp highFirst).1
  rw [lowFirst, highFirst, Option.getD_some, Option.getD_some]
  omega

theorem Arranged.ordered_eq {count : Nat} {groups : List Group} (arranged : Arranged count groups) :
    Bar.ordered groups = groups := by
  rw [Bar.ordered, Indices.sortBy_eq_insertionSort]
  exact arranged.ascending.insertionSort_eq

/-! The group that holds a clause. -/

theorem groupAt_eq_none_iff {groups : List Group} {index : Nat} :
    groupAt groups index = none ↔ ∀ group ∈ groups, index ∉ group.indices := by
  rw [groupAt, List.find?_eq_none]
  simp only [Group.contains_iff]

theorem groupAt_eq_some_iff {groups : List Group} {index : Nat} {group : Group}
    (apart : groups.Pairwise Group.Apart) :
    groupAt groups index = some group ↔ group ∈ groups ∧ index ∈ group.indices := by
  rw [groupAt]
  constructor
  · intro found
    have inside := List.find?_some found
    exact ⟨List.mem_of_find?_eq_some found, (group.contains_iff index).mp inside⟩
  · rintro ⟨member, inside⟩
    refine Indices.find?_eq_some_of_pairwise ?_ member ((group.contains_iff index).mpr inside)
    refine apart.imp ?_
    intro first second separate both
    rw [first.contains_iff, second.contains_iff] at both
    exact separate index both.1 both.2

end SearchFilter
