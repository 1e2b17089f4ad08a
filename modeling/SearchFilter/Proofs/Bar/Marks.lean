import Mathlib.Order.Monotone.Basic
import SearchFilter.Bar.InPlace
import SearchFilter.Proofs.Bar.Arranged

/-!
The notes of groups on clauses. They are those that the groups call for before and after every
change, whether they are moved along, cleared one by one, or written anew.
-/

namespace SearchFilter

def Marked (groups : List Group) (clauses : List Clause) : Prop :=
  ∀ index clause, clauses[index]? = some clause → clause.mark = Bar.markAt groups index

variable {groups : List Group} {clauses : List Clause} {index : Nat}

namespace Bar

theorem markAt_of_not_mem (outside : ∀ group ∈ groups, index ∉ group.indices) :
    markAt groups index = GroupMark.none := by
  rw [markAt, groupAt_eq_none_iff.mpr outside]

theorem markAt_of_mem {group : Group} (apart : groups.Pairwise Group.Apart)
    (member : group ∈ groups) (inside : index ∈ group.indices) :
    markAt groups index = group.note index := by
  rw [markAt, (groupAt_eq_some_iff apart).mpr ⟨member, inside⟩]

theorem markAt_congr {others : List Group} (apart : groups.Pairwise Group.Apart)
    (apartOthers : others.Pairwise Group.Apart)
    (same : ∀ group : Group, index ∈ group.indices → (group ∈ groups ↔ group ∈ others)) :
    markAt groups index = markAt others index := by
  have found : groupAt groups index = groupAt others index := by
    apply Option.ext
    intro group
    rw [groupAt_eq_some_iff apart, groupAt_eq_some_iff apartOthers]
    exact and_congr_left fun inside => same group inside
  rw [markAt, markAt, found]

theorem length_marked (groups : List Group) (clauses : List Clause) :
    (marked groups clauses).length = clauses.length :=
  List.length_mapIdx

theorem marked_unmarked (groups : List Group) (clauses : List Clause) :
    marked groups (clauses.map Clause.unmarked) = marked groups clauses := by
  apply List.ext_getElem?
  intro index
  rw [marked, marked, List.getElem?_mapIdx, List.getElem?_mapIdx, List.getElem?_map, Option.map_map]
  rfl

theorem map_unmarked_marked (groups : List Group) (clauses : List Clause) :
    (marked groups clauses).map Clause.unmarked = clauses.map Clause.unmarked := by
  apply List.ext_getElem?
  intro index
  rw [List.getElem?_map, List.getElem?_map, marked, List.getElem?_mapIdx, Option.map_map]
  rfl

theorem marked_eq_of_unmarked_eq {others : List Clause}
    (same : clauses.map Clause.unmarked = others.map Clause.unmarked) :
    marked groups clauses = marked groups others := by
  rw [← marked_unmarked, same, marked_unmarked]

end Bar

namespace Marked

theorem marked (groups : List Group) (clauses : List Clause) :
    Marked groups (Bar.marked groups clauses) := by
  intro index clause found
  rw [Bar.marked, List.getElem?_mapIdx] at found
  obtain ⟨old, -, rfl⟩ := Option.map_eq_some_iff.mp found
  rfl

theorem marked_eq (notes : Marked groups clauses) : Bar.marked groups clauses = clauses := by
  apply List.ext_getElem?
  intro index
  rw [Bar.marked, List.getElem?_mapIdx]
  cases found : clauses[index]? with
  | none => rfl
  | some clause =>
      rw [Option.map_some, ← notes index clause found]

theorem append (notes : Marked groups clauses)
    (bounded : ∀ group ∈ groups, ∀ index ∈ group.indices, index < clauses.length)
    (clause : Clause) : Marked groups (clauses ++ [clause.unmarked]) := by
  intro index current found
  by_cases inside : index < clauses.length
  · rw [List.getElem?_append_left inside] at found
    exact notes index current found
  · rw [List.getElem?_append_right (Nat.le_of_not_lt inside)] at found
    have last := List.mem_singleton.mp (List.mem_of_getElem? found)
    rw [last, Bar.markAt_of_not_mem fun group member shared =>
      inside (bounded group member index shared)]
    rfl

theorem set {current changed : Clause} (notes : Marked groups clauses)
    (found : clauses[index]? = some current) (same : changed.mark = current.mark) :
    Marked groups (clauses.set index changed) := by
  intro position clause after
  rw [List.getElem?_set] at after
  split at after
  · rename_i equal
    obtain rfl := Option.some.inj (Option.ite_none_right_eq_some.mp after).2
    rw [same, ← equal]
    exact notes index current found
  · exact notes position clause after

end Marked

/-! Notes that move along with their clauses. -/

def Group.moved (place : Nat → Nat) (group : Group) : Group :=
  { group with indices := group.indices.map place }

section

variable {place : Nat → Nat} (mono : StrictMono place)

include mono

theorem Group.mem_moved {group : Group} :
    place index ∈ (group.moved place).indices ↔ index ∈ group.indices :=
  List.mem_map_of_injective mono.injective

theorem Group.note_moved (group : Group) (index : Nat) :
    (group.moved place).note (place index) = group.note index := by
  have first : (group.moved place).first = some (place index) ↔ group.first = some index := by
    rw [first_eq_some_iff, first_eq_some_iff, mem_moved mono]
    simp only [moved, List.forall_mem_map, mono.le_iff_le]
  have last : (group.moved place).last = some (place index) ↔ group.last = some index := by
    rw [last_eq_some_iff, last_eq_some_iff, mem_moved mono]
    simp only [moved, List.forall_mem_map, mono.le_iff_le]
  have firstSame := Bool.eq_iff_iff.mpr (beq_iff_eq.trans (first.trans beq_iff_eq.symm))
  have lastSame := Bool.eq_iff_iff.mpr (beq_iff_eq.trans (last.trans beq_iff_eq.symm))
  rw [note, note, firstSame, lastSame]
  rfl

theorem Bar.markAt_moved (groups : List Group) (index : Nat) :
    markAt (groups.map (Group.moved place)) (place index) = markAt groups index := by
  have found : groupAt (groups.map (Group.moved place)) (place index) =
      (groupAt groups index).map (Group.moved place) := by
    rw [groupAt, List.find?_map, groupAt]
    refine congrArg (fun test => (groups.find? test).map (Group.moved place)) ?_
    funext group
    exact Bool.eq_iff_iff.mpr (by
      rw [Function.comp_apply, Group.contains_iff, Group.contains_iff, Group.mem_moved mono])
  rw [markAt, markAt, found]
  cases groupAt groups index with
  | none => rfl
  | some group => exact group.note_moved mono index

end

def raised (index member : Nat) : Nat := if index < member then member + 1 else member

theorem raised_strictMono (index : Nat) : StrictMono (raised index) := by
  intro low high less
  rw [raised, raised]
  split <;> split <;> omega

theorem Marked.insertIdx (notes : Marked groups clauses) (connector : Option Connector) :
    Marked (groups.map (Bar.shiftedUp index))
      (clauses.insertIdx (index + 1) (Clause.empty connector)) := by
  intro position clause found
  have kept : ∀ old, clauses[old]? = some clause → raised index old = position →
      clause.mark = Bar.markAt (groups.map (Bar.shiftedUp index)) position := by
    intro old present moved
    rw [notes old clause present, ← moved]
    exact (Bar.markAt_moved (raised_strictMono index) groups old).symm
  rw [List.getElem?_insertIdx] at found
  split at found
  · exact kept position found (if_neg (by omega))
  · split at found
    · rename_i here
      obtain rfl := Option.some.inj (Option.ite_none_right_eq_some.mp found).2
      refine (Bar.markAt_of_not_mem ?_).symm
      intro moved member inside
      obtain ⟨group, -, rfl⟩ := List.mem_map.mp member
      obtain ⟨old, -, same⟩ := Group.mem_shiftedUp.mp inside
      split at same <;> omega
    · refine kept (position - 1) found ?_
      rw [raised, if_pos (by omega)]
      omega

end SearchFilter
