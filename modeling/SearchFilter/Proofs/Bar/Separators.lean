import SearchFilter.Proofs.Bar.Validity
import SearchFilter.Proofs.Filter.Links

/-!
What is drawn between two clauses is how the tree joins them. On a bar all groups are in use, so
that the owner of a clause is the group that holds it.
-/

namespace SearchFilter

namespace Grouping

def ownerOf (group : Group) : Owner := ⟨group.connector, group.indices⟩

variable {count : Nat} {groups : List Group}

theorem members_eq_indices {group : Group} (run : group.IsRun count) :
    group.members count = group.indices := by
  apply Indices.eq_of_ascending Group.members_ascending run.ascending
  intro index
  rw [Group.mem_members]
  exact ⟨And.right, fun member => ⟨run.lt_count index member, member⟩⟩

theorem ownersFrom_arranged {taken : List Owner} (arranged : Arranged count groups)
    (free : ∀ owner ∈ taken, ∀ group ∈ groups, ∀ index ∈ group.indices, index ∉ owner.members) :
    ownersFrom count taken groups = groups.map ownerOf := by
  induction groups generalizing taken with
  | nil => rfl
  | cons group rest ih =>
      have run := arranged.runs group List.mem_cons_self
      have apart := (List.pairwise_cons.mp arranged.apart).1
      have used : ¬ (group.members count = [] ∨ ¬ Gapless (group.members count) ∨
          ∃ owner ∈ taken, ∃ index ∈ group.members count, index ∈ owner.members) := by
        rw [members_eq_indices run]
        rintro (empty | gap | ⟨owner, known, index, inside, shared⟩)
        · have large := run.two_le_length
          simp [empty] at large
        · obtain ⟨start, size, -, -, range⟩ := run
          exact gap (range ▸ gapless_range' start size)
        · exact free owner known group List.mem_cons_self index inside shared
      rw [ownersFrom, if_neg used, members_eq_indices run, List.map_cons]
      refine congrArg _ (ih (arranged.sublist (List.sublist_cons_self group rest)) ?_)
      intro owner known other member index inside shared
      rcases List.mem_cons.mp known with rfl | before
      · exact apart other member index shared inside
      · exact free owner before other (List.mem_cons_of_mem group member) index inside shared

theorem ownerOf?_arranged (arranged : Arranged count groups) (index : Nat) :
    ownerOf? (owners count groups) index = (groupAt groups index).map ownerOf := by
  have order : byFirst groups = groups := arranged.ascending.insertionSort_eq
  rw [owners, order, ownersFrom_arranged arranged (by simp), ownerOf?, List.find?_map]
  rfl

end Grouping

theorem getElem?_separatorsFrom (groups : List Group) (start index : Nat) (clauses : List Clause) :
    (separatorsFrom groups start clauses)[index]? = (clauses[index + 1]?).map
      (Separator.of (groupAt groups (start + index)) (groupAt groups (start + index + 1))) := by
  induction clauses generalizing start index with
  | nil => rfl
  | cons first rest ih =>
      cases rest with
      | nil => rfl
      | cons second rest =>
          cases index with
          | zero => rfl
          | succ index =>
              have place : start + (index + 1) = start + 1 + index := by omega
              rw [separatorsFrom, List.getElem?_cons_succ, ih, place]
              rfl

namespace Bar

def Together (bar : Bar) (first second : Nat) : Prop :=
  ∃ group ∈ bar.groups, first ∈ group.indices ∧ second ∈ group.indices

variable {bar : Bar} {first second : Nat}

theorem together_iff (sound : bar.Sound) :
    bar.Together first second ↔
      ∃ group, groupAt bar.groups first = some group ∧ groupAt bar.groups second = some group := by
  simp only [groupAt_eq_some_iff sound.arranged.apart]
  constructor
  · rintro ⟨group, member, inFirst, inSecond⟩
    exact ⟨group, ⟨member, inFirst⟩, member, inSecond⟩
  · rintro ⟨group, ⟨member, inFirst⟩, -, inSecond⟩
    exact ⟨group, member, inFirst, inSecond⟩

theorem groupAt_eq_of_id (sound : bar.Sound) {left right : Group}
    (leftHolds : groupAt bar.groups first = some left)
    (rightHolds : groupAt bar.groups second = some right) (same : left.id = right.id) :
    left = right := by
  have apart := sound.arranged.apart
  exact List.inj_on_of_nodup_map sound.ids ((groupAt_eq_some_iff apart).mp leftHolds).1
    ((groupAt_eq_some_iff apart).mp rightHolds).1 same

theorem separator_cases (sound : bar.Sound) (clause : Clause) :
    (∃ group, groupAt bar.groups first = some group ∧ groupAt bar.groups second = some group ∧
      Separator.of (groupAt bar.groups first) (groupAt bar.groups second) clause =
        ⟨group.connector, false, group.id⟩) ∨
    (¬ bar.Together first second ∧
      Separator.of (groupAt bar.groups first) (groupAt bar.groups second) clause =
        ⟨clause.effectiveConnector,
          (groupAt bar.groups first).isSome || (groupAt bar.groups second).isSome, none⟩) := by
  rw [together_iff sound]
  cases leftHolds : groupAt bar.groups first with
  | none => right; simp [Separator.of]
  | some left =>
      cases rightHolds : groupAt bar.groups second with
      | none => right; simp [Separator.of]
      | some right =>
          by_cases same : left.id = right.id
          · obtain rfl := groupAt_eq_of_id sound leftHolds rightHolds same
            exact .inl ⟨left, rfl, rfl, by simp [Separator.of]⟩
          · refine .inr ⟨?_, by simp [Separator.of, same]⟩
            rintro ⟨group, here, there⟩
            obtain rfl := Option.some.inj here
            obtain rfl := Option.some.inj there
            exact same rfl

theorem connector_eq_link (sound : bar.Sound) (before clause : Clause) :
    (Separator.of (groupAt bar.groups first) (groupAt bar.groups second) clause).connector =
      Grouping.link
        (Grouping.ownerOf? (Grouping.owners bar.clauses.length bar.groups) first, before)
        (Grouping.ownerOf? (Grouping.owners bar.clauses.length bar.groups) second, clause) := by
  rw [Grouping.ownerOf?_arranged sound.arranged, Grouping.ownerOf?_arranged sound.arranged]
  rcases separator_cases sound clause with ⟨group, here, there, drawn⟩ | ⟨separate, drawn⟩
  · rw [drawn, here, there]
    simp [Grouping.link, Grouping.ownerOf]
  · rw [drawn]
    symm
    refine Grouping.link_of_apart ?_
    cases leftHolds : groupAt bar.groups first with
    | none => exact .inl rfl
    | some left =>
        refine .inr fun same => separate ?_
        obtain ⟨right, rightHolds, equal⟩ := Option.map_eq_some_iff.mp same.symm
        have apart := sound.arranged.apart
        have leftMember := (groupAt_eq_some_iff apart).mp leftHolds
        have rightMember := (groupAt_eq_some_iff apart).mp rightHolds
        have indices : right.indices = left.indices := congrArg Grouping.Owner.members equal
        exact ⟨left, leftMember.1, leftMember.2, indices ▸ rightMember.2⟩

theorem isSome_groupAt {index : Nat} :
    (groupAt bar.groups index).isSome = true ↔ ∃ group ∈ bar.groups, index ∈ group.indices := by
  rw [← not_iff_not, Bool.not_eq_true, Option.isSome_eq_false_iff, Option.isNone_iff_eq_none,
    groupAt_eq_none_iff]
  simp

theorem separator_group_iff (sound : bar.Sound) (clause : Clause) (id : String) :
    (Separator.of (groupAt bar.groups first) (groupAt bar.groups second) clause).group = some id ↔
      ∃ group ∈ bar.groups, group.id = id ∧ first ∈ group.indices ∧ second ∈ group.indices := by
  have apart := sound.arranged.apart
  rcases separator_cases sound clause with ⟨group, here, there, drawn⟩ | ⟨separate, drawn⟩
  · rw [drawn]
    have firstMember := (groupAt_eq_some_iff apart).mp here
    have secondMember := (groupAt_eq_some_iff apart).mp there
    constructor
    · intro same
      exact ⟨group, firstMember.1, Option.some.inj same, firstMember.2, secondMember.2⟩
    · rintro ⟨other, member, rfl, inFirst, -⟩
      have found := (groupAt_eq_some_iff apart).mpr ⟨member, inFirst⟩
      obtain rfl := Option.some.inj (here.symm.trans found)
      rfl
  · rw [drawn]
    constructor
    · intro named
      simp at named
    · rintro ⟨group, member, -, inFirst, inSecond⟩
      exact absurd ⟨group, member, inFirst, inSecond⟩ separate

theorem separator_boundary_iff (sound : bar.Sound) (clause : Clause) :
    (Separator.of (groupAt bar.groups first) (groupAt bar.groups second) clause).isBoundary = true ↔
      ¬ bar.Together first second ∧
        ∃ group ∈ bar.groups, first ∈ group.indices ∨ second ∈ group.indices := by
  rcases separator_cases sound clause with ⟨group, here, there, drawn⟩ | ⟨separate, drawn⟩
  · have together := (together_iff sound).mpr ⟨group, here, there⟩
    rw [drawn]
    constructor
    · intro edge
      exact absurd edge Bool.false_ne_true
    · rintro ⟨separate, -⟩
      exact absurd together separate
  · rw [drawn, Bool.or_eq_true, isSome_groupAt, isSome_groupAt]
    constructor
    · rintro (⟨group, member, inside⟩ | ⟨group, member, inside⟩)
      · exact ⟨separate, group, member, .inl inside⟩
      · exact ⟨separate, group, member, .inr inside⟩
    · rintro ⟨-, group, member, inFirst | inSecond⟩
      · exact .inl ⟨group, member, inFirst⟩
      · exact .inr ⟨group, member, inSecond⟩

end Bar

end SearchFilter
