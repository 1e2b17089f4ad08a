import SearchFilter.Proofs.Bar.Separators
import SearchFilter.Proofs.Filter.Replaced

/-!
What a state shows does not depend on the order of its groups and of their indices, nor on the notes
on its clauses. So a state that is loaded shows the same, although all of these are made anew.
-/

namespace SearchFilter

/-! Groups in order. -/

theorem Bar.ordered_ordered (groups : List Group) : ordered (ordered groups) = ordered groups := by
  rw [ordered, Indices.sortBy_eq_insertionSort]
  exact (Indices.sortBy_ascending _ groups).insertionSort_eq

theorem Bar.isEmpty_ordered (groups : List Group) : (ordered groups).isEmpty = groups.isEmpty :=
  (Indices.sortBy_perm _ groups).isEmpty_eq

theorem placed_ordered (count : Nat) (groups : List Group) :
    placed count (Bar.ordered groups) = placed count groups := by
  have places (groups : List Group) :
      (Bar.ordered groups).filterMap (Group.place? count) = placed count groups :=
    Indices.filterMap_sortBy groups fun _ _ => Grouping.first_of_place?
  rw [← places, Bar.ordered_ordered, places]

theorem Tree.ofGroups?_ordered (clauses : List Clause) (groups : List Group) :
    ofGroups? clauses (Bar.ordered groups) = ofGroups? clauses groups := by
  rw [ofGroups?, ofGroups?, Bar.isEmpty_ordered, segments, segments, placed_ordered]

/-! Indices in order. -/

namespace Group

variable {count : Nat} {group : Group}

theorem members_sorted : group.sorted.members count = group.members count := by
  apply Indices.eq_of_ascending members_ascending members_ascending
  intro index
  rw [mem_members, mem_members, mem_sorted]

end Group

def Placed.sorted (place : Placed) : Placed := { place with group := place.group.sorted }

def Segment.sorted : Segment → Segment
  | .group owner start stop => .group owner.sorted start stop
  | .run start stop => .run start stop

theorem Group.place?_sorted (count : Nat) (group : Group) :
    group.sorted.place? count = (group.place? count).map Placed.sorted := by
  have span : group.sorted.span? count = group.span? count := by
    rw [span?, span?, distinct_filter_eq_members, distinct_filter_eq_members, members_sorted]
  rw [place?, place?, span, Option.map_map]
  rfl

theorem placed_sorted (count : Nat) (groups : List Group) :
    placed count (groups.map Group.sorted) = (placed count groups).map Placed.sorted := by
  have places : (groups.map Group.sorted).filterMap (Group.place? count) =
      (groups.filterMap (Group.place? count)).map Placed.sorted := by
    rw [List.filterMap_map, List.map_filterMap]
    exact List.filterMap_congr fun group _ => group.place?_sorted count
  have kept : ∀ place moved, (some ∘ Placed.sorted) place = some moved →
      moved.start = place.start := by
    intro place moved found
    obtain rfl := Option.some.inj found
    rfl
  have sorted := Indices.filterMap_sortBy (groups.filterMap (Group.place? count)) kept
  rw [List.filterMap_eq_map, ← places] at sorted
  exact sorted.symm

theorem segmentsFrom_sorted (count position : Nat) (places : List Placed) :
    segmentsFrom count position (places.map Placed.sorted) =
      (segmentsFrom count position places).map Segment.sorted := by
  induction places generalizing position with
  | nil =>
      rw [List.map_nil, segmentsFrom]
      split <;> rfl
  | cons next rest ih =>
      rw [List.map_cons, segmentsFrom, segmentsFrom, ih, ih, apply_ite (List.map Segment.sorted),
        List.map_append, apply_ite (List.map Segment.sorted)]
      rfl

theorem subtree?_sorted (clauses : List Clause) (segment : Segment) :
    segment.sorted.subtree? clauses = segment.subtree? clauses := by
  cases segment <;> rfl

theorem Tree.ofGroups?_sorted (clauses : List Clause) (groups : List Group) :
    ofGroups? clauses (groups.map Group.sorted) = ofGroups? clauses groups := by
  have items : (segments clauses.length (groups.map Group.sorted)).filterMap
      (Segment.subtree? clauses) =
        (segments clauses.length groups).filterMap (Segment.subtree? clauses) := by
    rw [segments, placed_sorted, segmentsFrom_sorted, List.filterMap_map]
    exact List.filterMap_congr fun segment _ => subtree?_sorted clauses segment
  rw [ofGroups?, ofGroups?, List.isEmpty_map, items]

/-! Notes. -/

theorem keeps_unmarked : Keeps Clause.unmarked := ⟨fun _ => rfl, fun _ => rfl⟩

theorem Rules.complete_unmarked (rules : Rules) (clause : Clause) :
    rules.complete clause.unmarked = rules.complete clause :=
  rules.complete_placed clause clause.connector GroupMark.none

theorem Tree.ofGroups?_unmarked {clauses others : List Clause}
    (same : clauses.map Clause.unmarked = others.map Clause.unmarked) (groups : List Group) :
    (ofGroups? clauses groups).map (replaced Clause.unmarked) =
      (ofGroups? others groups).map (replaced Clause.unmarked) := by
  rw [← ofGroups?_map keeps_unmarked, same, ofGroups?_map keeps_unmarked]

/-! Separators. -/

theorem Separator.of_sorted (before after : Option Group) (clause : Clause) :
    Separator.of (before.map Group.sorted) (after.map Group.sorted) clause =
      Separator.of before after clause := by
  cases before <;> cases after <;> rfl

namespace Bar

theorem groupAt_loaded {groups : List Group} (apart : groups.Pairwise Group.Apart)
    (index : Nat) :
    groupAt (ordered (groups.map Group.sorted)) index =
      (groupAt groups index).map Group.sorted := by
  have sortedApart : (ordered (groups.map Group.sorted)).Pairwise Group.Apart :=
    (Indices.sortBy_perm _ _).symm.pairwise
      (List.pairwise_map.mpr (apart.imp Group.Apart.sorted)) Group.Apart.symm
  apply Option.ext
  intro group
  rw [groupAt_eq_some_iff sortedApart, mem_ordered, List.mem_map, Option.map_eq_some_iff]
  simp only [groupAt_eq_some_iff apart]
  constructor
  · rintro ⟨⟨source, member, rfl⟩, inside⟩
    exact ⟨source, ⟨member, Group.mem_sorted.mp inside⟩, rfl⟩
  · rintro ⟨source, ⟨member, inside⟩, rfl⟩
    exact ⟨⟨source, member, rfl⟩, Group.mem_sorted.mpr inside⟩

theorem separators_loaded {groups : List Group} (apart : groups.Pairwise Group.Apart)
    (clauses : List Clause) :
    SearchFilter.separators (marked (ordered (groups.map Group.sorted)) clauses)
        (ordered (groups.map Group.sorted)) = SearchFilter.separators clauses groups := by
  apply List.ext_getElem?
  intro index
  rw [SearchFilter.separators, SearchFilter.separators, getElem?_separatorsFrom,
    getElem?_separatorsFrom, groupAt_loaded apart, groupAt_loaded apart, marked,
    List.getElem?_mapIdx, Option.map_map]
  refine Option.map_congr fun clause _ => ?_
  exact Separator.of_sorted _ _ clause

theorem tree?_loaded (groups : List Group) (clauses : List Clause) :
    (Tree.ofGroups? (marked (ordered (groups.map Group.sorted)) clauses)
        (ordered (groups.map Group.sorted))).map (Tree.replaced Clause.unmarked) =
      (Tree.ofGroups? clauses groups).map (Tree.replaced Clause.unmarked) := by
  rw [Tree.ofGroups?_ordered, Tree.ofGroups?_sorted]
  exact Tree.ofGroups?_unmarked (map_unmarked_marked _ clauses) groups

/-- A state that is loaded shows what its clauses and groups show as they are stored, in whatever
order these are and whatever the notes on the clauses say. The clauses keep their contents and
their order, and the state of the loaded bar is loaded as it is. -/
theorem load_keeps_meaning {state : State} {bar : Bar} (loaded : load state = .ok bar) :
    let stored := Tree.ofGroups? state.clauses state.groups
    bar.tree?.map (Tree.replaced Clause.unmarked) = stored.map (Tree.replaced Clause.unmarked) ∧
      (∀ compiler : Compiler, compiler.compile bar.tree? = compiler.compile stored) ∧
      (∀ rules : Rules, rules.preview bar.tree? = rules.preview stored) ∧
      bar.separators = SearchFilter.separators state.clauses state.groups ∧
      bar.clauses.map Clause.unmarked = state.clauses.map Clause.unmarked ∧
      ∃ again, load bar.state = .ok again ∧ again.state = bar.state := by
  intro stored
  have sound := load_sound loaded
  obtain ⟨⟨-, -, apart⟩, rfl⟩ := load_eq_ok_iff.mp loaded
  have tree := tree?_loaded state.groups state.clauses
  refine ⟨tree, ?_, ?_, separators_loaded apart state.clauses, map_unmarked_marked _ _, ?_⟩
  · intro compiler
    have kept := compiler.rules.complete_unmarked
    rw [← compiler.compile_replaced kept, ← compiler.compile_replaced kept stored, ← tree]
    rfl
  · intro rules
    have kept := rules.complete_unmarked
    rw [← rules.preview_replaced kept, ← rules.preview_replaced kept stored, ← tree]
    rfl
  · exact ⟨_, load_arranged sound.arranged sound.ids sound.notes, rfl⟩

theorem load_keeps_meaning_of_stale :
    let state : State := ⟨[{}, {}, { mark := ⟨some "old", true, false⟩ }, { connector := some .or },
      {}], [⟨"late", .or, [4, 3, 4]⟩, ⟨"early", .and, [1, 0]⟩]⟩
    ∃ bar, load state = .ok bar ∧ bar.groups.map Group.id = ["early", "late"] ∧
      bar.separators = SearchFilter.separators state.clauses state.groups ∧
      ∃ again, load bar.state = .ok again ∧ again.state = bar.state := by
  intro state
  have loaded : load state = .ok _ := rfl
  obtain ⟨-, -, -, separators, -, again⟩ := load_keeps_meaning loaded
  exact ⟨_, loaded, rfl, separators, again⟩

end Bar

end SearchFilter
