import SearchFilter.Proofs.Filter.Grouping

/-!
Every group is a segment or was left out for a reason. A group is left out when none of its indices
is that of a clause, when there is a gap among them, or when it begins inside a group that is kept.
-/

namespace SearchFilter

def Segment.owner? : Segment → Option Group
  | .group owner _ _ => some owner
  | .run _ _ => none

theorem Segment.owner?_eq (segment : Segment) :
    segment.owner? = segment.place?.map Placed.group := by
  cases segment <;> rfl

inductive LeftOut (count : Nat) (division : List Segment) (group : Group) : Prop
  | absent : group.members count = [] → LeftOut count division group
  | gap : ¬ Grouping.Gapless (group.members count) → LeftOut count division group
  | overlap {owner : Group} {start stop index : Nat} : .group owner start stop ∈ division →
      (∀ member ∈ group.members count, start ≤ member) → index ∈ group.members count →
      start ≤ index → index < stop → LeftOut count division group

section

variable {count : Nat} {groups : List Group}

theorem group_mem_segments {place : Placed} (kept : place ∈ keptFrom 0 (placed count groups)) :
    .group place.group place.start place.stop ∈ segments count groups := by
  rw [← segmentsFrom_place? count] at kept
  obtain ⟨segment, member, found⟩ := List.mem_filterMap.mp kept
  cases segment with
  | group owner start stop =>
      obtain rfl := Option.some.inj found
      exact member
  | run start stop => cases found

theorem fits_of_mem_segments {owner : Group} {start stop : Nat}
    (member : .group owner start stop ∈ segments count groups) :
    Placed.Fits count ⟨owner, start, stop⟩ :=
  Grouping.kept_fits _ (Grouping.kept_of_segment member rfl)

theorem filterMap_owner?_segments (count : Nat) (groups : List Group) :
    (segments count groups).filterMap Segment.owner? =
      (keptFrom 0 (placed count groups)).map Placed.group := by
  rw [← segmentsFrom_place? count, List.map_filterMap]
  exact List.filterMap_congr fun segment _ => segment.owner?_eq

theorem map_group_place? (count : Nat) (groups : List Group) :
    (groups.filterMap (Group.place? count)).map Placed.group =
      groups.filter fun group => (group.place? count).isSome := by
  induction groups with
  | nil => rfl
  | cons group rest ih =>
      cases found : group.place? count with
      | none => rw [List.filterMap_cons_none found, List.filter_cons_of_neg (by simp [found]), ih]
      | some place =>
          obtain ⟨rfl, -⟩ := Group.fits_of_place? found
          rw [List.filterMap_cons_some found, List.filter_cons_of_pos (by simp [found]),
            List.map_cons, ih]

theorem exists_passed (position : Nat) {places : List Placed}
    (ascending : places.Pairwise fun first second => first.start ≤ second.start) :
    ∃ passed, (keptFrom position places ++ passed).Perm places ∧
      ∀ place ∈ passed, place.start < position ∨
        ∃ kept ∈ keptFrom position places,
          kept.start ≤ place.start ∧ place.start < kept.stop := by
  induction places generalizing position with
  | nil => exact ⟨[], .nil, by simp⟩
  | cons next rest ih =>
      obtain ⟨above, tail⟩ := List.pairwise_cons.mp ascending
      rw [keptFrom]
      split
      · next before =>
        obtain ⟨passed, all, reasons⟩ := ih position tail
        refine ⟨next :: passed, List.perm_middle.trans (all.cons next), ?_⟩
        exact List.forall_mem_cons.mpr ⟨.inl before, reasons⟩
      · obtain ⟨passed, all, reasons⟩ := ih next.stop tail
        refine ⟨passed, all.cons next, ?_⟩
        intro place member
        right
        rcases reasons place member with inside | ⟨kept, later, begins, inside⟩
        · have behind := above place (all.subset (List.mem_append_right _ member))
          exact ⟨next, List.mem_cons_self, behind, inside⟩
        · exact ⟨kept, List.mem_cons_of_mem next later, begins, inside⟩

theorem leftOut_of_inside {place kept : Placed} (fits : place.Fits count)
    (member : kept ∈ keptFrom 0 (placed count groups)) (begins : kept.start ≤ place.start)
    (inside : place.start < kept.stop) :
    LeftOut count (segments count groups) place.group := by
  have first := (fits.mem_iff place.start).mpr ⟨Nat.le_refl _, fits.nonempty⟩
  refine .overlap (group_mem_segments member) ?_ first begins inside
  intro index indexMember
  exact Nat.le_trans begins ((fits.mem_iff index).mp indexMember).1

/-- The groups of the segments and those that were left out are all groups, each as often as it
was given. -/
theorem exists_leftOut (count : Nat) (groups : List Group) :
    ∃ leftOut, ((segments count groups).filterMap Segment.owner? ++ leftOut).Perm groups ∧
      ∀ group ∈ leftOut, LeftOut count (segments count groups) group := by
  obtain ⟨passed, all, reasons⟩ := exists_passed 0 (placed_ascending count groups)
  let spread := fun group : Group => (group.place? count).isSome
  refine ⟨passed.map Placed.group ++ groups.filter (!spread ·), ?_, ?_⟩
  · have stretched : ((placed count groups).map Placed.group).Perm (groups.filter spread) := by
      rw [← map_group_place?]
      exact (Indices.sortBy_perm Placed.start _).map Placed.group
    have covered := ((all.map Placed.group).trans stretched).append_right (groups.filter (!spread ·))
    rw [filterMap_owner?_segments, ← List.append_assoc, ← List.map_append]
    exact covered.trans (List.filter_append_perm spread groups)
  · intro group member
    rcases List.mem_append.mp member with stretched | unspread
    · obtain ⟨place, placeMember, rfl⟩ := List.mem_map.mp stretched
      have fits := placed_fits count groups place
        (all.subset (List.mem_append_right _ placeMember))
      rcases reasons place placeMember with before | ⟨kept, keptMember, begins, inside⟩
      · exact absurd before (Nat.not_lt_zero _)
      · exact leftOut_of_inside fits keptMember begins inside
    · have none : group.place? count = none := by
        simpa [spread] using (List.mem_filter.mp unspread).2
      rcases Grouping.place?_eq_none none with absent | gap
      · exact .absent absent
      · exact .gap gap

end

/-- The segments are not empty and lie side by side over all clauses, never two runs next to each
other. The segment of a group holds just the indices of the group that are those of clauses, and
every group without a segment has a reason to be left out. -/
theorem segments_tile_clauses (count : Nat) (groups : List Group) :
    let division := segments count groups
    (∀ segment ∈ division, segment.bounds.1 < segment.bounds.2) ∧
    division.flatMap Segment.indices = List.range count ∧
    division.IsChain (fun first second => ¬ (first.owner? = none ∧ second.owner? = none)) ∧
    (∀ owner start stop, .group owner start stop ∈ division →
      ∀ index, start ≤ index ∧ index < stop ↔ index < count ∧ index ∈ owner.indices) ∧
    ∃ leftOut, (division.filterMap Segment.owner? ++ leftOut).Perm groups ∧
      ∀ group ∈ leftOut, LeftOut count division group := by
  refine ⟨segments_nonempty count groups, segments_indices count groups, ?_, ?_,
    exists_leftOut count groups⟩
  · refine (segments_isChain count groups).imp ?_
    rintro first second different ⟨firstRun, secondRun⟩
    rw [Segment.owner?_eq, Option.map_eq_none_iff] at firstRun secondRun
    exact different (firstRun.trans secondRun.symm)
  · intro owner start stop member index
    rw [← (fits_of_mem_segments member).mem_iff index, Group.mem_members]

example : (segments 7 [⟨"a", .or, [0, 1, 2]⟩, ⟨"b", .or, [2, 3]⟩, ⟨"c", .or, [4, 6]⟩]) =
    [.group ⟨"a", .or, [0, 1, 2]⟩ 0 3, .run 3 7] := by
  decide

end SearchFilter
