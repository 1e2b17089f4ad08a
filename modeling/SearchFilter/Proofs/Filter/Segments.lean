import Mathlib.Data.List.Chain
import SearchFilter.Filter.Grouped
import SearchFilter.Proofs.Filter.Indices

/-!
The division of clauses into groups and runs. The stretches of the groups that are kept do not
overlap, and the segments lie side by side from the first clause to the last.
-/

namespace SearchFilter

def Group.members (group : Group) (count : Nat) : List Nat :=
  (List.range count).filter group.contains

namespace Group

variable {group : Group} {count : Nat}

theorem mem_members {index : Nat} :
    index ∈ group.members count ↔ index < count ∧ index ∈ group.indices := by
  rw [members, List.mem_filter, List.mem_range, contains_iff]

theorem members_ascending : (group.members count).Pairwise (· < ·) :=
  List.pairwise_lt_range.filter _

theorem distinct_filter_eq_members :
    Indices.distinct (group.indices.filter (· < count)) = group.members count := by
  apply Indices.eq_of_ascending (Indices.distinct_ascending _) members_ascending
  intro index
  simp only [Indices.mem_distinct, List.mem_filter, decide_eq_true_eq, mem_members]
  exact And.comm

theorem span?_eq_some_iff {start stop : Nat} :
    group.span? count = some (start, stop) ↔
      start < stop ∧ group.members count = List.range' start (stop - start) := by
  rw [span?, distinct_filter_eq_members, Indices.span?_eq_some_iff members_ascending]

end Group

namespace Placed

structure Fits (count : Nat) (place : Placed) : Prop where
  nonempty : place.start < place.stop
  members : place.group.members count = List.range' place.start (place.stop - place.start)

theorem Fits.mem_iff {count : Nat} {place : Placed} (fits : place.Fits count) (index : Nat) :
    index ∈ place.group.members count ↔ place.start ≤ index ∧ index < place.stop := by
  have less := fits.nonempty
  rw [fits.members, List.mem_range'_1]
  omega

theorem Fits.bounded {count : Nat} {place : Placed} (fits : place.Fits count) :
    place.stop ≤ count := by
  have less := fits.nonempty
  have last : place.stop - 1 ∈ place.group.members count := (fits.mem_iff _).mpr (by omega)
  have bound := (Group.mem_members.mp last).1
  omega

end Placed

def Group.place? (count : Nat) (group : Group) : Option Placed :=
  (group.span? count).map fun span => ⟨group, span.1, span.2⟩

theorem Group.fits_of_place? {count : Nat} {group : Group} {place : Placed}
    (found : group.place? count = some place) : place.group = group ∧ place.Fits count := by
  obtain ⟨⟨start, stop⟩, span, rfl⟩ := Option.map_eq_some_iff.mp found
  obtain ⟨less, members⟩ := Group.span?_eq_some_iff.mp span
  exact ⟨rfl, less, members⟩

theorem placed_fits (count : Nat) (groups : List Group) :
    ∀ place ∈ placed count groups, place.Fits count := by
  intro place member
  rw [placed, Indices.mem_sortBy, List.mem_filterMap] at member
  obtain ⟨group, -, found⟩ := member
  exact (Group.fits_of_place? found).2

theorem placed_ascending (count : Nat) (groups : List Group) :
    (placed count groups).Pairwise fun first second => first.start ≤ second.start :=
  Indices.sortBy_ascending Placed.start _

def keptFrom : Nat → List Placed → List Placed
  | _, [] => []
  | position, next :: rest =>
    if next.start < position then keptFrom position rest else next :: keptFrom next.stop rest

theorem keptFrom_sublist (position : Nat) (places : List Placed) :
    (keptFrom position places).Sublist places := by
  induction places generalizing position with
  | nil => exact .slnil
  | cons next rest ih =>
      rw [keptFrom]
      split
      · exact (ih position).cons next
      · exact (ih next.stop).cons_cons next

theorem keptFrom_start {count position : Nat} {places : List Placed}
    (fits : ∀ place ∈ places, place.Fits count) :
    ∀ place ∈ keptFrom position places, position ≤ place.start := by
  induction places generalizing position with
  | nil => simp [keptFrom]
  | cons next rest ih =>
      have later := fun place member => fits place (List.mem_cons_of_mem next member)
      rw [keptFrom]
      split
      · exact ih later
      · rename_i after
        intro place member
        rcases List.mem_cons.mp member with rfl | inRest
        · omega
        · have less := (fits next List.mem_cons_self).nonempty
          have above := ih later place inRest
          omega

theorem keptFrom_pairwise {count position : Nat} {places : List Placed}
    (fits : ∀ place ∈ places, place.Fits count) :
    (keptFrom position places).Pairwise fun first second => first.stop ≤ second.start := by
  induction places generalizing position with
  | nil => exact .nil
  | cons next rest ih =>
      have later := fun place member => fits place (List.mem_cons_of_mem next member)
      rw [keptFrom]
      split
      · exact ih later
      · exact List.pairwise_cons.mpr ⟨keptFrom_start later, ih later⟩

namespace Segment

def indices (segment : Segment) : List Nat :=
  List.range' segment.bounds.1 (segment.bounds.2 - segment.bounds.1)

theorem mem_indices {segment : Segment} {index : Nat} :
    index ∈ segment.indices ↔ segment.bounds.1 ≤ index ∧ index < segment.bounds.2 := by
  rw [indices, List.mem_range'_1]
  omega

end Segment

theorem segmentsFrom_nonempty {count position : Nat} {places : List Placed}
    (fits : ∀ place ∈ places, place.Fits count) :
    ∀ segment ∈ segmentsFrom count position places, segment.bounds.1 < segment.bounds.2 := by
  induction places generalizing position with
  | nil =>
      rw [segmentsFrom]
      split <;> simp [Segment.bounds, *]
  | cons next rest ih =>
      have later := fun place member => fits place (List.mem_cons_of_mem next member)
      rw [segmentsFrom]
      split
      · exact ih later
      · intro segment member
        rcases List.mem_append.mp member with run | group
        · split at run
          · rename_i gap
            rw [List.mem_singleton.mp run]
            exact gap
          · simp at run
        · rcases List.mem_cons.mp group with rfl | inRest
          · exact (fits next List.mem_cons_self).nonempty
          · exact ih later segment inRest

theorem segments_nonempty (count : Nat) (groups : List Group) :
    ∀ segment ∈ segments count groups, segment.bounds.1 < segment.bounds.2 :=
  segmentsFrom_nonempty (placed_fits count groups)

theorem segmentsFrom_indices {count position : Nat} {places : List Placed}
    (fits : ∀ place ∈ places, place.Fits count) (inside : position ≤ count) :
    (segmentsFrom count position places).flatMap Segment.indices =
      List.range' position (count - position) := by
  induction places generalizing position with
  | nil =>
      rw [segmentsFrom]
      split
      · simp [Segment.indices, Segment.bounds]
      · have full : count - position = 0 := by omega
        rw [full]
        rfl
  | cons next rest ih =>
      have later := fun place member => fits place (List.mem_cons_of_mem next member)
      have here := fits next List.mem_cons_self
      have less := here.nonempty
      have bound := here.bounded
      rw [segmentsFrom]
      split
      · exact ih later inside
      · rename_i after
        have run : (if position < next.start then [Segment.run position next.start] else []).flatMap
            Segment.indices = List.range' position (next.start - position) := by
          split
          · simp [Segment.indices, Segment.bounds]
          · have empty : next.start - position = 0 := by omega
            rw [empty]
            rfl
        have group : Segment.indices (.group next.group next.start next.stop) =
            List.range' next.start (next.stop - next.start) := rfl
        rw [List.flatMap_append, List.flatMap_cons, run, group, ih later bound]
        have first : next.start = position + (next.start - position) := by omega
        have second : next.stop = next.start + (next.stop - next.start) := by omega
        have total : count - position =
            (next.start - position) + ((next.stop - next.start) + (count - next.stop)) := by omega
        rw [total, ← List.range'_append_1, ← List.range'_append_1, ← first, ← second]

theorem segments_indices (count : Nat) (groups : List Group) :
    (segments count groups).flatMap Segment.indices = List.range count := by
  rw [segments, segmentsFrom_indices (placed_fits count groups) (Nat.zero_le count), Nat.sub_zero,
    List.range_eq_range']

/-! The groups among the segments. -/

def Segment.place? : Segment → Option Placed
  | .group owner start stop => some ⟨owner, start, stop⟩
  | .run _ _ => none

theorem Segment.bounds_of_place? {segment : Segment} {place : Placed}
    (found : segment.place? = some place) : segment.bounds = (place.start, place.stop) := by
  cases segment with
  | group owner start stop =>
      obtain rfl := Option.some.inj found
      rfl
  | run start stop => simp [place?] at found

theorem segmentsFrom_place? (count position : Nat) (places : List Placed) :
    (segmentsFrom count position places).filterMap Segment.place? = keptFrom position places := by
  induction places generalizing position with
  | nil =>
      rw [segmentsFrom]
      split <;> rfl
  | cons next rest ih =>
      rw [segmentsFrom, keptFrom]
      split
      · exact ih position
      · have run : (if position < next.start then [Segment.run position next.start]
            else []).filterMap Segment.place? = [] := by
          split <;> rfl
        rw [List.filterMap_append, run, List.nil_append, List.filterMap_cons, ih next.stop]
        rfl

theorem segmentsFrom_start {count position : Nat} {places : List Placed}
    (fits : ∀ place ∈ places, place.Fits count) :
    ∀ segment ∈ segmentsFrom count position places, position ≤ segment.bounds.1 := by
  induction places generalizing position with
  | nil =>
      rw [segmentsFrom]
      split <;> simp [Segment.bounds]
  | cons next rest ih =>
      have later := fun place member => fits place (List.mem_cons_of_mem next member)
      have less := (fits next List.mem_cons_self).nonempty
      rw [segmentsFrom]
      split
      · exact ih later
      · intro segment member
        rcases List.mem_append.mp member with run | group
        · split at run
          · rw [List.mem_singleton.mp run]
            exact Nat.le_refl position
          · simp at run
        · rcases List.mem_cons.mp group with rfl | inRest
          · change position ≤ next.start
            omega
          · have above := ih later segment inRest
            omega

theorem segmentsFrom_run {count position : Nat} {places : List Placed}
    (fits : ∀ place ∈ places, place.Fits count) :
    ∀ segment ∈ segmentsFrom count position places, segment.place? = none →
      ∀ place ∈ keptFrom position places,
        place.stop ≤ segment.bounds.1 ∨ segment.bounds.2 ≤ place.start := by
  induction places generalizing position with
  | nil => simp [keptFrom]
  | cons next rest ih =>
      have later := fun place member => fits place (List.mem_cons_of_mem next member)
      have less := (fits next List.mem_cons_self).nonempty
      rw [segmentsFrom, keptFrom]
      split
      · exact ih later
      · intro segment member isRun place kept
        rcases List.mem_append.mp member with run | group
        · right
          split at run
          · rw [List.mem_singleton.mp run]
            change next.start ≤ place.start
            rcases List.mem_cons.mp kept with rfl | keptLater
            · exact Nat.le_refl _
            · have above := keptFrom_start later place keptLater
              omega
          · simp at run
        · rcases List.mem_cons.mp group with rfl | inRest
          · simp [Segment.place?] at isRun
          · rcases List.mem_cons.mp kept with rfl | keptLater
            · exact .inl (segmentsFrom_start later segment inRest)
            · exact ih later segment inRest isRun place keptLater

/-- Segments side by side are never two runs, nor the same group. -/
theorem segmentsFrom_isChain {count position : Nat} {places : List Placed}
    (fits : ∀ place ∈ places, place.Fits count) :
    (segmentsFrom count position places).IsChain fun first second =>
      first.place? ≠ second.place? := by
  induction places generalizing position with
  | nil =>
      rw [segmentsFrom]
      split
      · exact .singleton _
      · exact .nil
  | cons next rest ih =>
      have later := fun place member => fits place (List.mem_cons_of_mem next member)
      have less := (fits next List.mem_cons_self).nonempty
      rw [segmentsFrom]
      split
      · exact ih later
      · have tail : (Segment.group next.group next.start next.stop ::
            segmentsFrom count next.stop rest).IsChain fun first second =>
              first.place? ≠ second.place? := by
          refine List.isChain_cons.mpr ⟨?_, ih later⟩
          intro segment first same
          have above := segmentsFrom_start later segment (List.mem_of_mem_head? first)
          rw [Segment.bounds_of_place? same.symm] at above
          exact absurd less (Nat.not_lt.mpr above)
        split
        · refine List.isChain_cons.mpr ⟨?_, tail⟩
          intro segment first
          obtain rfl := Option.some.inj first
          simp [Segment.place?]
        · exact tail

theorem segments_isChain (count : Nat) (groups : List Group) :
    (segments count groups).IsChain fun first second => first.place? ≠ second.place? :=
  segmentsFrom_isChain (placed_fits count groups)

end SearchFilter
