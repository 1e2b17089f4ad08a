import Mathlib.Data.List.SplitBy
import SearchFilter.Proofs.Filter.Segments

/-!
Who owns each clause. Groups are used in the order of their first clauses as long as they neither
have a gap nor meet one used before. The clauses fall into stretches with one owner or none, which
are the segments.
-/

namespace SearchFilter

namespace Grouping

structure Owner where
  connector : Connector
  members : List Nat
deriving DecidableEq

def Gapless (indices : List Nat) : Prop :=
  ∀ low ∈ indices, ∀ high ∈ indices, ∀ index < high, low < index → index ∈ indices

instance (indices : List Nat) : Decidable (Gapless indices) :=
  inferInstanceAs (Decidable (∀ low ∈ indices, ∀ high ∈ indices, ∀ index < high,
    low < index → index ∈ indices))

def byFirst (groups : List Group) : List Group :=
  groups.insertionSort fun left right => left.first.getD 0 ≤ right.first.getD 0

/-- The groups in use next to those in use already. One without clauses, with a gap, or with a
clause that is owned already is passed over. -/
def ownersFrom (count : Nat) (taken : List Owner) : List Group → List Owner
  | [] => []
  | group :: rest =>
    let members := group.members count
    if members = [] ∨ ¬ Gapless members ∨
        ∃ owner ∈ taken, ∃ index ∈ members, index ∈ owner.members then
      ownersFrom count taken rest
    else
      let owner : Owner := ⟨group.connector, members⟩
      owner :: ownersFrom count (owner :: taken) rest

def owners (count : Nat) (groups : List Group) : List Owner :=
  ownersFrom count [] (byFirst groups)

def ownerOf? (owners : List Owner) (index : Nat) : Option Owner :=
  owners.find? fun owner => owner.members.contains index

def stretches (count : Nat) (owners : List Owner) : List (List Nat) :=
  (List.range count).splitBy fun first second => ownerOf? owners first == ownerOf? owners second

/-! The groups in use are those whose stretches are kept. -/

theorem range'_of_gapless {indices : List Nat} (ascending : indices.Pairwise (· < ·))
    (nonempty : indices ≠ []) (gapless : Gapless indices) :
    ∃ start stop, start < stop ∧ indices = List.range' start (stop - start) := by
  match indices with
  | first :: rest =>
      have upper : ∀ index ∈ first :: rest, index ≤ (first :: rest).getLast nonempty :=
        fun index member => (ascending.imp Nat.le_of_lt).rel_getLast member
      have lower : ∀ index ∈ first :: rest, first ≤ index := by
        intro index member
        rcases List.mem_cons.mp member with rfl | later
        · exact Nat.le_refl index
        · exact Nat.le_of_lt ((List.pairwise_cons.mp ascending).1 index later)
      generalize lastEq : (first :: rest).getLast nonempty = last at upper
      have lastMember : last ∈ first :: rest := lastEq ▸ List.getLast_mem nonempty
      have climb := lower last lastMember
      refine ⟨first, last + 1, by omega, ?_⟩
      apply Indices.eq_of_ascending ascending List.pairwise_lt_range'
      intro index
      rw [List.mem_range'_1]
      constructor
      · intro member
        have above := lower index member
        have below := upper index member
        omega
      · intro inside
        by_cases atFirst : index = first
        · rw [atFirst]
          exact List.mem_cons_self
        · by_cases atLast : index = last
          · rw [atLast]
            exact lastMember
          · exact gapless first List.mem_cons_self last lastMember index (by omega) (by omega)

theorem gapless_range' (start size : Nat) : Gapless (List.range' start size) := by
  intro low lowMember high highMember index below above
  rw [List.mem_range'_1] at lowMember highMember ⊢
  omega

theorem gapless_of_few {indices : List Nat} (few : indices.length < 2) :
    Gapless indices := by
  match indices with
  | [] => simp [Gapless]
  | [only] =>
      intro low lowMember high highMember index below above
      rw [List.mem_singleton] at lowMember highMember
      omega

theorem isSome_span?_iff {indices : List Nat} (ascending : indices.Pairwise (· < ·))
    (nonempty : indices ≠ []) : (Indices.span? indices).isSome ↔ Gapless indices := by
  constructor
  · intro spanned
    obtain ⟨⟨start, stop⟩, span⟩ := Option.isSome_iff_exists.mp spanned
    rw [((Indices.span?_eq_some_iff ascending start stop).mp span).2]
    exact gapless_range' start (stop - start)
  · intro gapless
    obtain ⟨start, stop, less, range⟩ := range'_of_gapless ascending nonempty gapless
    rw [(Indices.span?_eq_some_iff ascending start stop).mpr ⟨less, range⟩]
    rfl

theorem isSome_span?_distinct {indices : List Nat} (nonempty : indices ≠ []) :
    (Indices.span? (Indices.distinct indices)).isSome ↔ Gapless indices := by
  have members := fun index => Indices.mem_distinct index indices
  obtain ⟨first, member⟩ := List.exists_mem_of_ne_nil indices nonempty
  have present : Indices.distinct indices ≠ [] :=
    List.ne_nil_of_mem ((members first).mpr member)
  rw [isSome_span?_iff (Indices.distinct_ascending indices) present]
  simp only [Gapless, members]

theorem place?_eq_none {count : Nat} {group : Group} (none : group.place? count = none) :
    group.members count = [] ∨ ¬ Gapless (group.members count) := by
  by_cases empty : group.members count = []
  · exact .inl empty
  · right
    intro gapless
    obtain ⟨start, stop, less, range⟩ :=
      range'_of_gapless Group.members_ascending empty gapless
    have span := Group.span?_eq_some_iff.mpr ⟨less, range⟩
    rw [Group.place?, span] at none
    simp at none

def ownerAt (count : Nat) (place : Placed) : Owner :=
  ⟨place.group.connector, place.group.members count⟩

theorem used_of_fits {count : Nat} {place : Placed} (fits : place.Fits count) :
    place.group.members count ≠ [] ∧ Gapless (place.group.members count) := by
  constructor
  · intro empty
    have first := (fits.mem_iff place.start).mpr ⟨Nat.le_refl _, fits.nonempty⟩
    rw [empty] at first
    exact List.not_mem_nil first
  · rw [fits.members]
    exact gapless_range' _ _

theorem meets_iff {count : Nat} {first second : Placed} (fits : first.Fits count)
    (secondFits : second.Fits count) (after : first.start ≤ second.start) :
    (∃ index ∈ second.group.members count, index ∈ first.group.members count) ↔
      second.start < first.stop := by
  have less := secondFits.nonempty
  simp only [fits.mem_iff, secondFits.mem_iff]
  constructor
  · rintro ⟨index, inSecond, inFirst⟩
    omega
  · intro inside
    exact ⟨second.start, by omega, by omega⟩

theorem ownersFrom_eq {count position : Nat} {taken : List Owner} {groups : List Group}
    (ascending : (groups.filterMap (Group.place? count)).Pairwise fun first second =>
      first.start ≤ second.start)
    (met : ∀ place ∈ groups.filterMap (Group.place? count),
      (∃ owner ∈ taken, ∃ index ∈ place.group.members count, index ∈ owner.members) ↔
        place.start < position) :
    ownersFrom count taken groups =
      (keptFrom position (groups.filterMap (Group.place? count))).map (ownerAt count) := by
  induction groups generalizing taken position with
  | nil => rfl
  | cons group rest ih =>
      cases found : group.place? count with
      | none =>
          rw [List.filterMap_cons_none found] at ascending met ⊢
          rw [ownersFrom, if_pos ((place?_eq_none found).imp_right .inl)]
          exact ih ascending met
      | some place =>
          obtain ⟨rfl, fits⟩ := Group.fits_of_place? found
          rw [List.filterMap_cons_some found] at ascending met ⊢
          obtain ⟨above, tail⟩ := List.pairwise_cons.mp ascending
          have here := met place List.mem_cons_self
          have later := fun next member => met next (List.mem_cons_of_mem place member)
          rw [ownersFrom, keptFrom]
          by_cases before : place.start < position
          · rw [if_pos (.inr (.inr (here.mpr before))), if_pos before]
            exact ih tail later
          · obtain ⟨nonempty, gapless⟩ := used_of_fits fits
            have kept : ¬ (place.group.members count = [] ∨ ¬ Gapless (place.group.members count) ∨
                ∃ owner ∈ taken, ∃ index ∈ place.group.members count, index ∈ owner.members) := by
              rw [here]
              rintro (empty | gap | inside)
              · exact nonempty empty
              · exact gap gapless
              · exact before inside
            rw [if_neg kept, if_neg before, List.map_cons]
            refine congrArg _ (ih tail ?_)
            intro next member
            obtain ⟨source, -, nextFound⟩ := List.mem_filterMap.mp member
            obtain ⟨-, nextFits⟩ := Group.fits_of_place? nextFound
            have start := above next member
            have untaken := (later next member).not.mpr (by omega)
            rw [List.exists_mem_cons_iff, or_iff_left untaken]
            exact meets_iff fits nextFits start

theorem first_of_place? {count : Nat} {group : Group} {place : Placed}
    (found : group.place? count = some place) : place.start = group.first.getD 0 := by
  obtain ⟨rfl, fits⟩ := Group.fits_of_place? found
  have least : place.group.first = some place.start := by
    rw [Group.first, List.min?_eq_some_iff]
    have start := (fits.mem_iff place.start).mpr ⟨Nat.le_refl _, fits.nonempty⟩
    refine ⟨(Group.mem_members.mp start).2, ?_⟩
    intro index member
    by_cases inside : index < count
    · exact ((fits.mem_iff index).mp (Group.mem_members.mpr ⟨inside, member⟩)).1
    · have bound := (Group.mem_members.mp start).1
      omega
  rw [least, Option.getD_some]

theorem owners_eq (count : Nat) (groups : List Group) :
    owners count groups = (keptFrom 0 (placed count groups)).map (ownerAt count) := by
  have order : byFirst groups = Indices.sortBy (fun group => group.first.getD 0) groups :=
    (Indices.sortBy_eq_insertionSort _ groups).symm
  have sorted : (byFirst groups).filterMap (Group.place? count) = placed count groups := by
    rw [order]
    exact Indices.filterMap_sortBy groups fun group place => first_of_place?
  rw [← sorted]
  refine ownersFrom_eq ?_ (by simp)
  rw [sorted]
  exact placed_ascending count groups

/-! The stretches are the segments. -/

def segmentOwner? (count : Nat) (segment : Segment) : Option Owner :=
  segment.place?.map (ownerAt count)

section

variable {count : Nat} {groups : List Group}

theorem kept_fits : ∀ place ∈ keptFrom 0 (placed count groups), place.Fits count :=
  fun place member => placed_fits count groups place ((keptFrom_sublist 0 _).subset member)

theorem find?_kept {places : List Placed} {place : Placed} {index : Nat}
    (fits : ∀ place ∈ places, place.Fits count)
    (apart : places.Pairwise fun first second => first.stop ≤ second.start)
    (member : place ∈ places) (inside : index ∈ place.group.members count) :
    (places.find? fun place => (place.group.members count).contains index) = some place := by
  refine Indices.find?_eq_some_of_pairwise ?_ member (List.contains_iff_mem.mpr inside)
  refine apart.imp_of_mem ?_
  intro first second firstMember secondMember before both
  rw [List.contains_iff_mem, List.contains_iff_mem, (fits first firstMember).mem_iff,
    (fits second secondMember).mem_iff] at both
  omega

theorem kept_of_segment {segment : Segment} {place : Placed}
    (member : segment ∈ segments count groups) (found : segment.place? = some place) :
    place ∈ keptFrom 0 (placed count groups) := by
  rw [← segmentsFrom_place? count]
  exact List.mem_filterMap.mpr ⟨segment, member, found⟩

theorem ownerOf?_segment {segment : Segment} {index : Nat}
    (member : segment ∈ segments count groups) (inside : index ∈ segment.indices) :
    ownerOf? (owners count groups) index = segmentOwner? count segment := by
  have fits := placed_fits count groups
  rw [ownerOf?, owners_eq, List.find?_map, segmentOwner?]
  rw [Segment.mem_indices] at inside
  cases found : segment.place? with
  | none =>
      refine congrArg (Option.map _) (List.find?_eq_none.mpr ?_)
      intro place kept contains
      have apart := segmentsFrom_run fits segment member found place kept
      have owned : index ∈ place.group.members count := List.contains_iff_mem.mp contains
      rw [(kept_fits place kept).mem_iff] at owned
      omega
  | some place =>
      have kept := kept_of_segment member found
      refine congrArg (Option.map _) (find?_kept kept_fits (keptFrom_pairwise fits) kept ?_)
      rw [Segment.bounds_of_place? found] at inside
      exact ((kept_fits place kept).mem_iff index).mpr inside

theorem segmentOwner?_ne {first second : Segment} (firstMember : first ∈ segments count groups)
    (secondMember : second ∈ segments count groups) (different : first.place? ≠ second.place?) :
    segmentOwner? count first ≠ segmentOwner? count second := by
  intro same
  simp only [segmentOwner?] at same
  cases foundFirst : first.place? with
  | none =>
      rw [foundFirst] at same different
      exact different (Option.map_eq_none_iff.mp same.symm).symm
  | some left =>
      cases foundSecond : second.place? with
      | none => simp [foundFirst, foundSecond] at same
      | some right =>
          have keptLeft := kept_of_segment firstMember foundFirst
          have keptRight := kept_of_segment secondMember foundSecond
          have members : left.group.members count = right.group.members count := by
            simp only [foundFirst, foundSecond, Option.map_some, Option.some.injEq] at same
            exact congrArg Owner.members same
          have start : left.start ∈ left.group.members count :=
            ((kept_fits left keptLeft).mem_iff _).mpr
              ⟨Nat.le_refl _, (kept_fits left keptLeft).nonempty⟩
          have apart : (keptFrom 0 (placed count groups)).Pairwise fun first second =>
              first.stop ≤ second.start := keptFrom_pairwise (placed_fits count groups)
          have equal : some left = some right :=
            (find?_kept kept_fits apart keptLeft start).symm.trans
              (find?_kept kept_fits apart keptRight (members ▸ start))
          exact different (by rw [foundFirst, foundSecond, equal])

/-- The stretches between changes of the owner are the segments. -/
theorem stretches_eq (count : Nat) (groups : List Group) :
    stretches count (owners count groups) = (segments count groups).map Segment.indices := by
  have nonempty := segments_nonempty count groups
  have present : ∀ segment ∈ segments count groups, segment.indices ≠ [] := by
    intro segment member
    have less := nonempty segment member
    exact List.ne_nil_of_mem (Segment.mem_indices.mpr ⟨Nat.le_refl _, less⟩)
  rw [stretches, List.splitBy_eq_iff]
  refine ⟨?_, ?_, ?_, ?_⟩
  · rw [← List.flatMap_def, segments_indices]
  · intro empty
    obtain ⟨segment, member, none⟩ := List.mem_map.mp empty
    exact present segment member none
  · intro stretch member
    obtain ⟨segment, segmentMember, rfl⟩ := List.mem_map.mp member
    apply List.Pairwise.isChain
    apply List.pairwise_of_forall_mem_list
    intro first firstInside second secondInside
    rw [ownerOf?_segment segmentMember firstInside, ownerOf?_segment segmentMember secondInside]
    exact beq_self_eq_true _
  · rw [List.isChain_map]
    refine (segments_isChain count groups).imp_of_mem_imp ?_
    intro first second firstMember secondMember different
    have last := present first firstMember
    have head := present second secondMember
    refine ⟨last, head, ?_⟩
    rw [ownerOf?_segment firstMember (List.getLast_mem last),
      ownerOf?_segment secondMember (List.head_mem head)]
    exact beq_eq_false_iff_ne.mpr (segmentOwner?_ne firstMember secondMember different)

end

end Grouping

end SearchFilter
