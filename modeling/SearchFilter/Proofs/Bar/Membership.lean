import SearchFilter.Proofs.Bar.Session
import SearchFilter.Proofs.Bar.Roster

/-!
Groups follow their clauses. Along a run the bar does what the roster allows and shows the roster
that makes the same changes on identities, so the indices of a group are always where its members
stand. Behind an overflow of the counter this fails.
-/

namespace SearchFilter

namespace Roster

variable {roster later : Roster} {bar next : Bar} {chosen : Finset Nat} {index identity : Nat}

/-! Positions after entries are added or removed. -/

theorem positions_append (entries : later.identities = roster.identities ++ [identity])
    (fresh : identity ∉ chosen) : later.positions chosen = roster.positions chosen := by
  rw [positions, entries, List.findIdxs_append, positions]
  simp [fresh]

theorem positions_insertIdx
    (entries : later.identities = roster.identities.insertIdx (index + 1) identity)
    (fresh : identity ∉ chosen) :
    later.positions chosen = (roster.positions chosen).map (raised index) := by
  symm
  apply positions_eq_of_mem_iff
  · exact List.pairwise_map.mpr ((roster.positions_ascending chosen).imp fun less =>
      raised_strictMono index less)
  · intro place
    rw [entries, List.mem_map]
    simp only [mem_positions, List.getElem?_insertIdx]
    constructor
    · rintro ⟨old, ⟨other, member, stands⟩, rfl⟩
      refine ⟨other, member, ?_⟩
      rw [raised]
      by_cases after : index < old
      · rw [if_pos after, if_neg (by omega), if_neg (by omega), Nat.add_sub_cancel, stands]
      · rw [if_neg after, if_pos (by omega), stands]
    · rintro ⟨other, member, stands⟩
      split at stands
      · exact ⟨place, ⟨other, member, stands⟩, if_neg (by omega)⟩
      · split at stands
        · obtain rfl := Option.some.inj (Option.ite_none_right_eq_some.mp stands).2
          exact absurd member fresh
        · refine ⟨place - 1, ⟨other, member, stands⟩, ?_⟩
          rw [raised, if_pos (by omega)]
          omega

theorem shiftedUp_located
    (entries : later.identities = roster.identities.insertIdx (index + 1) identity)
    {circle : Circle} (fresh : identity ∉ circle.members) :
    Bar.shiftedUp index (roster.located circle) = later.located circle := by
  rw [located, located, positions_insertIdx entries fresh]
  rfl

theorem shiftedDown_located (distinct : roster.identities.Nodup)
    (stands : roster.identities[index]? = some identity)
    (entries : later.identities = roster.identities.eraseIdx index) (circle : Circle) :
    Bar.shiftedDown index (roster.located circle) = later.located (circle.without identity) := by
  have indices : (Bar.shiftedDown index (roster.located circle)).indices =
      later.positions (circle.members.erase identity) := by
    apply positions_eq_of_mem_iff
    · exact Group.shiftedDown_ascending index (roster.positions_ascending circle.members)
    · intro place
      rw [Group.mem_shiftedDown, entries]
      simp only [located, mem_positions, List.getElem?_eraseIdx, Finset.mem_erase,
        ← apply_ite (fun place => roster.identities[place]?)]
      constructor
      · rintro ⟨other, member, found⟩
        refine ⟨other, ⟨?_, member⟩, found⟩
        rintro rfl
        have same := (position_of_getElem? distinct found).symm.trans
          (position_of_getElem? distinct stands)
        split at same <;> omega
      · rintro ⟨other, ⟨-, member⟩, found⟩
        exact ⟨other, member, found⟩
  calc Bar.shiftedDown index (roster.located circle)
      = ⟨circle.id, circle.connector,
          (Bar.shiftedDown index (roster.located circle)).indices⟩ := rfl
    _ = later.located (circle.without identity) := by rw [indices]; rfl

theorem located_congr (entries : later.identities = roster.identities) :
    later.located = roster.located := by
  funext circle
  rw [located, located, positions, positions, entries]

/-! What each change does. -/

theorem Describes.length (shown : roster.Describes bar) :
    bar.clauses.length = roster.identities.length := by
  have contents := congrArg List.length shown.contents
  simpa [identities] using contents

theorem Describes.getElem?_identities (shown : roster.Describes bar)
    (inside : index < bar.clauses.length) :
    ∃ identity, roster.identities[index]? = some identity := by
  rw [shown.length] at inside
  exact ⟨_, List.getElem?_eq_getElem inside⟩

theorem Describes.unused (shown : roster.Describes bar) :
    roster.nextIdentity ∉ roster.identities :=
  fun given => Nat.lt_irrefl _ (shown.given _ given)

theorem Describes.fresh (shown : roster.Describes bar) :
    ∀ circle ∈ roster.circles, roster.nextIdentity ∉ circle.members := by
  intro circle member inside
  exact shown.unused (shown.members circle member _ inside)

theorem Describes.of_unpicked (selection : bar.selection = .empty)
    (contents : bar.clauses.map Clause.unmarked = roster.entries.map Entry.content)
    (distinct : roster.identities.Nodup)
    (given : ∀ identity ∈ roster.identities, identity < roster.nextIdentity)
    (groups : bar.groups.Perm (roster.circles.map roster.located))
    (number : bar.nextNumber = roster.nextNumber)
    (members : ∀ circle ∈ roster.circles, ∀ identity ∈ circle.members,
      identity ∈ roster.identities) : roster.unpicked.Describes bar where
  contents := contents
  distinct := distinct
  given := given
  groups := groups
  number := number
  members := members
  picked := by rw [selection]; exact (positions_empty roster).symm
  pickedGiven := by simp [Roster.unpicked]
  anchor := by rw [selection]; rfl
  anchorGiven := by simp [Roster.unpicked]

theorem Describes.unpicked (shown : roster.Describes bar) :
    roster.unpicked.Describes bar.clearSelection :=
  .of_unpicked rfl shown.contents shown.distinct shown.given shown.groups shown.number shown.members

theorem Describes.push (shown : roster.Describes bar) (clause : Clause) :
    (roster.changed (.push clause)).Describes (bar.push clause) := by
  have entries : (roster.changed (.push clause)).identities =
      roster.identities ++ [roster.nextIdentity] :=
    List.map_append
  have kept : ∀ identity ∈ roster.identities,
      (roster.changed (.push clause)).position identity = roster.position identity := by
    intro identity given
    rw [position, entries, List.idxOf_append_of_mem given]
    rfl
  have still : ∀ identity ∈ roster.identities,
      identity ∈ (roster.changed (.push clause)).identities := by
    intro identity given
    rw [entries]
    exact List.mem_append_left _ given
  constructor
  case contents =>
    simp [changed, Bar.push, shown.contents, Clause.unmarked_unmarked]
  case distinct =>
    rw [entries, List.nodup_append]
    refine ⟨shown.distinct, List.nodup_singleton _, ?_⟩
    intro old given fresh same
    rw [List.mem_singleton.mp same]
    exact fun equal => shown.unused (equal ▸ given)
  case given =>
    intro identity member
    rw [entries] at member
    rcases List.mem_append.mp member with old | fresh
    · exact Nat.lt_succ_of_lt (shown.given identity old)
    · rw [List.mem_singleton.mp fresh]
      exact Nat.lt_succ_self _
  case groups =>
    have located : roster.circles.map (roster.changed (.push clause)).located =
        roster.circles.map roster.located := by
      apply List.map_congr_left
      intro circle member
      rw [Roster.located, positions_append entries (shown.fresh circle member)]
      rfl
    exact located ▸ shown.groups
  case number => exact shown.number
  case members =>
    intro circle member identity inside
    exact still identity (shown.members circle member identity inside)
  case picked =>
    have fresh : roster.nextIdentity ∉ roster.picked := fun chosen =>
      shown.unused (shown.pickedGiven _ chosen)
    exact shown.picked.trans (positions_append entries fresh).symm
  case pickedGiven =>
    intro identity chosen
    exact still identity (shown.pickedGiven identity chosen)
  case anchor =>
    refine shown.anchor.trans (Option.map_congr ?_)
    intro identity anchor
    exact (kept identity (shown.anchorGiven identity anchor)).symm
  case anchorGiven =>
    intro identity anchor
    exact still identity (shown.anchorGiven identity anchor)

theorem Describes.insertAfter {connector : Connector} (shown : roster.Describes bar)
    (done : bar.insertAfter index connector = .ok next) :
    (roster.changed (.insertAfter index connector)).Describes next := by
  obtain ⟨inside, -, rfl⟩ := Bar.insertAfter_eq_ok_iff.mp done
  have room : index + 1 ≤ roster.identities.length := shown.length ▸ inside
  have entries : (roster.inserted (index + 1) (Clause.empty (some connector))).identities =
      roster.identities.insertIdx (index + 1) roster.nextIdentity :=
    List.map_insertIdx ..
  refine .of_unpicked rfl ?_ ?_ ?_ ?_ shown.number ?_
  · dsimp only
    rw [List.map_insertIdx, inserted, List.map_insertIdx, shown.contents]
    rfl
  · rw [entries, (List.perm_insertIdx _ _ room).nodup_iff]
    exact List.nodup_cons.mpr ⟨shown.unused, shown.distinct⟩
  · intro identity member
    rw [entries, List.mem_insertIdx room] at member
    rcases member with rfl | old
    · exact Nat.lt_succ_self _
    · exact Nat.lt_succ_of_lt (shown.given identity old)
  · have moved := shown.groups.map (Bar.shiftedUp index)
    rw [List.map_map] at moved
    refine moved.trans (.of_eq (List.map_congr_left ?_))
    intro circle member
    exact shiftedUp_located entries (shown.fresh circle member)
  · intro circle member identity inside
    rw [entries, List.mem_insertIdx room]
    exact .inr (shown.members circle member identity inside)

theorem Describes.edit (shown : roster.Describes bar) (change apart : Clause → Clause)
    (same : ∀ clause, (change clause).unmarked = apart clause.unmarked)
    (done : (bar.clause index).map (fun current =>
      { bar with clauses := bar.clauses.set index (change current) }) = .ok next) :
    (roster.edited index apart).Describes next := by
  obtain ⟨current, present, rfl⟩ := Bar.clause_map_eq_ok_iff.mp done
  have entries : (roster.edited index apart).identities = roster.identities := by
    apply List.ext_getElem?
    intro place
    simp only [identities, edited, List.getElem?_map, List.getElem?_modify]
    cases roster.entries[place]? with
    | none => rfl
    | some entry => by_cases here : index = place <;> simp [here]
  have positions : (roster.edited index apart).positions = roster.positions := by
    funext chosen
    rw [Roster.positions, Roster.positions, entries]
  have position : (roster.edited index apart).position = roster.position := by
    funext identity
    rw [Roster.position, Roster.position, entries]
  constructor
  case contents =>
    apply List.ext_getElem?
    intro place
    have content := congrArg (fun contents => contents[place]?) shown.contents
    simp only [List.getElem?_map] at content
    simp only [edited, List.getElem?_map, List.getElem?_set, List.getElem?_modify]
    by_cases here : index = place
    · subst here
      rw [present, Option.map_some] at content
      cases found : roster.entries[index]? with
      | none => simp [found] at content
      | some entry =>
          rw [found, Option.map_some, Option.some.injEq] at content
          have inside := (List.getElem?_eq_some_iff.mp present).1
          simp [inside, same, content]
    · simpa [here] using content
  case distinct => exact entries ▸ shown.distinct
  case given => exact entries ▸ shown.given
  case groups => exact located_congr entries ▸ shown.groups
  case number => exact shown.number
  case members => exact entries ▸ shown.members
  case picked => exact positions ▸ shown.picked
  case pickedGiven => exact entries ▸ shown.pickedGiven
  case anchor => exact position ▸ shown.anchor
  case anchorGiven => exact entries ▸ shown.anchorGiven

theorem survivors_located (shown : roster.Describes bar)
    (stands : roster.identities[index]? = some identity)
    (entries : later.identities = roster.identities.eraseIdx index)
    (kept : ∀ circle ∈ roster.circles, ∀ other ∈ (circle.without identity).members,
      other ∈ later.identities) :
    (Bar.survivors (bar.groups.map (Bar.shiftedDown index))).Perm
      ((roster.without index identity).circles.map later.located) := by
  have moved : (bar.groups.map (Bar.shiftedDown index)).Perm
      ((roster.circles.map (Circle.without identity)).map later.located) := by
    refine (shown.groups.map _).trans (.of_eq ?_)
    rw [List.map_map, List.map_map]
    apply List.map_congr_left
    intro circle member
    exact shiftedDown_located shown.distinct stands entries circle
  have distinct : later.identities.Nodup := by
    rw [entries]
    exact shown.distinct.sublist (List.eraseIdx_sublist _ _)
  refine (moved.filter _).trans (.of_eq ?_)
  rw [List.filter_map]
  refine congrArg (List.map later.located) (List.filter_congr ?_)
  intro circle member
  obtain ⟨source, sourceMember, rfl⟩ := List.mem_map.mp member
  have size := length_positions distinct (kept source sourceMember)
  rw [Function.comp_apply, located, size]

theorem Describes.remove (shown : roster.Describes bar) (sound : bar.Sound)
    (inside : index < bar.clauses.length) :
    (roster.changed (.remove index)).Describes (bar.without index) := by
  obtain ⟨identity, stands⟩ := shown.getElem?_identities inside
  have entries : (roster.without index identity).identities =
      roster.identities.eraseIdx index :=
    (List.eraseIdx_map ..).symm
  have kept : ∀ circle ∈ roster.circles, ∀ other ∈ (circle.without identity).members,
      other ∈ (roster.without index identity).identities := by
    intro circle member other inside
    obtain ⟨different, inside⟩ := Finset.mem_erase.mp inside
    obtain ⟨place, found⟩ := List.getElem?_of_mem (shown.members circle member other inside)
    rw [entries]
    refine List.mem_eraseIdx_iff_getElem?.mpr ⟨place, ?_, found⟩
    rintro rfl
    exact different (Option.some.inj (found.symm.trans stands))
  have changed : roster.changed (.remove index) = (roster.without index identity).unpicked := by
    simp only [Roster.changed, stands]
  rw [changed]
  refine .of_unpicked rfl ?_ ?_ ?_ ?_ shown.number ?_
  · rw [sound.clauses_without inside, Bar.map_unmarked_marked, without, ← List.eraseIdx_map,
      ← List.eraseIdx_map, shown.contents]
  · rw [entries]
    exact shown.distinct.sublist (List.eraseIdx_sublist _ _)
  · intro other member
    rw [entries] at member
    exact shown.given other (List.mem_of_mem_eraseIdx member)
  · rw [sound.groups_without]
    exact survivors_located shown stands entries kept
  · intro circle member
    obtain ⟨source, sourceMember, rfl⟩ := List.mem_map.mp (List.mem_filter.mp member).1
    exact kept source sourceMember

/-! The selection. -/

theorem positions_singleton (distinct : roster.identities.Nodup)
    (stands : roster.identities[index]? = some identity) :
    roster.positions {identity} = [index] := by
  symm
  apply positions_eq_of_mem_iff (List.pairwise_singleton _ _)
  intro place
  simp only [List.mem_singleton, Finset.mem_singleton, exists_eq_left]
  constructor
  · rintro rfl
    exact stands
  · intro found
    exact (position_of_getElem? distinct found).symm.trans (position_of_getElem? distinct stands)

theorem positions_erase (distinct : roster.identities.Nodup)
    (stands : roster.identities[index]? = some identity) :
    roster.positions (chosen.erase identity) = (roster.positions chosen).erase index := by
  have ascending := roster.positions_ascending chosen
  symm
  apply positions_eq_of_mem_iff (ascending.sublist List.erase_sublist)
  intro place
  rw [ascending.nodup.mem_erase_iff, mem_positions]
  constructor
  · rintro ⟨different, other, member, found⟩
    refine ⟨other, Finset.mem_erase.mpr ⟨?_, member⟩, found⟩
    rintro rfl
    exact different ((position_of_getElem? distinct found).symm.trans
      (position_of_getElem? distinct stands))
  · rintro ⟨other, member, found⟩
    obtain ⟨different, member⟩ := Finset.mem_erase.mp member
    refine ⟨?_, other, member, found⟩
    rintro rfl
    exact different (Option.some.inj (found.symm.trans stands))

theorem positions_insert (distinct : roster.identities.Nodup)
    (stands : roster.identities[index]? = some identity) :
    roster.positions (insert identity chosen) = Indices.insert index (roster.positions chosen) := by
  symm
  apply positions_eq_of_mem_iff
    (Indices.insert_ascending index _ (roster.positions_ascending chosen))
  intro place
  rw [Indices.mem_insert, mem_positions]
  constructor
  · rintro (rfl | ⟨other, member, found⟩)
    · exact ⟨identity, Finset.mem_insert_self _ _, stands⟩
    · exact ⟨other, Finset.mem_insert_of_mem member, found⟩
  · rintro ⟨other, member, found⟩
    rcases Finset.mem_insert.mp member with rfl | member
    · exact .inl ((position_of_getElem? distinct found).symm.trans
        (position_of_getElem? distinct stands))
    · exact .inr ⟨other, member, found⟩

theorem positions_between {first second : Nat} (distinct : roster.identities.Nodup)
    (firstInside : first < roster.identities.length)
    (secondInside : second < roster.identities.length) :
    roster.positions (roster.between first second) = Selection.between first second := by
  symm
  apply positions_eq_of_mem_iff (Selection.between_ascending _ _)
  intro place
  rw [Selection.mem_between]
  simp only [between, Finset.mem_filter, List.mem_toFinset]
  constructor
  · intro inside
    have bound : place < roster.identities.length := by omega
    have found := List.getElem?_eq_getElem bound
    refine ⟨_, ⟨List.mem_of_getElem? found, ?_⟩, found⟩
    rwa [position_of_getElem? distinct found]
  · rintro ⟨chosen, ⟨-, inside⟩, found⟩
    rwa [position_of_getElem? distinct found] at inside

theorem positions_clicked (shown : roster.Describes bar)
    (stands : roster.identities[index]? = some identity) (how : Click) :
    (bar.selection.click index how).indices =
      roster.positions (roster.clicked identity how).picked := by
  have single := positions_singleton shown.distinct stands
  cases how with
  | single => exact single.symm
  | toggle =>
      have contained : bar.selection.contains index = true ↔ identity ∈ roster.picked := by
        rw [Selection.contains, List.contains_iff_mem, shown.picked, mem_positions, stands]
        simp
      simp only [Selection.click, clicked, contained, shown.picked]
      split
      · exact (positions_erase shown.distinct stands).symm
      · exact (positions_insert shown.distinct stands).symm
  | extend =>
      simp only [Selection.click, clicked, shown.anchor]
      cases anchor : roster.anchor with
      | none => exact single.symm
      | some clicked =>
          have anchored := getElem?_position (shown.anchorGiven clicked anchor)
          have inside := (List.getElem?_eq_some_iff.mp stands).1
          have anchorInside := (List.getElem?_eq_some_iff.mp anchored).1
          rw [Option.map_some, position_of_getElem? shown.distinct stands]
          exact (positions_between shown.distinct anchorInside inside).symm

theorem clicked_given (given : identity ∈ roster.identities)
    (picked : ∀ other ∈ roster.picked, other ∈ roster.identities) (how : Click) :
    ∀ other ∈ (roster.clicked identity how).picked, other ∈ roster.identities := by
  have single : ∀ other ∈ ({identity} : Finset Nat), other ∈ roster.identities := by
    intro other member
    exact Finset.mem_singleton.mp member ▸ given
  cases how with
  | single => exact single
  | toggle =>
      simp only [clicked]
      split
      · exact fun other member => picked other (Finset.mem_of_mem_erase member)
      · intro other member
        rcases Finset.mem_insert.mp member with rfl | before
        · exact given
        · exact picked other before
  | extend =>
      simp only [clicked]
      cases roster.anchor with
      | none => exact single
      | some anchor =>
          intro other member
          exact List.mem_toFinset.mp (Finset.mem_filter.mp member).1

theorem Describes.select {how : Click} (shown : roster.Describes bar)
    (done : bar.select index how = .ok next) :
    (roster.changed (.select index how)).Describes next := by
  obtain ⟨current, present, rfl⟩ := Bar.clause_map_eq_ok_iff.mp done
  obtain ⟨identity, stands⟩ := shown.getElem?_identities (List.getElem?_eq_some_iff.mp present).1
  have changed : roster.changed (.select index how) = roster.clicked identity how := by
    simp only [Roster.changed, stands]
  have given := List.mem_of_getElem? stands
  rw [changed]
  refine ⟨shown.contents, shown.distinct, shown.given, shown.groups, shown.number, shown.members,
    positions_clicked shown stands how, clicked_given given shown.pickedGiven how, ?_, ?_⟩
  · exact congrArg some (position_of_getElem? shown.distinct stands).symm
  · rintro other ⟨⟩
    exact given

/-! Groups. -/

theorem meets_located {start stop : Nat} (shown : roster.Describes bar)
    (selected : ∀ index, index ∈ bar.selection.indices ↔ start ≤ index ∧ index < stop)
    {circle : Circle} (given : ∀ identity ∈ circle.members, identity ∈ roster.identities) :
    Bar.meets start stop (roster.located circle) = true ↔
      ¬ Disjoint circle.members roster.picked := by
  rw [Bar.meets_iff, Finset.not_disjoint_iff]
  simp only [← selected, shown.picked, located, mem_positions]
  constructor
  · rintro ⟨index, ⟨identity, member, found⟩, other, picked, same⟩
    obtain rfl := Option.some.inj (found.symm.trans same)
    exact ⟨identity, member, picked⟩
  · rintro ⟨identity, member, picked⟩
    have found := getElem?_position (given identity member)
    exact ⟨_, ⟨identity, member, found⟩, identity, picked, found⟩

theorem Describes.createGroup {connector : Connector} (shown : roster.Describes bar)
    (sound : bar.Sound) (done : bar.createGroup connector = .ok next) :
    (roster.changed (.createGroup connector)).Describes next := by
  obtain ⟨start, stop, range, bound, rfl⟩ := sound.createGroup_eq_ok_iff.mp done
  obtain ⟨large, indices⟩ := sound.selection.of_range range
  have selected : ∀ index, index ∈ bar.selection.indices ↔ start ≤ index ∧ index < stop := by
    intro index
    rw [indices, List.mem_range'_1]
    omega
  have created : Group.mk (Bar.idOf bar.nextNumber) connector
      ((List.range (stop - start)).map (start + ·)) =
      roster.located ⟨Bar.idOf roster.nextNumber, connector, roster.picked⟩ := by
    rw [located, ← shown.picked, ← shown.number, indices, List.range'_eq_map_range]
  have kept : ((roster.circles.map roster.located).filter
      fun group => !Bar.meets start stop group) =
      (roster.circles.filter fun circle => Disjoint circle.members roster.picked).map
        roster.located := by
    rw [List.filter_map]
    refine congrArg (List.map roster.located) (List.filter_congr ?_)
    intro circle member
    have met := meets_located shown selected (shown.members circle member)
    by_cases apart : Disjoint circle.members roster.picked
    · simpa [apart] using met
    · simpa [apart] using met
  refine .of_unpicked rfl ?_ shown.distinct shown.given ?_ ?_ ?_
  · dsimp only
    rw [Bar.map_unmarked_marked, shown.contents]
    rfl
  · refine (Indices.sortBy_perm _ _).trans ?_
    rw [created]
    simp only [joined, List.map_append, List.map_singleton]
    exact ((shown.groups.filter _).trans (.of_eq kept)).append_right _
  · exact congrArg (· + 1) shown.number
  · intro circle member
    rcases List.mem_append.mp member with old | new
    · exact shown.members circle (List.mem_filter.mp old).1
    · rw [List.mem_singleton.mp new]
      exact shown.pickedGiven

theorem Describes.removeGroup (shown : roster.Describes bar) (sound : bar.Sound) (id : String) :
    (roster.changed (.removeGroup id)).Describes (bar.detached id) := by
  have content := Bar.detached_content bar id
  have groups := Bar.detached_groups sound id
  rw [Bar.detached_eq]
  refine ⟨content.trans shown.contents, shown.distinct, shown.given, ?_, shown.number, ?_,
    shown.picked, shown.pickedGiven, shown.anchor, shown.anchorGiven⟩
  · dsimp only
    rw [groups]
    refine (shown.groups.filter _).trans (.of_eq ?_)
    rw [List.filter_map]
    rfl
  · intro circle member
    exact shown.members circle (List.mem_filter.mp member).1

/-! Loading. -/

theorem Describes.reload (shown : roster.Describes bar) (sound : bar.Sound)
    (done : bar.reload = .ok next) : (roster.changed .reload).Describes next := by
  have loaded := Bar.load_arranged sound.arranged sound.ids sound.notes
  obtain rfl := Except.ok.inj (loaded.symm.trans done)
  have number := Bar.freshNumber_perm shown.groups
  exact ⟨shown.contents, shown.distinct, shown.given, shown.groups, number, shown.members,
    (positions_empty roster).symm, by simp [changed, Roster.unpicked], rfl,
    by simp [changed, Roster.unpicked]⟩

theorem Describes.perform {action : Action} (shown : roster.Describes bar) (sound : bar.Sound)
    (done : bar.perform action = .ok next) : (roster.changed action).Describes next := by
  cases action with
  | push clause => exact Except.ok.inj done ▸ shown.push clause
  | insertAfter index connector => exact shown.insertAfter done
  | update index content =>
      exact shown.edit
        (fun current => { content with connector := current.connector, mark := current.mark })
        (fun current => { content with connector := current.connector, mark := GroupMark.none })
        (fun _ => rfl) done
  | setConnector index connector =>
      exact shown.edit (fun current => { current with connector := some connector })
        (fun current => { current with connector := some connector }) (fun _ => rfl) done
  | toggleDisabled index =>
      exact shown.edit (fun current => { current with disabled := !current.disabled })
        (fun current => { current with disabled := !current.disabled }) (fun _ => rfl) done
  | remove index =>
      obtain ⟨inside, rfl⟩ := Bar.remove_eq_ok_iff.mp done
      exact shown.remove sound inside
  | select index how => exact shown.select done
  | clearSelection => exact Except.ok.inj done ▸ shown.unpicked
  | createGroup connector => exact shown.createGroup sound done
  | removeGroup id =>
      obtain ⟨-, rfl⟩ := Bar.removeGroup_eq_ok_iff.mp done
      exact shown.removeGroup sound id
  | reload => exact shown.reload sound done

/-! What the roster allows. -/

theorem Describes.length_entries (shown : roster.Describes bar) :
    roster.entries.length = bar.clauses.length := by
  simpa using congrArg List.length shown.contents.symm

theorem Describes.mem_groups (shown : roster.Describes bar) {group : Group} :
    group ∈ bar.groups ↔ ∃ circle ∈ roster.circles, roster.located circle = group := by
  rw [shown.groups.mem_iff, List.mem_map]

theorem Describes.length_picked (shown : roster.Describes bar) :
    bar.selection.indices.length = roster.picked.card := by
  rw [shown.picked, length_positions shown.distinct shown.pickedGiven]

theorem Describes.not_refuses {action : Action} {error : GroupError} (shown : roster.Describes bar)
    (allowed : roster.Allows action) : ¬ bar.Refuses action error := by
  intro refused
  have length := shown.length_entries
  cases refused with
  | outside about beyond =>
      cases action with
      | insertAfter index connector =>
          obtain rfl := Option.some.inj about
          have inside := allowed.1
          omega
      | update index content | setConnector index connector | toggleDisabled index | remove index
      | select index how =>
          obtain rfl := Option.some.inj about
          have inside : index < roster.entries.length := allowed
          omega
      | push clause | clearSelection | createGroup connector | removeGroup id | reload =>
          cases about
  | splits member holds next =>
      obtain ⟨circle, circleMember, rfl⟩ := shown.mem_groups.mp member
      exact allowed.2 circle circleMember holds next
  | tooFew few =>
      rw [shown.length_picked] at few
      exact absurd allowed.1 (Nat.not_le_of_lt few)
  | gap gap => exact gap (shown.picked ▸ allowed.2)
  | unknown absent =>
      obtain ⟨circle, member, same⟩ := allowed
      exact absent _ (shown.mem_groups.mpr ⟨circle, member, rfl⟩) same

theorem Describes.exists_refuses {action : Action} (shown : roster.Describes bar)
    (denied : ¬ roster.Allows action) : ∃ error, bar.Refuses action error := by
  have length := shown.length_entries
  cases action with
  | push clause | clearSelection | reload => exact absurd trivial denied
  | update index content | setConnector index connector | toggleDisabled index | remove index
  | select index how => exact ⟨_, .outside rfl (length ▸ Nat.le_of_not_lt denied)⟩
  | insertAfter index connector =>
      by_cases inside : index < roster.entries.length
      · simp only [Allows, inside, true_and, not_forall, not_not] at denied
        obtain ⟨circle, member, holds, next⟩ := denied
        exact ⟨_, .splits (shown.mem_groups.mpr ⟨circle, member, rfl⟩) holds next⟩
      · exact ⟨_, .outside rfl (length ▸ Nat.le_of_not_lt inside)⟩
  | createGroup connector =>
      rcases not_and_or.mp denied with few | gap
      · exact ⟨_, .tooFew (shown.length_picked ▸ Nat.lt_of_not_le few)⟩
      · exact ⟨_, .gap (shown.picked ▸ gap)⟩
  | removeGroup id =>
      refine ⟨_, .unknown ?_⟩
      intro group member same
      obtain ⟨circle, circleMember, rfl⟩ := shown.mem_groups.mp member
      exact denied ⟨circle, circleMember, same⟩

theorem Describes.perform_iff (shown : roster.Describes bar) (sound : bar.Sound) (action : Action) :
    (∃ next, bar.perform action = .ok next) ↔ roster.Allows action := by
  cases done : bar.perform action with
  | ok next =>
      refine ⟨fun _ => ?_, fun _ => ⟨next, rfl⟩⟩
      by_contra denied
      obtain ⟨error, refused⟩ := shown.exists_refuses denied
      cases done.symm.trans ((Bar.perform_eq_error_iff sound).mpr refused)
  | error error =>
      refine ⟨nofun, fun allowed => ?_⟩
      exact absurd ((Bar.perform_eq_error_iff sound).mp done) (shown.not_refuses allowed)

/-! Runs. -/

theorem Describes.after (shown : roster.Describes bar) (sound : bar.Sound) (action : Action) :
    (roster.after action).Describes (bar.after action) := by
  have allows := shown.perform_iff sound action
  rw [Roster.after, Bar.after]
  cases done : bar.perform action with
  | ok next =>
      rw [if_pos (allows.mp ⟨next, done⟩)]
      exact shown.perform sound done
  | error error =>
      have denied : ¬ roster.Allows action := by
        intro allowed
        obtain ⟨next, other⟩ := allows.mpr allowed
        cases done.symm.trans other
      rw [if_neg denied]
      exact shown

theorem Describes.run {actions : List Action} (shown : roster.Describes bar) (sound : bar.Sound)
    (unwrapped : bar.Unwrapped actions) : (roster.run actions).Describes (bar.run actions) := by
  induction actions generalizing roster bar with
  | nil => exact shown
  | cons action actions ih =>
      exact ih (shown.after sound action) (sound.after unwrapped.1) unwrapped.2

theorem identities_ofState (state : State) :
    (ofState state).identities = List.range state.clauses.length := by
  apply List.ext_getElem
  · simp [identities, ofState]
  · intro index inside bound
    simp [identities, ofState]

theorem describes_ofState {state : State} (loaded : Bar.load state = .ok bar) :
    (ofState state).Describes bar := by
  obtain ⟨⟨-, runs, -⟩, rfl⟩ := Bar.load_eq_ok_iff.mp loaded
  have entries := identities_ofState state
  have given : ∀ group ∈ state.groups, ∀ index ∈ group.indices, index < state.clauses.length :=
    fun group member index inside =>
      (runs group member).lt_count index (Group.mem_sorted.mpr inside)
  have located : ∀ group ∈ state.groups, group.sorted =
      (ofState state).located ⟨group.id, group.connector, group.indices.toFinset⟩ := by
    intro group member
    refine congrArg (Group.mk group.id group.connector) ?_
    apply positions_eq_of_mem_iff (Indices.distinct_ascending group.indices)
    intro index
    rw [Indices.mem_distinct, entries]
    constructor
    · intro inside
      exact ⟨index, List.mem_toFinset.mpr inside, List.getElem?_range (given group member _ inside)⟩
    · rintro ⟨identity, inside, found⟩
      obtain ⟨bound, rfl⟩ := List.getElem?_eq_some_iff.mp found
      rw [List.getElem_range] at inside
      exact List.mem_toFinset.mp inside
  change (ofState state).unpicked.Describes _
  refine .of_unpicked rfl ?_ ?_ ?_ ?_ rfl ?_
  · dsimp only
    rw [Bar.map_unmarked_marked]
    apply List.ext_getElem?
    intro index
    simp [ofState, Function.comp_def]
  · rw [entries]
    exact List.nodup_range
  · intro identity member
    rw [entries] at member
    exact List.mem_range.mp member
  · refine (Indices.sortBy_perm _ _).trans (.of_eq ?_)
    rw [ofState, List.map_map]
    exact List.map_congr_left located
  · intro circle member identity inside
    obtain ⟨group, groupMember, rfl⟩ := List.mem_map.mp member
    rw [entries]
    exact List.mem_range.mpr (given group groupMember identity (List.mem_toFinset.mp inside))

end Roster

end SearchFilter
