import SearchFilter.Proofs.Bar.Session

/-!
Ids of groups in a session. The counter of a bar stays above the numbers in all ids that were loaded
or given out, also of groups that are gone, so no group gets an id that was there before.
-/

namespace SearchFilter

def Answer.id? : Answer → Option String
  | .id given => some given
  | _ => none

namespace Bar

def handedOut (results : List (Except GroupError Answer)) : List String :=
  results.filterMap fun result => result.toOption.bind Answer.id?

def creations (actions : List Action) : Nat := actions.countP Action.creates

/-- So many groups can be numbered behind those of a bar before the numbers pass 64 bits. -/
def HasRoom (bar : Bar) (count : Nat) : Prop :=
  count < 2 ^ 64 ∧ ∀ group ∈ bar.groups, ∀ number, numberOf? group.id = some number →
    number + count < 2 ^ 64

def Above (bar : Bar) (ids : List String) : Prop :=
  bar.nextNumber ≠ 0 → ∀ id ∈ ids, ∀ number, numberOf? id = some number →
    number < bar.nextNumber.toNat

def Spares (bar : Bar) (count : Nat) : Prop :=
  0 < count → bar.nextNumber ≠ 0 ∧ bar.nextNumber.toNat + count ≤ 2 ^ 64

variable {bar next : Bar} {ids : List String}

theorem Sound.above (sound : bar.Sound) : bar.Above (bar.groups.map Group.id) :=
  fun whole => List.forall_mem_map.mpr (sound.fresh whole)

/-! One action. -/

theorem nextNumber_perform {action : Action} (keeps : action ≠ .reload)
    (done : bar.perform action = .ok next) :
    next.nextNumber = if action.creates then bar.nextNumber + 1 else bar.nextNumber := by
  cases action with
  | push clause => exact Except.ok.inj done ▸ rfl
  | insertAfter index connector =>
      obtain ⟨-, -, rfl⟩ := insertAfter_eq_ok_iff.mp done
      rfl
  | update index content | setConnector index connector | toggleDisabled index
  | select index how =>
      obtain ⟨current, -, rfl⟩ := clause_map_eq_ok_iff.mp done
      rfl
  | remove index =>
      obtain ⟨-, rfl⟩ := remove_eq_ok_iff.mp done
      rfl
  | clearSelection => exact Except.ok.inj done ▸ rfl
  | createGroup connector =>
      obtain ⟨start, stop, -, -, rfl⟩ := createGroup_eq_ok_iff.mp done
      rfl
  | removeGroup id =>
      obtain ⟨-, rfl⟩ := removeGroup_eq_ok_iff.mp done
      rw [detached_eq]
      rfl
  | reload => exact absurd rfl keeps

theorem answer_id? (bar : Bar) (action : Action) :
    (bar.answer action).id? = if action.creates then some (idOf bar.nextNumber) else none := by
  cases action with
  | toggleDisabled index | remove index =>
      rw [answer]
      cases bar.clauses[index]? <;> rfl
  | removeGroup id =>
      rw [answer]
      cases bar.group id <;> rfl
  | _ => rfl

theorem Above.idOf_not_mem (above : bar.Above ids) (whole : bar.nextNumber ≠ 0) :
    idOf bar.nextNumber ∉ ids :=
  fun member => Nat.lt_irrefl _ (above whole _ member _ (numberOf?_idOf bar.nextNumber))

theorem Above.snoc (above : bar.Above ids) (whole : bar.nextNumber ≠ 0)
    (passed : next.nextNumber = bar.nextNumber + 1) :
    next.Above (ids ++ [idOf bar.nextNumber]) := by
  intro more id member number spelled
  rw [passed] at more ⊢
  rw [toNat_add_one more]
  rcases List.mem_append.mp member with old | new
  · exact Nat.lt_succ_of_lt (above whole id old number spelled)
  · rw [List.mem_singleton.mp new, numberOf?_idOf] at spelled
    obtain rfl := Option.some.inj spelled
    exact Nat.lt_succ_self _

theorem creations_cons (action : Action) (actions : List Action) :
    creations (action :: actions) = creations actions + if action.creates then 1 else 0 :=
  List.countP_cons

theorem Spares.nextNumber_ne {action : Action} {actions : List Action}
    (spares : bar.Spares (creations (action :: actions))) (creates : action.creates = true) :
    bar.nextNumber ≠ 0 := by
  refine (spares ?_).1
  rw [creations_cons, if_pos creates]
  exact Nat.succ_pos _

theorem Spares.succ {count : Nat} (spares : bar.Spares (count + 1))
    (passed : next.nextNumber = bar.nextNumber + 1) : next.Spares count := by
  intro positive
  obtain ⟨-, room⟩ := spares (Nat.succ_pos count)
  have sum : (bar.nextNumber + 1).toNat = (bar.nextNumber.toNat + 1) % 2 ^ 64 :=
    UInt64.toNat_add bar.nextNumber 1
  have whole : bar.nextNumber + 1 ≠ 0 := by
    intro zero
    rw [zero] at sum
    change 0 = (bar.nextNumber.toNat + 1) % 2 ^ 64 at sum
    omega
  rw [passed]
  refine ⟨whole, ?_⟩
  rw [toNat_add_one whole]
  omega

theorem Spares.after {action : Action} {actions : List Action} (keeps : action ≠ .reload)
    (spares : bar.Spares (creations (action :: actions))) :
    (bar.after action).Spares (creations actions) := by
  have count := creations_cons action actions
  rw [Bar.after]
  cases done : bar.perform action with
  | error error =>
      intro positive
      obtain ⟨whole, room⟩ := spares (by omega)
      exact ⟨whole, by dsimp only [Except.toOption, Option.getD]; omega⟩
  | ok next =>
      have counter := nextNumber_perform keeps done
      change next.Spares _
      by_cases creates : action.creates = true
      · rw [if_pos creates] at counter count
        rw [count] at spares
        exact spares.succ counter
      · rw [if_neg creates] at counter count
        rw [count] at spares
        rw [Spares, counter]
        exact spares

theorem Spares.run {before rest : List Action} (keeps : Action.reload ∉ before)
    (spares : bar.Spares (creations (before ++ rest))) :
    bar.Unwrapped before ∧ (bar.run before).Spares (creations rest) := by
  induction before generalizing bar with
  | nil => exact ⟨trivial, spares⟩
  | cons action before ih =>
      have here : action ≠ .reload := fun same => keeps (same ▸ .head before)
      obtain ⟨unwrapped, later⟩ := ih (fun member => keeps (.tail action member)) (spares.after here)
      refine ⟨⟨?_, unwrapped⟩, later⟩
      exact fun misnumbers => spares.nextNumber_ne misnumbers.creates misnumbers.zero

/-! Sessions. -/

theorem session_cons_of_bounded (bounded : bar.InBounds) (action : Action) (actions : List Action) :
    bar.session (action :: actions) =
      ((bar.after action).session actions).map fun (results, last) =>
        ((bar.perform action).map (fun _ => bar.answer action) :: results, last) := by
  rw [after]
  refine session_cons ?_ actions
  rw [run_attempt_eq bounded]
  cases bar.perform action <;> rfl

theorem session_getElem? (bounded : bar.InBounds) {before rest : List Action} {action : Action}
    {results : List (Except GroupError Answer)} {last : Bar}
    (ran : bar.session (before ++ action :: rest) = some (results, last)) :
    results[before.length]? = some (((bar.run before).perform action).map
      fun _ => (bar.run before).answer action) := by
  induction before generalizing bar results with
  | nil =>
      rw [List.nil_append, session_cons_of_bounded bounded, Option.map_eq_some_iff] at ran
      obtain ⟨later, -, same⟩ := ran
      cases same
      rfl
  | cons first before ih =>
      rw [List.cons_append, session_cons_of_bounded bounded, Option.map_eq_some_iff] at ran
      obtain ⟨⟨later, last⟩, after, same⟩ := ran
      cases same
      rw [List.length_cons, List.getElem?_cons_succ, run_cons]
      exact ih (bounded.after first) after

theorem handedOut_cons_error (error : GroupError) (results : List (Except GroupError Answer)) :
    handedOut (.error error :: results) = handedOut results := rfl

theorem handedOut_cons_ok (answer : Answer) (results : List (Except GroupError Answer)) :
    handedOut (.ok answer :: results) = answer.id?.toList ++ handedOut results := by
  cases given : answer.id? <;> simp [handedOut, Except.toOption, given]

theorem Above.session_nodup (above : bar.Above ids) (nodup : ids.Nodup) (bounded : bar.InBounds)
    {actions : List Action} (keeps : Action.reload ∉ actions)
    (spares : bar.Spares (creations actions))
    {results : List (Except GroupError Answer)} {last : Bar}
    (ran : bar.session actions = some (results, last)) : (ids ++ handedOut results).Nodup := by
  -- The ids that are given out join those that the counter is above.
  induction actions generalizing bar ids results with
  | nil =>
      obtain ⟨rfl, -⟩ := Prod.mk.inj (Option.some.inj ran)
      rwa [handedOut, List.filterMap_nil, List.append_nil]
  | cons action actions ih =>
      rw [session_cons_of_bounded bounded, Option.map_eq_some_iff] at ran
      obtain ⟨⟨later, last⟩, ran, same⟩ := ran
      cases same
      have here : action ≠ .reload := fun same => keeps (same ▸ .head actions)
      have keepsLater : Action.reload ∉ actions := fun member => keeps (.tail action member)
      have boundedLater := bounded.after action
      have sparesLater := spares.after here
      cases done : bar.perform action with
      | error error =>
          rw [after, done] at ran boundedLater sparesLater
          rw [Except.map, handedOut_cons_error]
          exact ih above nodup boundedLater keepsLater sparesLater ran
      | ok next =>
          rw [after, done] at ran boundedLater sparesLater
          have counter := nextNumber_perform here done
          rw [Except.map, handedOut_cons_ok, answer_id?]
          by_cases creates : action.creates = true
          · have whole := spares.nextNumber_ne creates
            rw [if_pos creates] at counter ⊢
            have fresh := above.idOf_not_mem whole
            have longer : (ids ++ [idOf bar.nextNumber]).Nodup :=
              List.nodup_append.mpr ⟨nodup, List.nodup_singleton _, by
                rintro id old other new rfl
                exact fresh (List.mem_singleton.mp new ▸ old)⟩
            have apart := ih (above.snoc whole counter) longer boundedLater keepsLater sparesLater ran
            rwa [List.append_assoc] at apart
          · rw [if_neg creates] at counter ⊢
            have still : next.Above ids := by
              rw [Above, counter]
              exact above
            exact ih still nodup boundedLater keepsLater sparesLater ran

/-! The bars that sessions begin with. -/

theorem Initial.spares (initial : bar.Initial) {count : Nat} (room : bar.HasRoom count) :
    bar.Spares count := by
  obtain ⟨few, spare⟩ := room
  intro positive
  rcases initial with rfl | ⟨state, loaded⟩
  · refine ⟨by decide, ?_⟩
    change 1 + count ≤ 2 ^ 64
    omega
  · obtain ⟨-, rfl⟩ := load_eq_ok_iff.mp loaded
    have below : ∀ group ∈ state.groups, ∀ number, numberOf? group.id = some number →
        number + count < 2 ^ 64 := by
      intro group member
      exact spare group.sorted (mem_ordered.mpr (List.mem_map_of_mem member))
    have whole : freshNumber state.groups ≠ 0 := by
      intro zero
      obtain ⟨group, member, spelled⟩ := freshNumber_eq_zero_iff.mp zero
      have bound := below group member _ spelled
      omega
    refine ⟨whole, ?_⟩
    rw [toNat_freshNumber whole]
    rcases largestNumber_eq_zero_or state.groups with none | ⟨group, member, spelled⟩
    · omega
    · have bound := below group member _ spelled
      omega

theorem mem_ids_of_load {state : State} (loaded : load state = .ok bar) {group : Group}
    (member : group ∈ state.groups) : group.id ∈ bar.groups.map Group.id := by
  obtain ⟨-, rfl⟩ := load_eq_ok_iff.mp loaded
  exact List.mem_map.mpr ⟨group.sorted, mem_ordered.mpr (List.mem_map_of_mem member), rfl⟩

/-- A session without a reload gives every new group an id that no group of the loaded state has,
that no group has at that moment, and that was not given out before. -/
theorem ids_never_reused {start : Bar} (initial : start.Initial) {actions : List Action}
    (keeps : Action.reload ∉ actions) (room : start.HasRoom (creations actions)) :
    ∃ results, start.session actions = some (results, start.run actions) ∧
      (handedOut results).Nodup ∧
      (∀ state, load state = .ok start → ∀ group ∈ state.groups, group.id ∉ handedOut results) ∧
      ∀ before connector rest, actions = before ++ .createGroup connector :: rest →
        ∀ next, (start.run before).perform (.createGroup connector) = .ok next →
          ∃ id ∈ handedOut results, results[before.length]? = some (.ok (.id id)) ∧
            ∀ group ∈ (start.run before).groups, group.id ≠ id := by
  have sound := Sound.of_initial initial
  have bounded := sound.inBounds
  have spares := initial.spares room
  obtain ⟨results, ran, -⟩ := exists_session bounded actions
  have apart := sound.above.session_nodup sound.ids bounded keeps spares ran
  obtain ⟨-, nodup, disjoint⟩ := List.nodup_append.mp apart
  refine ⟨results, ran, nodup, ?_, ?_⟩
  · intro state loaded group member handed
    exact disjoint _ (mem_ids_of_load loaded member) _ handed rfl
  · rintro before connector rest rfl next done
    obtain ⟨unwrapped, later⟩ := spares.run fun member => keeps (List.mem_append_left _ member)
    have whole := later.nextNumber_ne rfl
    have result := session_getElem? bounded ran
    rw [done, Except.map, answer] at result
    refine ⟨_, ?_, result, (sound.run unwrapped).id_ne whole⟩
    exact List.mem_filterMap.mpr ⟨_, List.mem_of_getElem? result, rfl⟩

theorem ids_never_reused_of_spellings :
    let groups : List Group := [⟨"group-+09", .or, [2, 3]⟩, ⟨"group-12a", .and, [0, 1]⟩]
    let actions : List Action := [.removeGroup "group-+09", .select 2 .single, .select 3 .extend,
      .createGroup .and, .select 3 .single, .select 4 .extend, .createGroup .or]
    ∃ start, load ⟨[{}, {}, {}, {}, {}], groups⟩ = .ok start ∧ Action.reload ∉ actions ∧
      start.HasRoom (creations actions) ∧
      ∃ results, start.session actions = some (results, start.run actions) ∧
        (handedOut results).Nodup ∧ ∀ group ∈ groups, group.id ∉ handedOut results := by
  intro groups actions
  obtain ⟨start, loaded, held⟩ : ∃ start, load ⟨[{}, {}, {}, {}, {}], groups⟩ = .ok start ∧
      start.groups = [⟨"group-12a", .and, [0, 1]⟩, ⟨"group-+09", .or, [2, 3]⟩] := ⟨_, rfl, rfl⟩
  have keeps : Action.reload ∉ actions := by simp [actions]
  have room : start.HasRoom (creations actions) := by
    have two : creations actions = 2 := rfl
    have numbers : numberOf? "group-12a" = none ∧ numberOf? "group-+09" = some 9 := ⟨rfl, rfl⟩
    rw [HasRoom, two, held]
    simp [numbers]
  obtain ⟨results, ran, nodup, apart, -⟩ := ids_never_reused (.inr ⟨_, loaded⟩) keeps room
  exact ⟨start, loaded, keeps, room, results, ran, nodup, apart _ loaded⟩

end Bar

end SearchFilter
