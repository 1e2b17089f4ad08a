import SearchFilter.Bar.Session
import SearchFilter.Proofs.Bar.Validity
import SearchFilter.Proofs.Filter.Grouping

/-!
Which actions a bar refuses, and why. A change that is refused has written nothing by then, so a
session is the same without it.
-/

namespace SearchFilter

/-- What a change comes to that makes a bar, or is refused with nothing written. -/
def Bar.settled (bar : Bar) (answer : Answer) :
    Except GroupError Bar → Except GroupError Answer × Bar
  | .ok next => (.ok answer, next)
  | .error error => (.error error, bar)

namespace Change

open Bar

variable {α β : Type} {bar : Bar}

theorem run_detach_all (ids : List String) (bar : Bar) :
    run (ids.forM fun id => discard (detach id)) bar = some (.ok (), ids.foldl detached bar) := by
  induction ids generalizing bar with
  | nil => rfl
  | cons id rest ih =>
      change run (do discard (detach id); rest.forM fun id => discard (detach id)) bar = _
      rw [run_bind]
      exact ih (bar.detached id)

theorem run_checked {index : Nat} {answer : Answer} {rest : Change Answer}
    {next : Option (Except GroupError Bar)}
    (made : index < bar.clauses.length → run rest bar = next.map (bar.settled answer)) :
    run (do checkIndex index; rest) bar = (bar.checked index next).map (bar.settled answer) := by
  rw [run_bind, run_checkIndex, checked]
  by_cases inside : index < bar.clauses.length
  · simpa [inside] using made inside
  · simp [inside, settled]

theorem run_push (clause : Clause) (bar : Bar) :
    run (push clause) bar = some (.ok (.index bar.clauses.length), bar.push clause) := by
  simp [push, Bar.push, Except.map]

theorem run_insertAfter (index : Nat) (connector : Connector) (bar : Bar) :
    run (insertAfter index connector) bar =
      (bar.insertInPlace? index connector).map (bar.settled (.index (index + 1))) := by
  refine run_checked ?_
  intro inside
  rw [run_bind, run_get]
  dsimp only
  cases (bar.groupOf index).filter fun group => group.last ≠ some index with
  | some group => rfl
  | none =>
      rw [run_bind, run_write]
      cases inserted? bar.clauses (index + 1) (Clause.empty (some connector)) <;> rfl

theorem run_edit (index : Nat) (change : Clause → Clause) (bar : Bar) :
    run (do edit index change; return Answer.done) bar =
      (bar.edit? index change).map (bar.settled .done) := by
  rw [edit, bind_assoc]
  refine run_checked ?_
  intro inside
  simp [edited?, inside, settled, Except.map]

theorem run_toggleDisabled (index : Nat) (bar : Bar) :
    run (toggleDisabled index) bar =
      (bar.edit? index fun current => { current with disabled := !current.disabled }).map
        (bar.settled (bar.answer (.toggleDisabled index))) := by
  rw [toggleDisabled, edit, bind_assoc]
  refine run_checked ?_
  intro inside
  simp [edited?, inside, settled, answer, Except.map]

theorem run_remove (index : Nat) (bar : Bar) :
    run (remove index) bar =
      (bar.removeInPlace? index).map (bar.settled (bar.answer (.remove index))) := by
  refine run_checked ?_
  intro inside
  have here := List.getElem?_eq_getElem inside
  simp only [run_bind, run_get, here, run_lift, erased?, inside, if_true, Option.map_some,
    run_write, run_regroup, answer, Option.bind_eq_bind, Option.bind_some]
  cases noted? (fun _ => GroupMark.none) (orphans (bar.groups.map (lowered index)))
      (bar.clauses.eraseIdx index) with
  | none => rfl
  | some cleared =>
      simp only [Option.map_some, Option.bind_some, run_retag]
      cases retagged? (survivors (bar.groups.map (lowered index))) cleared <;> rfl

theorem run_select (index : Nat) (how : Click) (bar : Bar) :
    run (do select index how; return Answer.done) bar =
      (bar.performInPlace? (.select index how)).map (bar.settled .done) := by
  rw [select, bind_assoc]
  refine run_checked ?_
  intro inside
  simp [settled, Except.map]

theorem run_createGroup (connector : Connector) (bar : Bar) :
    run (createGroup connector) bar =
      (bar.createInPlace? connector).map (bar.settled (.id (idOf bar.nextNumber))) := by
  rw [createGroup, createInPlace?, run_bind, run_get]
  dsimp only
  rw [run_bind, run_liftExcept]
  cases bar.selection.range with
  | error error => rfl
  | ok span =>
      obtain ⟨start, stop⟩ := span
      by_cases beyond : bar.clauses.length < stop
      · simp [beyond, settled]
      · simp only [beyond, if_false, run_bind, run_detach_all, run_modify, run_regroup, run_retag]
        generalize retagged? _ _ = clauses
        cases clauses <;> rfl

theorem run_removeGroup (id : String) (bar : Bar) :
    run (removeGroup id) bar =
      some (bar.settled (bar.answer (.removeGroup id)) (bar.removeGroup id)) := by
  rw [removeGroup, Bar.removeGroup, run_bind, run_detach, answer, group]
  cases found : bar.groups.find? fun group => group.id == id with
  | some group => rfl
  | none =>
      rw [detached, found]
      rfl

theorem run_reload (bar : Bar) :
    run (do reload; return Answer.done) bar =
      (loadInPlace? bar.state).map (bar.settled .done) := by
  rw [reload, bind_assoc, run_bind, run_get]
  dsimp only
  cases loadInPlace? bar.state with
  | none => rfl
  | some loaded => cases loaded <;> rfl

theorem run_attempt (action : Action) (bar : Bar) :
    run (attempt action) bar =
      (bar.performInPlace? action).map (bar.settled (bar.answer action)) := by
  cases action with
  | push clause => exact run_push clause bar
  | insertAfter index connector => exact run_insertAfter index connector bar
  | update index content => exact run_edit index _ bar
  | setConnector index connector => exact run_edit index _ bar
  | toggleDisabled index => exact run_toggleDisabled index bar
  | remove index => exact run_remove index bar
  | select index how => exact run_select index how bar
  | clearSelection => rfl
  | createGroup connector => exact run_createGroup connector bar
  | removeGroup id => exact run_removeGroup id bar
  | reload => exact run_reload bar

end Change

/-! Refusals. -/

/-- Whether an action is refused depends on where the groups are. -/
def Action.readsPlaces : Action → Bool
  | .insertAfter _ _ | .reload => true
  | _ => false

def Action.index? : Action → Option Nat
  | .insertAfter index _ => some index
  | .update index _ => some index
  | .setConnector index _ => some index
  | .toggleDisabled index => some index
  | .remove index => some index
  | .select index _ => some index
  | .push _ | .clearSelection | .createGroup _ | .removeGroup _ | .reload => none

theorem Selection.range_eq_error_iff {selection : Selection} {error : GroupError}
    (ascending : selection.indices.Pairwise (· < ·)) :
    selection.range = .error error ↔
      (selection.indices.length < 2 ∧ error = .tooFewMembers selection.indices.length) ∨
        (¬ Grouping.Gapless selection.indices ∧ error = .notAdjacent selection.indices) := by
  rw [range]
  by_cases few : selection.indices.length < 2
  · simp [few, Grouping.gapless_of_few few, eq_comm]
  · have picked : selection.indices ≠ [] := by
      rintro none
      simp [none] at few
    rw [if_neg few, ← Grouping.isSome_span?_iff ascending picked]
    cases Indices.span? selection.indices with
    | none => simp [few, eq_comm]
    | some span => simp [few]

namespace Bar

variable {bar : Bar}

inductive Refuses (bar : Bar) : Action → GroupError → Prop
  | outside {action : Action} {index : Nat} : action.index? = some index →
      bar.clauses.length ≤ index →
      Refuses bar action (.indexOutOfRange index bar.clauses.length)
  | splits {index : Nat} {connector : Connector} {group : Group} : group ∈ bar.groups →
      index ∈ group.indices → index + 1 ∈ group.indices →
      Refuses bar (.insertAfter index connector) (.splitsGroup index group.id)
  | tooFew {connector : Connector} : bar.selection.indices.length < 2 →
      Refuses bar (.createGroup connector) (.tooFewMembers bar.selection.indices.length)
  | gap {connector : Connector} : ¬ Grouping.Gapless bar.selection.indices →
      Refuses bar (.createGroup connector) (.notAdjacent bar.selection.indices)
  | unknown {id : String} : (∀ group ∈ bar.groups, group.id ≠ id) →
      Refuses bar (.removeGroup id) (.groupNotFound id)

theorem clause_map_eq_error_iff {index : Nat} {change : Clause → Bar} {error : GroupError} :
    (bar.clause index).map change = .error error ↔
      bar.clauses.length ≤ index ∧ error = .indexOutOfRange index bar.clauses.length := by
  rcases Nat.lt_or_ge index bar.clauses.length with inside | outside
  · rw [clause_of_lt inside]
    simp [Except.map, Nat.not_le.mpr inside]
  · rw [clause_of_le outside]
    simp [Except.map, outside, eq_comm]

theorem Refuses.of_clause {action : Action} {index : Nat} {change : Clause → Bar}
    {error : GroupError} (about : action.index? = some index)
    (failed : (bar.clause index).map change = .error error) : bar.Refuses action error := by
  obtain ⟨beyond, rfl⟩ := clause_map_eq_error_iff.mp failed
  exact .outside about beyond

theorem Refuses.of_insertAfter {index : Nat} {connector : Connector} {error : GroupError}
    (sound : bar.Sound) (failed : bar.insertAfter index connector = .error error) :
    bar.Refuses (.insertAfter index connector) error := by
  rw [insertAfter] at failed
  rcases Nat.lt_or_ge index bar.clauses.length with inside | outside
  · rw [clause_of_lt inside, groupOf] at failed
    cases found : groupAt bar.groups index with
    | none => simp [Except.bind, found] at failed
    | some group =>
        obtain ⟨member, holds⟩ := (groupAt_eq_some_iff sound.arranged.apart).mp found
        by_cases last : group.last = some index
        · simp [Except.bind, found, last] at failed
        · simp only [Except.bind, found, if_neg last, Except.error.injEq] at failed
          subst failed
          have run := sound.arranged.runs group member
          exact .splits member holds ((run.last_ne_iff holds).mp last)
  · rw [clause_of_le outside] at failed
    obtain rfl := Except.error.inj failed
    exact .outside rfl outside

theorem createGroup_eq_error_iff {connector : Connector} {error : GroupError}
    (bounded : bar.InBounds) :
    bar.createGroup connector = .error error ↔ bar.selection.range = .error error := by
  rw [createGroup]
  cases range : bar.selection.range with
  | error reason => simp [Except.bind]
  | ok span =>
      obtain ⟨start, stop⟩ := span
      obtain ⟨large, indices⟩ := bounded.selection.of_range range
      have last : stop - 1 ∈ bar.selection.indices := by
        rw [indices, List.mem_range'_1]
        omega
      have bound := bounded.selection.picked (stop - 1) last
      have within : ¬ bar.clauses.length < stop := by omega
      simp [Except.bind, within]

theorem Refuses.of_createGroup {connector : Connector} {error : GroupError}
    (bounded : bar.InBounds) (failed : bar.createGroup connector = .error error) :
    bar.Refuses (.createGroup connector) error := by
  rw [createGroup_eq_error_iff bounded,
    Selection.range_eq_error_iff bounded.selection.ascending] at failed
  rcases failed with ⟨few, rfl⟩ | ⟨gap, rfl⟩
  · exact .tooFew few
  · exact .gap gap

theorem Refuses.of_removeGroup {id : String} {error : GroupError}
    (failed : bar.removeGroup id = .error error) : bar.Refuses (.removeGroup id) error := by
  rw [removeGroup, group] at failed
  cases found : bar.groups.find? fun group => group.id == id with
  | none =>
      rw [found] at failed
      obtain rfl := Except.error.inj failed
      exact .unknown (ne_id_of_find?_eq_none found)
  | some group =>
      rw [found] at failed
      cases failed

theorem Refuses.insertAfter {index : Nat} {connector : Connector} {error : GroupError}
    (sound : bar.Sound) (refused : bar.Refuses (.insertAfter index connector) error) :
    bar.insertAfter index connector = .error error := by
  cases refused with
  | @outside _ place about beyond =>
      obtain rfl := Option.some.inj about
      rw [Bar.insertAfter, clause_of_le beyond]
      rfl
  | @splits _ _ group member holds next =>
      have run := sound.arranged.runs group member
      have inside := run.lt_count index holds
      have found : bar.groupOf index = some group :=
        (groupAt_eq_some_iff sound.arranged.apart).mpr ⟨member, holds⟩
      rw [Bar.insertAfter, clause_of_lt inside, found]
      exact if_neg ((run.last_ne_iff holds).mpr next)

theorem Refuses.perform {action : Action} {error : GroupError} (bounded : bar.InBounds)
    (elsewhere : action.readsPlaces = false) (refused : bar.Refuses action error) :
    bar.perform action = .error error := by
  cases refused with
  | @outside _ index about beyond =>
      have absent : ∀ change, (bar.clause index).map change = .error _ :=
        fun change => clause_map_eq_error_iff.mpr ⟨beyond, rfl⟩
      cases action <;> simp only [Action.index?, reduceCtorEq, Option.some.injEq] at about <;>
        subst about
      case insertAfter connector => cases elsewhere
      all_goals exact absent _
  | splits => cases elsewhere
  | tooFew few =>
      exact (createGroup_eq_error_iff bounded).mpr
        ((Selection.range_eq_error_iff bounded.selection.ascending).mpr (.inl ⟨few, rfl⟩))
  | gap gap =>
      exact (createGroup_eq_error_iff bounded).mpr
        ((Selection.range_eq_error_iff bounded.selection.ascending).mpr (.inr ⟨gap, rfl⟩))
  | @unknown id absent =>
      have none : (bar.groups.find? fun group => group.id == id) = none := by
        simpa using absent
      rw [Bar.perform, removeGroup, group, none]
      rfl

theorem perform_eq_error_iff_of_bounded {action : Action} {error : GroupError}
    (bounded : bar.InBounds) (elsewhere : action.readsPlaces = false) :
    bar.perform action = .error error ↔ bar.Refuses action error := by
  refine ⟨?_, Refuses.perform bounded elsewhere⟩
  intro failed
  cases action with
  | push clause => cases failed
  | insertAfter index connector => cases elsewhere
  | update index content => exact .of_clause rfl failed
  | setConnector index connector => exact .of_clause rfl failed
  | toggleDisabled index => exact .of_clause rfl failed
  | remove index => exact .of_clause rfl failed
  | select index how => exact .of_clause rfl failed
  | clearSelection => cases failed
  | createGroup connector => exact .of_createGroup bounded failed
  | removeGroup id => exact .of_removeGroup failed
  | reload => cases elsewhere

theorem perform_eq_error_iff {action : Action} {error : GroupError} (sound : bar.Sound) :
    bar.perform action = .error error ↔ bar.Refuses action error := by
  cases places : action.readsPlaces with
  | false => exact perform_eq_error_iff_of_bounded sound.inBounds places
  | true =>
      cases action with
      | insertAfter index connector => exact ⟨.of_insertAfter sound, Refuses.insertAfter sound⟩
      | reload =>
          have loaded := load_arranged sound.arranged sound.ids sound.notes
          rw [Bar.perform, reload, state, loaded]
          refine ⟨nofun, ?_⟩
          intro refused
          cases refused with
          | outside about => cases about
      | _ => cases places

/-! Sessions. -/

theorem run_attempt_eq (bounded : bar.InBounds) (action : Action) :
    (Change.attempt action).run bar =
      some (bar.settled (bar.answer action) (bar.perform action)) := by
  rw [Change.run_attempt, performInPlace?_eq bounded, Option.map_some]

theorem run_attempt_eq_error_iff (bounded : bar.InBounds) {action : Action} {error : GroupError}
    {left : Bar} :
    (Change.attempt action).run bar = some (.error error, left) ↔
      bar.perform action = .error error ∧ left = bar := by
  rw [run_attempt_eq bounded]
  cases bar.perform action with
  | ok next => simp [settled]
  | error reason => simp [settled, eq_comm]

theorem exists_run_attempt (bounded : bar.InBounds) (action : Action) :
    ∃ result, (Change.attempt action).run bar = some (result, bar.after action) := by
  rw [run_attempt_eq bounded, after]
  cases bar.perform action with
  | ok next => exact ⟨_, rfl⟩
  | error error => exact ⟨_, rfl⟩

theorem session_cons {action : Action} {result : Except GroupError Answer} {left : Bar}
    (attempted : (Change.attempt action).run bar = some (result, left)) (actions : List Action) :
    bar.session (action :: actions) =
      (left.session actions).map fun (results, last) => (result :: results, last) := by
  rw [session, attempted]
  exact Option.map_eq_bind.symm

theorem exists_session (bounded : bar.InBounds) (actions : List Action) :
    ∃ results, bar.session actions = some (results, bar.run actions) ∧
      results.length = actions.length := by
  induction actions generalizing bar with
  | nil => exact ⟨[], rfl, rfl⟩
  | cons action rest ih =>
      obtain ⟨result, attempted⟩ := exists_run_attempt bounded action
      obtain ⟨results, later, length⟩ := ih (bounded.after action)
      refine ⟨result :: results, ?_, congrArg Nat.succ length⟩
      rw [session_cons attempted, later, run_cons]
      rfl

theorem session_without (bounded : bar.InBounds) {before later : List Action} {action : Action}
    {results : List (Except GroupError Answer)} {last : Bar} {error : GroupError}
    (ran : bar.session (before ++ action :: later) = some (results, last))
    (refused : results[before.length]? = some (.error error)) :
    bar.session (before ++ later) = some (results.eraseIdx before.length, last) := by
  -- Whatever comes before leaves a bar in bounds, and there a refusal has written nothing.
  induction before generalizing bar results with
  | nil =>
      obtain ⟨result, attempted⟩ := exists_run_attempt bounded action
      rw [List.nil_append, session_cons attempted, Option.map_eq_some_iff] at ran
      obtain ⟨⟨rest, last⟩, after, same⟩ := ran
      cases same
      obtain rfl := Option.some.inj refused
      rwa [((run_attempt_eq_error_iff bounded).mp attempted).2] at after
  | cons first before ih =>
      obtain ⟨result, attempted⟩ := exists_run_attempt bounded first
      rw [List.cons_append, session_cons attempted, Option.map_eq_some_iff] at ran
      obtain ⟨⟨rest, last⟩, after, same⟩ := ran
      cases same
      rw [List.cons_append, session_cons attempted, ih (bounded.after first) after refused]
      rfl

end Bar

end SearchFilter
