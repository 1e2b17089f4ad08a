import SearchFilter.Proofs.Bar.Runs

/-!
An empty clause that was just inserted. It says nothing, but it may be the first enabled clause of a
run, and then the run joins the filter in front of it by the connector of the empty clause.
-/

namespace SearchFilter.Bar

def looseBefore (bar : Bar) (index : Nat) : List Clause :=
  (bar.clauses.take (index + 1)).rtakeWhile Clause.isLoose

def looseAfter (bar : Bar) (index : Nat) : List Clause :=
  (bar.clauses.drop (index + 1)).takeWhile Clause.isLoose

/-- The first enabled clause of a run, if one that is inserted after the index would come before
it. -/
def displaced? (bar : Bar) (index : Nat) : Option Nat :=
  if (bar.looseBefore index).all Clause.disabled then
    ((bar.looseAfter index).findIdx? fun clause => !clause.disabled).map (index + 1 + ·)
  else none

/-! The clauses before and after. -/

def front (bar : Bar) (index : Nat) : List Clause :=
  (bar.clauses.take (index + 1)).rdropWhile Clause.isLoose

def rear (bar : Bar) (index : Nat) : List Clause :=
  (bar.clauses.drop (index + 1)).dropWhile Clause.isLoose

variable {rules : Rules} {groups : List Group} {bar next changed : Bar} {index follower : Nat}
  {connector : Connector} {clause : Clause}

theorem front_append_looseBefore (bar : Bar) (index : Nat) :
    bar.front index ++ bar.looseBefore index = bar.clauses.take (index + 1) :=
  List.rdropWhile_append_rtakeWhile

theorem looseAfter_append_rear (bar : Bar) (index : Nat) :
    bar.looseAfter index ++ bar.rear index = bar.clauses.drop (index + 1) :=
  List.takeWhile_append_dropWhile

theorem clauses_around (bar : Bar) (index : Nat) : bar.clauses =
    bar.front index ++ (bar.looseBefore index ++ bar.looseAfter index) ++ bar.rear index := by
  rw [← List.append_assoc, front_append_looseBefore, List.append_assoc, looseAfter_append_rear,
    List.take_append_drop]

theorem insertIdx_length (first second : List Clause) (clause : Clause) :
    (first ++ second).insertIdx first.length clause = first ++ clause :: second := by
  induction first with
  | nil => rfl
  | cons head rest ih => exact congrArg (head :: ·) ih

theorem length_front_append (inside : index < bar.clauses.length) :
    (bar.front index ++ bar.looseBefore index).length = index + 1 := by
  rw [front_append_looseBefore, List.length_take]
  omega

theorem front_noted : ∀ last ∈ (bar.front index).getLast?, last.isLoose = false :=
  last_of_rdropWhile

theorem rear_noted : ∀ next ∈ (bar.rear index).head?, next.isLoose = false :=
  head_of_dropWhile

theorem loose_around (bar : Bar) (index : Nat) :
    ∀ clause ∈ bar.looseBefore index ++ bar.looseAfter index, clause.isLoose = true := by
  intro clause member
  rcases List.mem_append.mp member with before | after
  · exact List.mem_rtakeWhile_imp before
  · exact List.mem_takeWhile_imp after

theorem apart_around (sound : bar.Sound) (done : bar.insertAfter index connector = .ok next)
    (empty : bar.looseBefore index ++ bar.looseAfter index = []) :
    ∀ last ∈ (bar.front index).getLast?, ∀ next ∈ (bar.rear index).head?,
      sameNote last next = false := by
  obtain ⟨inside, whole, -⟩ := insertAfter_eq_ok_iff.mp done
  obtain ⟨noBefore, noAfter⟩ := List.append_eq_nil_iff.mp empty
  intro last lastMember next nextMember
  have noted := front_noted last lastMember
  have here : bar.clauses[index]? = some last := by
    have front := bar.front_append_looseBefore index
    rw [noBefore, List.append_nil] at front
    rw [front, List.getLast?_take, if_neg (Nat.succ_ne_zero index), Nat.add_sub_cancel,
      List.getElem?_eq_getElem inside, Option.some_or] at lastMember
    rw [List.getElem?_eq_getElem inside]
    exact lastMember
  have there : bar.clauses[index + 1]? = some next := by
    have rear := bar.looseAfter_append_rear index
    rw [noAfter, List.nil_append] at rear
    rw [rear, List.head?_drop] at nextMember
    exact nextMember
  by_contra same
  rw [Bool.not_eq_false, sameNote_eq_true_iff, note_eq sound here, note_eq sound there] at same
  rw [Clause.isLoose, note_eq sound here] at noted
  cases holds : groupAt bar.groups index with
  | none => rw [holds] at noted; exact Bool.noConfusion noted
  | some own =>
      rw [holds, Option.map_some] at same
      obtain ⟨other, otherHolds, id⟩ := Option.map_eq_some_iff.mp same.symm
      obtain rfl := groupAt_eq_of_id sound holds otherHolds id.symm
      have last := (Group.last_eq_some_iff.mp (whole own holds)).2
      have beyond := last (index + 1) ((groupAt_eq_some_iff sound.arranged.apart).mp otherHolds).2
      omega

theorem operands_before (sound : bar.Sound) (done : bar.insertAfter index connector = .ok next) :
    operands rules bar.groups bar.clauses = operands rules bar.groups (bar.front index) ++
      (rules.operand? none (bar.looseBefore index ++ bar.looseAfter index)).toList ++
        operands rules bar.groups (bar.rear index) := by
  rw [← operands_run ⟨bar.loose_around index, front_noted, rear_noted⟩ (apart_around sound done),
    ← clauses_around]

theorem operands_around {clauses first second : List Clause}
    (shape : clauses = bar.front index ++ (first ++ clause :: second) ++ bar.rear index)
    (loose : ∀ member ∈ first ++ clause :: second, member.isLoose = true) :
    operands rules groups clauses = operands rules groups (bar.front index) ++
      (rules.operand? none (first ++ clause :: second)).toList ++
        operands rules groups (bar.rear index) := by
  have nonempty : first ++ clause :: second ≠ [] := by simp
  rw [shape, operands_run ⟨loose, front_noted, rear_noted⟩ (absurd · nonempty)]

theorem operands_after (done : bar.insertAfter index connector = .ok next) :
    operands rules next.groups next.clauses = operands rules bar.groups (bar.front index) ++
      (rules.operand? none (bar.looseBefore index ++
        Clause.empty (some connector) :: bar.looseAfter index)).toList ++
        operands rules bar.groups (bar.rear index) := by
  obtain ⟨inside, -, rfl⟩ := insertAfter_eq_ok_iff.mp done
  have all := bar.loose_around index
  rw [operands_map_groups (shiftedUp index) (fun _ => rfl) fun _ => rfl]
  apply operands_around
  · dsimp only
    rw [← length_front_append inside]
    conv_lhs => rw [bar.clauses_around index, ← List.append_assoc, List.append_assoc,
      insertIdx_length]
    simp only [List.append_assoc, List.cons_append]
  · simp only [List.mem_append, List.mem_cons] at all ⊢
    rintro clause (before | rfl | after)
    · exact all clause (.inl before)
    · rfl
    · exact all clause (.inr after)

theorem displaced?_eq_some (found : bar.displaced? index = some follower)
    (inside : index < bar.clauses.length) :
    (∀ clause ∈ bar.looseBefore index, clause.disabled = true) ∧
      ∃ skipped clause rest, bar.looseAfter index = skipped ++ clause :: rest ∧
        (∀ clause ∈ skipped, clause.disabled = true) ∧ clause.disabled = false ∧
        bar.clauses[follower]? = some clause ∧
        follower = (bar.front index ++ bar.looseBefore index ++ skipped).length := by
  rw [displaced?] at found
  split at found
  · rename_i disabled
    obtain ⟨place, located, rfl⟩ := Option.map_eq_some_iff.mp found
    obtain ⟨bound, enabled, earlier⟩ := List.findIdx?_eq_some_iff_getElem.mp located
    refine ⟨List.all_eq_true.mp disabled, (bar.looseAfter index).take place,
      (bar.looseAfter index)[place], (bar.looseAfter index).drop (place + 1), ?_, ?_, ?_, ?_, ?_⟩
    · rw [← List.drop_eq_getElem_cons bound, List.take_append_drop]
    · intro clause member
      obtain ⟨offset, before, rfl⟩ := List.mem_take_iff_getElem.mp member
      simpa using earlier offset (by omega)
    · simpa using enabled
    · rw [← List.getElem?_drop, ← looseAfter_append_rear, List.getElem?_append_left bound,
        List.getElem?_eq_getElem bound]
    · rw [List.length_append, length_front_append inside, List.length_take_of_le bound.le]
  · exact absurd found (by simp)

theorem operands_changed {skipped rest : List Clause}
    (shape : bar.looseAfter index = skipped ++ clause :: rest)
    (place : follower = (bar.front index ++ bar.looseBefore index ++ skipped).length)
    (present : bar.clauses[follower]? = some clause)
    (done : bar.setConnector follower connector = .ok changed) :
    operands rules changed.groups changed.clauses = operands rules bar.groups (bar.front index) ++
      (rules.operand? none ((bar.looseBefore index ++ skipped) ++
        { clause with connector := some connector } :: rest)).toList ++
        operands rules bar.groups (bar.rear index) := by
  obtain ⟨current, found, rfl⟩ := clause_map_eq_ok_iff.mp done
  obtain rfl := Option.some.inj (present.symm.trans found)
  have all := bar.loose_around index
  rw [shape] at all
  apply operands_around
  · dsimp only
    rw [place]
    conv_lhs => rw [bar.clauses_around index, shape]
    simp
  · simp only [List.mem_append, List.mem_cons] at all ⊢
    rintro other ((before | between) | rfl | after)
    · exact all other (.inl before)
    · exact all other (.inr (.inl between))
    · exact all clause (.inr (.inr (.inl rfl)))
    · exact all other (.inr (.inr (.inr after)))

/-! The filter before and after. -/

theorem canonical_before (sound : bar.Sound) (done : bar.insertAfter index connector = .ok next) :
    bar.tree?.bind (Tree.canonical? rules) = around? (operands rules bar.groups (bar.front index))
      (operands rules bar.groups (bar.rear index))
      (rules.operand? none (bar.looseBefore index ++ bar.looseAfter index)) := by
  rw [canonical?_tree? sound, operands_before sound done, around?]

theorem canonical_after (sound : bar.Sound) (done : bar.insertAfter index connector = .ok next) :
    next.tree?.bind (Tree.canonical? rules) = around? (operands rules bar.groups (bar.front index))
      (operands rules bar.groups (bar.rear index))
      (rules.operand? none (bar.looseBefore index ++
        Clause.empty (some connector) :: bar.looseAfter index)) := by
  rw [canonical?_tree? (sound.insertAfter done), operands_after done, around?]

theorem canonical_not_displaced (sound : bar.Sound)
    (done : bar.insertAfter index connector = .ok next)
    (undisturbed : bar.displaced? index = none) :
    next.tree?.bind (Tree.canonical? rules) = bar.tree?.bind (Tree.canonical? rules) := by
  rw [canonical_before sound done, canonical_after sound done]
  rw [displaced?] at undisturbed
  split at undisturbed
  · rename_i disabled
    have before := List.all_eq_true.mp disabled
    have after : ∀ clause ∈ bar.looseAfter index, clause.disabled = true := by
      simpa using List.findIdx?_eq_none_iff.mp (Option.map_eq_none_iff.mp undisturbed)
    have all : ∀ clause ∈ bar.looseBefore index ++ bar.looseAfter index, clause.disabled = true :=
      fun clause member => (List.mem_append.mp member).elim (before clause) (after clause)
    rw [operand?_disabled all, operand?_led before rfl, predicates_empty_cons,
      predicates_disabled after]
    exact around?_absent
  · rename_i enabled
    rw [operand?_inserted_behind (by simpa using enabled)]

/-- The filter in which the loose clauses around an index are joined by a connector, if those up to
the index say nothing. -/
def joinedBy? (rules : Rules) (bar : Bar) (index : Nat) (connector : Connector) : Option Formula :=
  around? (operands rules bar.groups (bar.front index)) (operands rules bar.groups (bar.rear index))
    (some (connector, Formula.ofSegment none (rules.predicates (bar.looseAfter index))))

theorem canonical_displaced (rules : Rules) (sound : bar.Sound)
    (done : bar.insertAfter index connector = .ok next)
    (found : bar.displaced? index = some follower) :
    ∃ clause, bar.clauses[follower]? = some clause ∧
      rules.predicates (bar.looseBefore index) = [] ∧
      bar.tree?.bind (Tree.canonical? rules) = joinedBy? rules bar index clause.effectiveConnector ∧
      next.tree?.bind (Tree.canonical? rules) = joinedBy? rules bar index connector ∧
      ∀ changed, bar.setConnector follower connector = .ok changed →
        changed.tree?.bind (Tree.canonical? rules) = joinedBy? rules bar index connector := by
  have inside := (insertAfter_eq_ok_iff.mp done).1
  obtain ⟨before, skipped, clause, rest, shape, between, enabled, present, place⟩ :=
    displaced?_eq_some found inside
  have all : ∀ clause ∈ bar.looseBefore index ++ skipped, clause.disabled = true :=
    fun clause member => (List.mem_append.mp member).elim (before clause) (between clause)
  have said : rules.predicates (bar.looseAfter index) = rules.predicates (clause :: rest) := by
    rw [shape, Rules.predicates_append, predicates_disabled between, List.nil_append]
  have led (named : Clause) (enabled : named.disabled = false) :
      rules.operand? none (bar.looseBefore index ++ skipped ++ named :: rest) =
        some (named.effectiveConnector,
          Formula.ofSegment none (rules.predicates (named :: rest))) :=
    operand?_led all enabled
  refine ⟨clause, present, predicates_disabled before, ?_, ?_, ?_⟩
  · rw [canonical_before sound done, joinedBy?, said, ← led clause enabled, shape,
      List.append_assoc]
  -- The empty clause comes first and is enabled, but it adds no predicate to the run.
  · rw [canonical_after sound done, operand?_led before rfl, predicates_empty_cons]
    rfl
  · intro changed set
    have changedSound := sound.edit follower (fun current =>
      { current with connector := some connector }) (fun _ => rfl) set
    rw [canonical?_tree? changedSound, operands_changed shape place present set,
      led { clause with connector := some connector } enabled, ofSegment_leader, ← said]
    rfl

theorem ready_take_eq_nil_iff (silent : rules.predicates (bar.looseBefore index) = []) :
    rules.ready (bar.clauses.take (index + 1)) = [] ↔
      Formula.present (operands rules bar.groups (bar.front index)) = [] := by
  rw [ready_eq_nil_iff, present_operands_eq_nil_iff, ← front_append_looseBefore,
    Rules.predicates_append, silent, List.append_nil]

theorem ready_looseAfter_eq_nil_iff : rules.ready (bar.looseAfter index) = [] ↔
    Formula.ofSegment none (rules.predicates (bar.looseAfter index)) = none := by
  rw [ready_eq_nil_iff, Formula.ofSegment_eq_none_iff]

theorem joinedBy?_connector {other : Connector}
    (silent : rules.predicates (bar.looseBefore index) = [])
    (apart : connector = other ∨ rules.ready (bar.clauses.take (index + 1)) = [] ∨
      rules.ready (bar.looseAfter index) = []) :
    joinedBy? rules bar index connector = joinedBy? rules bar index other := by
  rw [ready_take_eq_nil_iff silent, ready_looseAfter_eq_nil_iff] at apart
  exact around?_connector apart

theorem joinedBy?_document_ne {other : Connector} (compiler : Compiler)
    (silent : rules.predicates (bar.looseBefore index) = []) (different : connector ≠ other)
    (front : rules.ready (bar.clauses.take (index + 1)) ≠ [])
    (run : rules.ready (bar.looseAfter index) ≠ []) :
    ((joinedBy? rules bar index connector).map (Formula.document compiler)).getD
        Document.matchAll ≠
      ((joinedBy? rules bar index other).map (Formula.document compiler)).getD
        Document.matchAll := by
  rw [Ne, ready_take_eq_nil_iff silent] at front
  rw [Ne, ready_looseAfter_eq_nil_iff] at run
  obtain ⟨formula, said⟩ := Option.ne_none_iff_exists'.mp run
  have normal := Formula.ofSegment_normal formula (Option.mem_def.mpr said)
  rw [joinedBy?, joinedBy?, said]
  exact around?_document_ne compiler (operands_normal _) normal (operands_normal _) different front

theorem document_eq_of_searchDocument
    (same : Query.searchDocument next.query = Query.searchDocument bar.query) :
    ((next.tree?.bind (Tree.canonical? {})).map (Formula.document {})).getD Document.matchAll =
      ((bar.tree?.bind (Tree.canonical? {})).map (Formula.document {})).getD
        Document.matchAll := by
  have documents : Query.document next.query = Query.document bar.query := by
    simpa [Query.searchDocument] using same
  rw [query, query, Compiler.document_eq_formula, Compiler.document_eq_formula] at documents
  exact documents

theorem unchanged_iff (sound : bar.Sound) (done : bar.insertAfter index connector = .ok next)
    (found : bar.displaced? index = some follower)
    (present : bar.clauses[follower]? = some clause) :
    Query.searchDocument next.query = Query.searchDocument bar.query ∧
        next.preview = bar.preview ↔
      clause.effectiveConnector = connector ∨
        Rules.ready {} (bar.clauses.take (index + 1)) = [] ∨
        Rules.ready {} (bar.looseAfter index) = [] := by
  obtain ⟨other, otherPresent, silent, before, after, -⟩ :=
    canonical_displaced {} sound done found
  obtain rfl := Option.some.inj (present.symm.trans otherPresent)
  constructor
  · rintro ⟨documents, -⟩
    have equal := document_eq_of_searchDocument documents
    rw [after, before] at equal
    by_contra! changes
    obtain ⟨different, front, run⟩ := changes
    exact joinedBy?_document_ne {} silent different front run equal.symm
  · intro apart
    have equal := same_views (before.trans ((joinedBy?_connector silent apart).trans after.symm))
    exact ⟨congrArg Query.searchDocument equal.1.symm, equal.2.symm⟩

/-- An empty clause that was inserted is never complete. Query and text change only if it takes the
place of the first enabled clause of a run, with another connector, and there is something to say
both in front of the run and in it. They are then what they are with the connector of the empty
clause on that clause. Groups that were created behind an overflow are left out. -/
theorem insertion_changes_iff (reachable : bar.ReachableUnwrapped)
    (done : bar.insertAfter index connector = .ok next) :
    (∃ inserted, next.clauses[index + 1]? = some inserted ∧
      ∀ rules : Rules, rules.complete inserted = .error .missingField) ∧
    (∀ follower, bar.displaced? index = some follower →
      ∃ changed, bar.setConnector follower connector = .ok changed ∧
        next.query = changed.query ∧ next.preview = changed.preview) ∧
    (Query.searchDocument next.query = Query.searchDocument bar.query ∧
        next.preview = bar.preview ↔
      ¬ ∃ follower clause, bar.displaced? index = some follower ∧
        bar.clauses[follower]? = some clause ∧ clause.effectiveConnector ≠ connector ∧
        Rules.ready {} (bar.clauses.take (index + 1)) ≠ [] ∧
        Rules.ready {} (bar.looseAfter index) ≠ []) := by
  have sound := Sound.of_reachable reachable
  refine ⟨?_, ?_, ?_⟩
  · obtain ⟨inside, -, rfl⟩ := insertAfter_eq_ok_iff.mp done
    refine ⟨.empty (some connector), ?_, fun rules => rules.complete_empty _⟩
    rw [List.getElem?_insertIdx_self, if_pos]
    omega
  · intro follower found
    obtain ⟨clause, present, -, -, after, changed⟩ :=
      canonical_displaced {} sound done found
    obtain ⟨next', set⟩ : ∃ changed, bar.setConnector follower connector = .ok changed :=
      ⟨_, clause_map_eq_ok_iff.mpr ⟨clause, present, rfl⟩⟩
    exact ⟨next', set, same_views (after.trans (changed next' set).symm)⟩
  · cases found : bar.displaced? index with
    | none =>
        have equal := same_views (canonical_not_displaced sound done found)
        simp [equal.1, equal.2]
    | some follower =>
        obtain ⟨clause, present, -⟩ := canonical_displaced {} sound done found
        rw [unchanged_iff sound done found present]
        constructor
        · rintro apart ⟨place, leader, located, here, different, front, run⟩
          obtain rfl := Option.some.inj located
          obtain rfl := Option.some.inj (present.symm.trans here)
          exact apart.elim different fun silent => silent.elim front run
        · intro untouched
          by_contra! changes
          exact untouched ⟨follower, clause, rfl, present, changes⟩

theorem insertion_changes_iff_of_group :
    ∃ bar next, load ⟨[{ field := "a", operator := "exists" },
        { field := "b", operator := "exists" },
        { field := "c", operator := "exists", disabled := true },
        { field := "d", operator := "exists" }], [⟨"g", .or, [0, 1]⟩]⟩ = .ok bar ∧
      bar.insertAfter 1 .or = .ok next ∧
      (∃ changed, bar.setConnector 3 .or = .ok changed ∧ next.query = changed.query ∧
        next.preview = changed.preview) ∧
      ¬ (Query.searchDocument next.query = Query.searchDocument bar.query ∧
        next.preview = bar.preview) := by
  have range : (Group.sorted ⟨"g", .or, [0, 1]⟩).IsRun 4 := ⟨0, 2, by decide, by decide, rfl⟩
  have loaded : load ⟨[{ field := "a", operator := "exists" },
      { field := "b", operator := "exists" },
      { field := "c", operator := "exists", disabled := true },
      { field := "d", operator := "exists" }], [⟨"g", .or, [0, 1]⟩]⟩ = .ok _ :=
    load_eq_ok_iff.mpr ⟨⟨by simp, by simpa using range, by simp⟩, rfl⟩
  obtain ⟨-, displaced, unchanged⟩ := @insertion_changes_iff _ _ 1 .or
    ⟨_, [], .inr ⟨_, loaded⟩, trivial, rfl⟩ rfl
  refine ⟨_, _, loaded, rfl, displaced 3 rfl, fun same => unchanged.mp same ?_⟩
  exact ⟨3, _, rfl, rfl, by decide, List.cons_ne_nil _ _, List.cons_ne_nil _ _⟩

/-- A run that follows a group is joined by the connector of an empty clause in front of it. -/
theorem insertion_changes_behind_group :
    ∃ bar next, load ⟨[{ field := "a", operator := "exists" },
        { field := "b", operator := "exists", connector := some .or },
        { field := "c", operator := "exists", connector := some .and }],
        [⟨"g", .or, [0, 1]⟩]⟩ = .ok bar ∧ bar.ReachableUnwrapped ∧
      bar.insertAfter 1 .or = .ok next ∧
      bar.preview = "(a: exists OR b: exists) AND c: exists" ∧
      next.preview = "a: exists OR b: exists OR c: exists" ∧
      Query.searchDocument next.query ≠ Query.searchDocument bar.query := by
  have range : (Group.sorted ⟨"g", .or, [0, 1]⟩).IsRun 3 := ⟨0, 2, by decide, by decide, rfl⟩
  have loaded : load ⟨[{ field := "a", operator := "exists" },
      { field := "b", operator := "exists", connector := some .or },
      { field := "c", operator := "exists", connector := some .and }],
      [⟨"g", .or, [0, 1]⟩]⟩ = .ok _ :=
    load_eq_ok_iff.mpr ⟨⟨by simp, by simpa using range, by simp⟩, rfl⟩
  refine ⟨_, _, loaded, ⟨_, [], .inr ⟨_, loaded⟩, trivial, rfl⟩, rfl, ?_, ?_, ?_⟩
  · rfl
  · rfl
  · intro same
    exact absurd (congrArg Json.compact same) (by decide +kernel)

end SearchFilter.Bar
