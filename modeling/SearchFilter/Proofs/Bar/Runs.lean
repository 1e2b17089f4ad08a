import SearchFilter.Proofs.Bar.Stretches

/-!
A run of loose clauses among the others. It is one operand of the filter, joined by the connector of
its first enabled clause.
-/

namespace SearchFilter

def Clause.isLoose (clause : Clause) : Bool := clause.mark.group.isNone

/-! The connector of a clause does not matter for what it says. -/

theorem Rules.complete_empty (rules : Rules) (connector : Option Connector) :
    rules.complete (.empty connector) = .error .missingField := by
  rw [complete, Clause.empty, Text.trimmed_empty, if_pos rfl]

namespace Bar

/-! A run among other clauses. -/

/-- A run of loose clauses, as long as it can be. -/
structure IsRun (before run behind : List Clause) : Prop where
  loose : ∀ clause ∈ run, clause.isLoose = true
  left : ∀ last ∈ before.getLast?, last.isLoose = false
  right : ∀ next ∈ behind.head?, next.isLoose = false

variable {rules : Rules} {groups : List Group} {before run behind : List Clause}

theorem IsRun.isStretch (isRun : IsRun before run behind) :
    IsStretch none before run behind where
  noted := fun clause member => Option.isNone_iff_eq_none.mp (isRun.loose clause member)
  left := fun last member =>
    Option.ne_none_iff_isSome.mpr (Option.isNone_eq_false_iff.mp (isRun.left last member))
  right := fun next member =>
    Option.ne_none_iff_isSome.mpr (Option.isNone_eq_false_iff.mp (isRun.right next member))

theorem operands_run (isRun : IsRun before run behind)
    (apart : run = [] → ∀ last ∈ before.getLast?, ∀ next ∈ behind.head?,
      sameNote last next = false) :
    operands rules groups (before ++ run ++ behind) =
      operands rules groups before ++ (rules.operand? none run).toList ++
        operands rules groups behind :=
  operands_stretch isRun.isStretch apart

/-! The operand of a run, or of another stretch. -/

section

variable {owner : Option Connector} {connector : Connector} {clause : Clause}
  {first second skipped rest : List Clause}

theorem predicates_disabled (disabled : ∀ clause ∈ skipped, clause.disabled = true) :
    rules.predicates skipped = [] := by
  apply List.filterMap_eq_nil_iff.mpr
  intro clause member
  rw [disabled clause member, if_pos rfl]

theorem predicates_empty_cons :
    rules.predicates (Clause.empty (some connector) :: rest) = rules.predicates rest := by
  rw [Rules.predicates, List.filterMap_cons, Rules.complete_empty]
  rfl

theorem operand?_disabled (disabled : ∀ clause ∈ skipped, clause.disabled = true) :
    rules.operand? owner skipped = none := by
  rw [Rules.operand?, List.find?_eq_none.mpr (by simpa using disabled), Option.map_none]

theorem operand?_led (disabled : ∀ clause ∈ skipped, clause.disabled = true)
    (enabled : clause.disabled = false) :
    rules.operand? owner (skipped ++ clause :: rest) = some (clause.effectiveConnector,
      Formula.ofSegment owner (rules.predicates (clause :: rest))) := by
  have absent : (skipped.find? fun clause => !clause.disabled) = none :=
    List.find?_eq_none.mpr (by simpa using disabled)
  have found : ((clause :: rest).find? fun clause => !clause.disabled) = some clause :=
    List.find?_cons_of_pos (by simpa using enabled)
  rw [Rules.operand?, List.find?_append, absent, found, Rules.predicates_append,
    predicates_disabled disabled]
  rfl

theorem operand?_behind (enabled : ∃ clause ∈ first, clause.disabled = false) :
    ∃ leader : Clause, ∀ second, rules.operand? owner (first ++ second) =
      some (leader.effectiveConnector,
        Formula.ofSegment owner (rules.predicates first ++ rules.predicates second)) := by
  obtain ⟨leader, found⟩ : ∃ leader, (first.find? fun clause => !clause.disabled) = some leader :=
    Option.isSome_iff_exists.mp (List.find?_isSome.mpr (by simpa using enabled))
  refine ⟨leader, fun second => ?_⟩
  rw [Rules.operand?, List.find?_append, found, Rules.predicates_append]
  rfl

theorem operand?_inserted_behind (enabled : ∃ clause ∈ first, clause.disabled = false) :
    rules.operand? none (first ++ Clause.empty (some connector) :: second) =
      rules.operand? none (first ++ second) := by
  obtain ⟨leader, led⟩ := operand?_behind enabled
  rw [led, led, predicates_empty_cons]

theorem operand?_passed (disabled : clause.disabled = true) :
    rules.operand? owner (first ++ clause :: second) = rules.operand? owner (first ++ second) := by
  have passed : rules.predicates (clause :: second) = rules.predicates second := by
    rw [Rules.predicates, List.filterMap_cons, disabled]
    rfl
  rw [Rules.operand?, Rules.operand?, List.find?_append, List.find?_append,
    List.find?_cons_of_neg (by simpa using disabled), Rules.predicates_append,
    Rules.predicates_append, passed]

theorem operand?_connected {own : Connector} (enabled : ∃ clause ∈ first, clause.disabled = false) :
    rules.operand? (some own) (first ++ { clause with connector := some connector } :: second) =
      rules.operand? (some own) (first ++ clause :: second) := by
  obtain ⟨leader, led⟩ := operand?_behind enabled
  have same : (rules.predicates ({ clause with connector := some connector } :: second)).map
      Prod.snd = (rules.predicates (clause :: second)).map Prod.snd := by
    rw [Rules.predicates, Rules.predicates, List.filterMap_cons, List.filterMap_cons,
      Rules.complete_placed]
    cases clause.disabled <;> cases rules.complete clause <;> rfl
  rw [led, led, Formula.ofSegment, Formula.ofSegment, ← Function.comp_def Formula.leaf,
    ← List.map_map, ← List.map_map, List.map_append, same, ← List.map_append]

theorem ofSegment_leader (clause : Clause) :
    Formula.ofSegment owner
        (rules.predicates ({ clause with connector := some connector } :: rest)) =
      Formula.ofSegment owner (rules.predicates (clause :: rest)) := by
  rw [Rules.predicates, Rules.predicates, List.filterMap_cons, List.filterMap_cons,
    Rules.complete_placed]
  cases owner <;> cases clause.disabled <;> cases rules.complete clause <;> rfl

end

/-! What the filter says with a run in it. -/

section

variable {front rear : List (Connector × Option Formula)} {operand : Option Formula}
  {connector other : Connector}

theorem ready_eq_nil_iff {clauses : List Clause} :
    rules.ready clauses = [] ↔ rules.predicates clauses = [] := by
  rw [Rules.ready, Rules.predicates, List.filter_eq_nil_iff, List.filterMap_eq_nil_iff]
  apply forall₂_congr
  intro clause _
  cases clause.disabled <;> cases rules.complete clause <;>
    simp [Except.isOk, Except.toBool, Except.toOption]

theorem present_operands_eq_nil_iff {clauses : List Clause} :
    Formula.present (operands rules groups clauses) = [] ↔ rules.predicates clauses = [] := by
  have parts : rules.predicates clauses = (stretches clauses).flatMap rules.predicates := by
    conv_lhs => rw [← List.flatten_splitBy sameNote clauses, Rules.predicates,
      List.filterMap_flatten, ← List.flatMap_def]
    rfl
  rw [parts, Formula.present, operands, List.filterMap_filterMap, List.filterMap_eq_nil_iff,
    List.flatMap_eq_nil_iff]
  apply forall₂_congr
  intro stretch _
  rw [Rules.operand?]
  cases found : stretch.find? fun clause => !clause.disabled with
  | none =>
      have disabled : rules.predicates stretch = [] := predicates_disabled (by simpa using found)
      simpa using disabled
  | some first => simp [Formula.ofSegment_eq_none_iff]

/-- What operands say with one more among them, if it is there. -/
def around? (front rear : List (Connector × Option Formula))
    (item : Option (Connector × Option Formula)) : Option Formula :=
  Formula.fold? (Formula.present (front ++ item.toList ++ rear))

theorem around?_absent : around? front rear (some (connector, none)) = around? front rear none := by
  simp [around?, Formula.present]

theorem around?_connector
    (apart : connector = other ∨ Formula.present front = [] ∨ operand = none) :
    around? front rear (some (connector, operand)) =
      around? front rear (some (other, operand)) := by
  rcases apart with rfl | unsaid | rfl
  · rfl
  · cases operand with
    | none => rw [around?_absent, around?_absent]
    | some formula =>
        rw [Formula.present] at unsaid
        simp [around?, Formula.present, unsaid, Formula.fold?]
  · rw [around?_absent, around?_absent]

theorem present_normal (normal : ∀ item ∈ front, ∀ formula ∈ item.2, formula.Normal) :
    ∀ item ∈ Formula.present front, item.2.Normal := by
  intro item member
  obtain ⟨source, sourceMember, found⟩ := List.mem_filterMap.mp member
  obtain ⟨formula, present, rfl⟩ := Option.map_eq_some_iff.mp found
  exact normal source sourceMember formula present

theorem around?_document_ne {formula : Formula} (compiler : Compiler)
    (frontNormal : ∀ item ∈ front, ∀ formula ∈ item.2, formula.Normal) (normal : formula.Normal)
    (rearNormal : ∀ item ∈ rear, ∀ formula ∈ item.2, formula.Normal)
    (different : connector ≠ other) (said : Formula.present front ≠ []) :
    ((around? front rear (some (connector, some formula))).map (Formula.document compiler)).getD
        Document.matchAll ≠
      ((around? front rear (some (other, some formula))).map (Formula.document compiler)).getD
        Document.matchAll := by
  have frontItems := present_normal frontNormal
  have rearItems := present_normal rearNormal
  obtain ⟨⟨connector', first⟩, items, shape⟩ := List.exists_cons_of_ne_nil said
  rw [shape] at frontItems
  have begun : (items.foldl (fun formula item => formula.join item.1 item.2) first).Normal :=
    Formula.foldl_join_normal (frontItems _ List.mem_cons_self)
      fun item member => frontItems item (List.mem_cons_of_mem _ member)
  have joined (connector : Connector) : around? front rear (some (connector, some formula)) =
      some ((Formula.present rear).foldl (fun formula item => formula.join item.1 item.2)
        ((items.foldl (fun formula item => formula.join item.1 item.2) first).join connector
          formula)) := by
    rw [around?, Formula.present_append, Formula.present_append, shape]
    simp [Formula.present, Formula.fold?]
  rw [joined, joined]
  intro same
  exact Formula.document_join_ne different (Formula.document_foldl_join_inj
    (begun.join normal connector) (begun.join normal other) rearItems same)

end

end Bar

end SearchFilter
