import SearchFilter.Proofs.Bar.Surroundings

/-!
Connectors that do not matter. Of a group or a run only the first enabled clause joins it to what is
in front of it, and in a group no other connector is used. In front of the first enabled clause of a
bar nothing is said.
-/

namespace SearchFilter.Bar

def isEnabled (bar : Bar) (index : Nat) : Bool :=
  bar.clauses[index]?.any fun clause => !clause.disabled

def leader? (bar : Bar) (indices : List Nat) : Option Nat := indices.find? bar.isEnabled

variable {rules : Rules} {groups : List Group} {bar : Bar} {index : Nat} {clause : Clause}
  {connector : Connector}

theorem isEnabled_eq_true_iff :
    bar.isEnabled index = true ↔
      ∃ clause, bar.clauses[index]? = some clause ∧ clause.disabled = false := by
  rw [isEnabled, Option.any_eq_true]
  simp

theorem leader?_eq_some_iff {indices : List Nat} (ascending : indices.Pairwise (· < ·)) :
    bar.leader? indices = some index ↔ index ∈ indices ∧ bar.isEnabled index = true ∧
      ∀ earlier ∈ indices, earlier < index → bar.isEnabled earlier = false := by
  constructor
  · intro found
    obtain ⟨enabled, front, rear, rfl, skipped⟩ := List.find?_eq_some_iff_append.mp found
    refine ⟨by simp, enabled, ?_⟩
    intro earlier member less
    rcases List.mem_append.mp member with before | after
    · simpa using skipped earlier before
    · have least := (List.pairwise_append.mp ascending).2.1
      rcases List.mem_cons.mp after with rfl | behind
      · exact absurd less (Nat.lt_irrefl earlier)
      · exact absurd less (Nat.lt_asymm (List.rel_of_pairwise_cons least behind))
  · rintro ⟨member, enabled, first⟩
    obtain ⟨front, rear, rfl⟩ := List.append_of_mem member
    have less := (List.pairwise_append.mp ascending).2.2
    refine List.find?_eq_some_iff_append.mpr ⟨enabled, front, rear, rfl, ?_⟩
    intro earlier before
    rw [first earlier (List.mem_append_left _ before) (less earlier before index (by simp))]
    rfl

/-! What is said with another connector. -/

section

variable {front before behind rear : List Clause}

theorem operand?_connected_of_disabled (disabled : clause.disabled = true)
    (own : Option Connector) :
    rules.operand? own (before ++ { clause with connector := some connector } :: behind) =
      rules.operand? own (before ++ clause :: behind) := by
  rw [operand?_passed disabled]
  exact operand?_passed disabled

theorem around?_leading (silent : ∀ other ∈ front ++ before, other.disabled = true)
    (enabled : clause.disabled = false) (own : Option Connector) :
    around? (operands rules groups front) (operands rules groups rear)
        (rules.operand? own (before ++ { clause with connector := some connector } :: behind)) =
      around? (operands rules groups front) (operands rules groups rear)
        (rules.operand? own (before ++ clause :: behind)) := by
  rw [List.forall_mem_append] at silent
  have unsaid : Formula.present (operands rules groups front) = [] :=
    present_operands_eq_nil_iff.mpr (predicates_disabled silent.1)
  have led (named : Clause) (enabled : named.disabled = false) :
      rules.operand? own (before ++ named :: behind) = some (named.effectiveConnector,
        Formula.ofSegment own (rules.predicates (named :: behind))) :=
    operand?_led silent.2 enabled
  rw [led clause enabled, led { clause with connector := some connector } enabled,
    ofSegment_leader]
  exact around?_connector (.inr (.inl unsaid))

theorem Around.silent_of_leader (around : Around bar.clauses index clause front before behind rear)
    (leads : bar.leader? (List.range bar.clauses.length) = some index) :
    ∀ other ∈ front ++ before, other.disabled = true := by
  obtain ⟨-, -, first⟩ := (leader?_eq_some_iff List.pairwise_lt_range).mp leads
  rw [← around.taken]
  intro other member
  obtain ⟨earlier, bound, rfl⟩ := List.mem_take_iff_getElem.mp member
  have inside : earlier < bar.clauses.length := by omega
  have passed := first earlier (List.mem_range.mpr inside) (by omega)
  rw [isEnabled, List.getElem?_eq_getElem inside, Option.any_some] at passed
  simpa using passed

theorem Around.enabled_before (sound : bar.Sound)
    (around : Around bar.clauses index clause front before behind rear)
    (present : bar.clauses[index]? = some clause) (enabled : clause.disabled = false)
    {group : Group} (member : group ∈ bar.groups) (inside : index ∈ group.indices)
    (led : bar.leader? group.indices ≠ some index) :
    ∃ leader ∈ before, leader.disabled = false := by
  have here := isEnabled_eq_true_iff.mpr ⟨clause, present, enabled⟩
  rw [Ne, leader?_eq_some_iff (sound.arranged.runs group member).ascending] at led
  push Not at led
  obtain ⟨earlier, earlierInside, less, speaks⟩ := led inside here
  obtain ⟨leader, there, leaderEnabled⟩ :=
    isEnabled_eq_true_iff.mp (Bool.eq_true_of_not_eq_false speaks)
  have noted := (note_eq_some_iff sound present).mpr ⟨group, member, rfl, inside⟩
  have leaderNoted := (note_eq_some_iff sound there).mpr ⟨group, member, rfl, earlierInside⟩
  exact ⟨leader, around.mem_before sound present there less noted leaderNoted, leaderEnabled⟩

end

end SearchFilter.Bar
