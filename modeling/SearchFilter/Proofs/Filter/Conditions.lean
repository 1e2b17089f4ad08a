import SearchFilter.Filter.Predicate

/-!
What the conditions of complete clauses are made from. An operator reads a single value, a list, a
range or the operand of a pattern, and the condition holds what was read.
-/

namespace SearchFilter.Rules

variable {rules : Rules} {clause : Clause} {field : String} {exact : Bool} {condition : Condition}

theorem bound_isSome {side : Side} {written : Option String} {value : Option Scalar}
    {bound : Option Bound} (found : rules.bound field side written value = .ok bound) :
    bound.isSome = value.isSome := by
  cases value with
  | none =>
      rw [← Except.ok.inj found]
      rfl
  | some value =>
      rw [Rules.bound] at found
      cases named : rules.comparison field side written with
      | error error => rw [named] at found; exact absurd found (by simp [Except.map])
      | ok comparison => rw [named] at found; rw [← Except.ok.inj found]; rfl

theorem range_eq_ok_iff : rules.range clause field exact = .ok condition ↔
    ∃ min max, condition = .range min max ∧ (min.isSome ∨ max.isSome) ∧
      rules.bound field .lower clause.minOperator (scalar? exact clause.minValue) = .ok min ∧
      rules.bound field .upper clause.maxOperator (scalar? exact clause.maxValue) = .ok max := by
  constructor
  · intro found
    rw [range] at found
    split at found
    · cases found
    next given =>
    split at found
    · cases found
    split at found
    · cases found
    next lower _ _ upper =>
    cases found
    refine ⟨_, _, rfl, ?_, lower, upper⟩
    rw [bound_isSome lower, bound_isSome upper]
    apply Decidable.byContradiction
    intro neither
    rw [not_or, Option.not_isSome_iff_eq_none, Option.not_isSome_iff_eq_none] at neither
    exact given neither.1 neither.2
  · rintro ⟨min, max, rfl, some, lower, upper⟩
    rw [bound_isSome lower, bound_isSome upper] at some
    rw [range]
    split
    · next noMin noMax =>
        rw [noMin, noMax] at some
        simp at some
    · rw [lower, upper]

inductive Makes (rules : Rules) (clause : Clause) (field : String) (exact : Bool) :
    Operator → Condition → Prop
  | equals {operator : Operator} {scalar : Scalar} (single : operator = .is ∨ operator = .isNot)
      (read : scalar? exact clause.value = some scalar) :
      Makes rules clause field exact operator (.equals operator.isNegated scalar)
  | oneOf {operator : Operator} {first : Scalar} {rest : List Scalar}
      (several : operator = .isOneOf ∨ operator = .isNotOneOf)
      (read : clause.items.filterMap (Scalar.ofJson? exact) = first :: rest) :
      Makes rules clause field exact operator (.oneOf operator.isNegated (first :: rest))
  | exists {operator : Operator} (bare : operator = .present ∨ operator = .absent) :
      Makes rules clause field exact operator (.exists operator.isNegated)
  | range {min max : Option Bound} (read : rules.range clause field exact = .ok (.range min max)) :
      Makes rules clause field exact .range (.range min max)
  | startsWith {text : String}
      (read : (clause.value.bind fun value => Scalar.patternOf? value.json) = some text) :
      Makes rules clause field exact .startsWith (.startsWith text)
  | wildcard {text : String}
      (read : (clause.value.bind fun value => Scalar.patternOf? value.json) = some text) :
      Makes rules clause field exact .wildcard (.wildcard text)
  | queryString {text : String}
      (read : (clause.value.bind fun value => Scalar.patternOf? value.json) = some text) :
      Makes rules clause field exact .queryString (.queryString text)

variable {operator : Operator}

theorem Makes.operator_eq (makes : Makes rules clause field exact operator condition) :
    condition.operator = operator := by
  cases makes with
  | equals single => rcases single with rfl | rfl <;> rfl
  | oneOf several => rcases several with rfl | rfl <;> rfl
  | «exists» bare => rcases bare with rfl | rfl <;> rfl
  | range | startsWith | wildcard | queryString => rfl

theorem makes_of_condition (found : rules.condition clause field exact operator = .ok condition) :
    Makes rules clause field exact operator condition := by
  cases operator with
  | is | isNot =>
      rw [Rules.condition] at found
      cases read : scalar? exact clause.value with
      | none => simp [read] at found
      | some value =>
          rw [read] at found
          obtain rfl := Except.ok.inj found
          exact .equals (by simp) read
  | isOneOf | isNotOneOf =>
      rw [Rules.condition] at found
      cases read : clause.items.filterMap (Scalar.ofJson? exact) with
      | nil => simp [read] at found
      | cons first rest =>
          rw [read] at found
          obtain rfl := Except.ok.inj found
          exact .oneOf (by simp) read
  | present | absent =>
      obtain rfl := Except.ok.inj found
      exact .exists (by simp)
  | range =>
      obtain ⟨min, max, rfl, -⟩ := range_eq_ok_iff.mp found
      exact .range found
  | startsWith | wildcard | queryString =>
      rw [Rules.condition] at found
      cases read : clause.value.bind fun value => Scalar.patternOf? value.json with
      | none => simp [read] at found
      | some text =>
          rw [read] at found
          obtain rfl := Except.ok.inj found
          constructor
          exact read

theorem makes_of_complete {predicate : Predicate}
    (completed : rules.complete clause = .ok predicate) :
    ∃ operator, Operator.read? clause.operator = some operator ∧
      Makes rules clause predicate.field predicate.exact operator predicate.condition := by
  obtain ⟨operator, read, found⟩ := condition_of_complete completed
  exact ⟨operator, read, makes_of_condition found⟩

theorem Makes.condition_eq (makes : Makes rules clause field exact operator condition) :
    rules.condition clause field exact operator = .ok condition := by
  cases makes with
  | equals single read => rcases single with rfl | rfl <;> rw [Rules.condition, read]
  | oneOf several read => rcases several with rfl | rfl <;> rw [Rules.condition, read]
  | «exists» bare => rcases bare with rfl | rfl <;> rfl
  | range read => exact read
  | startsWith read | wildcard read | queryString read => rw [Rules.condition, read]

end SearchFilter.Rules
