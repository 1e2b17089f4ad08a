import SearchFilter.Proofs.Filter.Bounds
import SearchFilter.Proofs.Filter.Coercion
import SearchFilter.Proofs.Filter.Diagnostics
import SearchFilter.Proofs.Filter.Requirements
import SearchFilter.Proofs.Text.Trimming

/-!
Clauses written anew from what they were completed to. They are completed to the same again: a text
that became a number is a number now, and one that stayed a text stays one.
-/

namespace SearchFilter

namespace Scalar

def toValue : Scalar → Value
  | number value => .ofNumber value
  | text value => .ofText value
  | bool value => .ofBool value

theorem json_toValue (scalar : Scalar) : scalar.toValue.json = scalar.toJson := by
  cases scalar <;> rfl

theorem ofJson?_trimmed {chars : List Char} (exact : Bool) (trimmed : Text.trim chars = chars)
    (solid : chars ≠ []) :
    ofJson? exact (.text (String.ofList chars)) =
      some (if exact then text (String.ofList chars) else coerced chars) := by
  simp only [ofJson?, String.toList_ofList, trimmed]
  rw [if_neg (by simpa using solid)]

theorem ofJson?_toJson {exact : Bool} {json : Json} {scalar : Scalar}
    (found : ofJson? exact json = some scalar) : ofJson? exact scalar.toJson = some scalar := by
  cases json with
  | null | list items | object fields | unrepresentable => cases found
  | bool value =>
      obtain rfl := Option.some.inj found
      rfl
  | number value =>
      obtain rfl := Option.some.inj found
      cases exact with
      | false => rfl
      | true => exact ofJson?_trimmed true value.trim_chars value.chars_ne_nil
  | text value =>
      have trimmed := Text.trim_trim value.toList
      simp only [ofJson?] at found
      generalize Text.trim value.toList = chars at found trimmed
      split at found
      · cases found
      next some =>
      have solid : chars ≠ [] := by simpa using some
      have again := ofJson?_trimmed exact trimmed solid
      obtain rfl := Option.some.inj found
      cases exact with
      | true => exact again
      | false =>
          rw [if_neg Bool.false_ne_true] at again ⊢
          by_cases numeric : ∃ number, coerced chars = .number number
          · obtain ⟨number, same⟩ := numeric
            rw [same]
            rfl
          · rw [not_exists] at numeric
            rw [coerced_of_not_number numeric] at again ⊢
            exact again

theorem patternOf?_text {json : Json} {text : String} (found : patternOf? json = some text) :
    patternOf? (.text text) = some text := by
  have solid : Text.allBlank text = false := by
    cases json with
    | null | list items | object fields | unrepresentable => cases found
    | bool value =>
        obtain rfl := Option.some.inj found
        cases value <;> decide
    | number value =>
        obtain rfl := Option.some.inj found
        rw [← Bool.not_eq_true, Text.allBlank_iff, Number.toText, String.toList_ofList,
          value.trim_chars]
        exact value.chars_ne_nil
    | text value =>
        simp only [patternOf?] at found
        split at found
        · cases found
        next some =>
        obtain rfl := Option.some.inj found
        exact Bool.eq_false_iff.mpr some
  rw [patternOf?, if_neg (Bool.eq_false_iff.mp solid)]

end Scalar

def Completed.rebuilt (completed : Completed) : Clause :=
  let named := Clause.of completed.field completed.operator
  match completed.operand with
  | .absent => named
  | .scalar value => { named with value := some value.toValue }
  | .list values => { named with values := some (values.map Scalar.toValue) }
  | .range min max =>
    { named with
      minValue := min.map fun bound => bound.value.toValue
      minOperator := min.map fun bound => bound.comparison.key
      maxValue := max.map fun bound => bound.value.toValue
      maxOperator := max.map fun bound => bound.comparison.key }

theorem Completed.rebuilt_field (completed : Completed) :
    completed.rebuilt.field = completed.field := by
  rw [rebuilt]
  split <;> rfl

theorem Completed.rebuilt_operator (completed : Completed) :
    completed.rebuilt.operator = completed.operator.name := by
  rw [rebuilt]
  split <;> rfl

/-! Names. -/

theorem Operator.read?_name (operator : Operator) : read? operator.name = some operator := by
  cases operator <;> decide

theorem Comparison.read?_key (comparison : Comparison) :
    read? comparison.key = some comparison := by
  cases comparison <;> decide

theorem Comparison.not_blank_key (comparison : Comparison) :
    Text.allBlank comparison.key = false := by
  cases comparison <;> decide

namespace Rules

variable {rules : Rules} {clause : Clause} {field : String} {exact : Bool}

/-! Operands. -/

theorem scalar?_toValue {given : Option Value} {scalar : Scalar}
    (found : scalar? exact given = some scalar) :
    scalar? exact (some scalar.toValue) = some scalar := by
  obtain ⟨value, -, read⟩ := Option.bind_eq_some_iff.mp found
  rw [scalar?, Option.bind_some, Scalar.json_toValue]
  exact Scalar.ofJson?_toJson read

theorem scalar?_map_toValue {given : Option Value} {bound : Option Bound}
    (same : bound.map Bound.value = scalar? exact given) :
    scalar? exact (bound.map fun bound => bound.value.toValue) = bound.map Bound.value := by
  cases bound with
  | none => rfl
  | some bound => exact scalar?_toValue same.symm

theorem pattern_rebuilt {given : Option Value} {text : String}
    (found : (given.bind fun value => Scalar.patternOf? value.json) = some text) :
    ((some (Scalar.text text).toValue).bind fun value => Scalar.patternOf? value.json) =
      some text := by
  obtain ⟨value, -, read⟩ := Option.bind_eq_some_iff.mp found
  rw [Option.bind_some, Scalar.json_toValue]
  exact Scalar.patternOf?_text read

theorem items_toValue (scalars : List Scalar) (some : scalars ≠ [])
    (listed : clause.values = Option.some (scalars.map Scalar.toValue)) :
    clause.items = scalars.map Scalar.toJson := by
  cases scalars with
  | nil => exact absurd rfl some
  | cons first rest =>
      rw [Clause.items, listed, List.map_cons]
      simp [Scalar.json_toValue]

theorem filterMap_toJson {items : List Json} {scalars : List Scalar}
    (found : items.filterMap (Scalar.ofJson? exact) = scalars) :
    (scalars.map Scalar.toJson).filterMap (Scalar.ofJson? exact) = scalars := by
  have each : ∀ scalar ∈ scalars, Scalar.ofJson? exact scalar.toJson = some scalar := by
    intro scalar member
    rw [← found] at member
    obtain ⟨item, -, read⟩ := List.mem_filterMap.mp member
    exact Scalar.ofJson?_toJson read
  rw [List.filterMap_map]
  exact (List.filterMap_congr each).trans List.filterMap_some

/-! Bounds. -/

theorem comparison_key {side : Side} {comparison : Comparison} :
    rules.comparison field side (some comparison.key) = .ok comparison ↔
      side.admits comparison = true := by
  by_cases admitted : side.admits comparison = true
  · simp [Rules.comparison, comparison.not_blank_key, comparison.read?_key, admitted]
  · simp [Rules.comparison, comparison.not_blank_key, comparison.read?_key, admitted]

theorem bound_rebuilt {side : Side} {written : Option String} {given : Option Value}
    {bound : Option Bound} (sided : rules.Sided)
    (found : rules.bound field side written (scalar? exact given) = .ok bound) :
    rules.bound field side (bound.map fun bound => bound.comparison.key)
      (scalar? exact (bound.map fun bound => bound.value.toValue)) = .ok bound := by
  obtain ⟨same, named⟩ := bound_of_ok found
  rw [scalar?_map_toValue same]
  cases bound with
  | none => rfl
  | some bound =>
      have admitted := comparison_admitted sided (named bound rfl)
      simp only [Option.map_some, Rules.bound, comparison_key.mpr admitted, Except.map]

/-! Clauses. -/

theorem makes_rebuilt {operator : Operator} {condition : Condition} (sided : rules.Sided)
    (makes : Makes rules clause field exact operator condition) :
    Makes rules (Predicate.apart ⟨field, exact, condition⟩).rebuilt field exact operator
      condition := by
  cases makes with
  | equals single read => exact .equals single (scalar?_toValue read)
  | @oneOf operator first rest several read =>
      refine .oneOf several ?_
      rw [items_toValue (first :: rest) (List.cons_ne_nil _ _) rfl, filterMap_toJson read]
  | «exists» bare => exact .exists bare
  | range read =>
      obtain ⟨_, _, same, bounded, lower, upper⟩ := range_eq_ok_iff.mp read
      cases same
      exact .range (range_eq_ok_iff.mpr
        ⟨_, _, rfl, bounded, bound_rebuilt sided lower, bound_rebuilt sided upper⟩)
  | startsWith read => exact .startsWith (pattern_rebuilt read)
  | wildcard read => exact .wildcard (pattern_rebuilt read)
  | queryString read => exact .queryString (pattern_rebuilt read)

theorem complete_of_named {operator : Operator} (named : Text.trimmed clause.field ≠ "")
    (read : Operator.read? clause.operator = some operator) :
    rules.complete clause =
      (rules.condition clause (Text.trimmed clause.field)
        (rules.isExact (Text.trimmed clause.field)) operator).map fun condition =>
          ⟨Text.trimmed clause.field, rules.isExact (Text.trimmed clause.field), condition⟩ := by
  have solid : Text.allBlank clause.operator = false :=
    (Operator.read?_eq_some_iff.mp read).not_blank
  rw [complete, if_neg named, solid, if_neg Bool.false_ne_true, read]

theorem complete_eq_ok_iff {predicate : Predicate} :
    rules.complete clause = .ok predicate ↔
      (predicate.field = Text.trimmed clause.field ∧ predicate.field ≠ "" ∧
        predicate.exact = rules.isExact predicate.field) ∧
      ∃ operator, Operator.read? clause.operator = some operator ∧
        rules.condition clause predicate.field predicate.exact operator =
          .ok predicate.condition := by
  constructor
  · intro done
    obtain ⟨operator, read, found⟩ := condition_of_complete done
    by_cases unnamed : Text.trimmed clause.field = ""
    · rw [complete, if_pos unnamed] at done
      cases done
    · rw [complete_of_named unnamed read] at done
      cases given : rules.condition clause (Text.trimmed clause.field)
          (rules.isExact (Text.trimmed clause.field)) operator with
      | error error =>
          rw [given] at done
          cases done
      | ok condition =>
          rw [given] at done
          obtain rfl := Except.ok.inj done
          exact ⟨⟨rfl, unnamed, rfl⟩, operator, read, given⟩
  · rintro ⟨⟨field, named, exact⟩, operator, read, found⟩
    rw [complete_of_named (field ▸ named) read, ← field, ← exact, found]
    rfl

theorem complete_rebuilt {predicate : Predicate} (sided : rules.Sided)
    (done : rules.complete clause = .ok predicate) :
    rules.complete predicate.apart.rebuilt = .ok predicate := by
  obtain ⟨⟨field, named, exact⟩, operator, -, found⟩ := complete_eq_ok_iff.mp done
  have makes := makes_of_condition found
  obtain rfl := makes.operator_eq
  have again := (makes_rebuilt sided makes).condition_eq
  have trimmed : Text.trimmed predicate.field = predicate.field := by
    rw [field, Text.trimmed_trimmed]
  refine complete_eq_ok_iff.mpr ⟨⟨?_, named, exact⟩, predicate.condition.operator, ?_, again⟩
  · rw [Completed.rebuilt_field]
    exact trimmed.symm
  · rw [Completed.rebuilt_operator]
    exact Operator.read?_name _

theorem completed_rebuilt {completed : Completed} (sided : rules.Sided)
    (done : rules.completed clause = .ok completed) :
    rules.completed completed.rebuilt = .ok completed ∧
      rules.complete completed.rebuilt = rules.complete clause := by
  obtain ⟨predicate, known, rfl⟩ := exists_of_completed done
  have again := complete_rebuilt sided known
  rw [completed_eq, again, known]
  exact ⟨rfl, rfl⟩

end Rules

/-! Queries and texts. -/

section

variable {first second : Clause}

theorem Compiler.compile_leaf_congr {compiler : Compiler}
    (same : compiler.rules.complete first = compiler.rules.complete second) :
    compiler.compile (some (.leaf first)) = compiler.compile (some (.leaf second)) := by
  rw [compile, compile, Option.bind_some, Option.bind_some, query?, query?, same]

theorem Rules.preview_leaf_congr {rules : Rules}
    (same : rules.complete first = rules.complete second) :
    rules.preview (some (.leaf first)) = rules.preview (some (.leaf second)) := by
  simp only [preview, Option.bind_some, render?, phrase?, same]

end

theorem Rules.sided_of_default {rules : Rules} (lower : rules.lower = .above)
    (upper : rules.upper = .below) : rules.Sided := by
  intro side
  cases side with
  | lower => rw [standard, lower]; rfl
  | upper => rw [standard, upper]; rfl

/-- What a clause is completed to is completed to itself, and is compiled and shown as the clause
is. -/
theorem completion_settles {compiler : Compiler} {clause : Clause} {completed : Completed}
    (lower : compiler.rules.lower = .above) (upper : compiler.rules.upper = .below)
    (done : compiler.rules.completed clause = .ok completed) :
    compiler.rules.completed completed.rebuilt = .ok completed ∧
      Query.document (compiler.compile (some (.leaf completed.rebuilt))) =
        Query.document (compiler.compile (some (.leaf clause))) ∧
      compiler.rules.preview (some (.leaf completed.rebuilt)) =
        compiler.rules.preview (some (.leaf clause)) := by
  have sided := Rules.sided_of_default lower upper
  obtain ⟨again, same⟩ := Rules.completed_rebuilt sided done
  refine ⟨again, ?_, Rules.preview_leaf_congr same⟩
  rw [Compiler.compile_leaf_congr same]

theorem completion_settles_of_texts :
    let compiler : Compiler := { rules := { suffix := "_id" } }
    let clause : Clause :=
      { field := " age ", operator := "Range", minValue := some (.ofText " 042 "),
        minOperator := some ">=", maxValue := some (.ofText "0x7 ") }
    let low : Bound := ⟨.atLeast, .number (Number.integer 42 (by decide))⟩
    let high : Bound := ⟨.below, .text "0x7"⟩
    let completed : Completed := ⟨"age", .range, .range (some low) (some high), false, false⟩
    compiler.rules.completed clause = .ok completed ∧
      compiler.rules.completed completed.rebuilt = .ok completed ∧
      Query.document (compiler.compile (some (.leaf completed.rebuilt))) =
        Query.document (compiler.compile (some (.leaf clause))) ∧
      compiler.rules.preview (some (.leaf completed.rebuilt)) =
        compiler.rules.preview (some (.leaf clause)) := by
  intro compiler clause low high completed
  have known : compiler.rules.complete clause =
      .ok ⟨"age", false, .range (some low) (some high)⟩ := by
    decide +kernel
  have done : compiler.rules.completed clause = .ok completed := by
    rw [Rules.completed_eq, known]
    rfl
  exact ⟨done, completion_settles rfl rfl done⟩

/-- Completion settles exactly under the rules whose own comparisons bound their sides: a bound that
named none is written anew with the one of the rules, and is checked for its side then. -/
theorem settles_iff_sided (rules : Rules) :
    (∀ clause predicate, rules.complete clause = .ok predicate →
        rules.complete predicate.apart.rebuilt = .ok predicate) ↔ rules.Sided := by
  constructor
  · intro settles side
    let clause : Clause :=
      { field := "n", operator := "range", minValue := some (.ofBool true),
        maxValue := some (.ofBool true) }
    have done : rules.complete clause = .ok ⟨"n", rules.isExact "n",
        .range (some ⟨rules.lower, .bool true⟩) (some ⟨rules.upper, .bool true⟩)⟩ :=
      Rules.complete_plain_range rfl rfl rfl
    obtain ⟨low, high⟩ := Rules.range_of_ok (Rules.complete_range (settles _ _ done) rfl)
    cases side with
    | lower => exact Rules.comparison_key.mp ((Rules.bound_of_ok low).2 _ rfl)
    | upper => exact Rules.comparison_key.mp ((Rules.bound_of_ok high).2 _ rfl)
  · intro sided clause predicate done
    exact Rules.complete_rebuilt sided done

end SearchFilter
