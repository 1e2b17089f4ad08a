import SearchFilter.Filter.Preview
import SearchFilter.Proofs.Filter.Conditions
import SearchFilter.Proofs.Json.Canonical
import SearchFilter.Settings

/-!
The bounds of ranges. The body of a range has one field for each comparison, so a range keeps both
of its ends only when they compare differently. What a clause names is checked against its side;
what the rules hold for a bound that names nothing is not.
-/

namespace SearchFilter

def Bound.entry (bound : Bound) : String × Json := (bound.comparison.key, bound.value.toJson)

/-- A completed range keeps the ends of its clause. Each end with a value is a bound on its own
side, one field of the compiled body, and one comparison of the text. -/
structure Clause.KeepsBounds (clause : Clause) (compiler : Compiler) (predicate : Predicate)
    (min max : Option Bound) : Prop where
  minValue : min.map Bound.value = Rules.scalar? predicate.exact clause.minValue
  maxValue : max.map Bound.value = Rules.scalar? predicate.exact clause.maxValue
  lower : ∀ bound ∈ min, bound.comparison.isLower = true
  upper : ∀ bound ∈ max, bound.comparison.isLower = false
  body : ∃ fields, Query.document (compiler.compile (some (.leaf clause))) =
      FieldQuery.about "range" predicate.field (.object fields) ∧
    fields.Perm ((min.toList ++ max.toList).map Bound.entry)
  text : compiler.rules.preview (some (.leaf clause)) = predicate.field ++ ": " ++
    String.intercalate " and " ((min.toList ++ max.toList).map Predicate.boundText)

namespace Rules

def standard (rules : Rules) : Side → Comparison
  | .lower => rules.lower
  | .upper => rules.upper

def Sided (rules : Rules) : Prop := ∀ side : Side, side.admits (rules.standard side) = true

end Rules

/-! Bodies. -/

theorem Comparison.key_injective {first second : Comparison} (same : first.key = second.key) :
    first = second := by
  have read := ofKey?_key first
  rw [same, ofKey?_key] at read
  exact (Option.some.inj read).symm

theorem Scalar.canonical_toJson (scalar : Scalar) : scalar.toJson.canonical = scalar.toJson := by
  cases scalar <;> rfl

section Body

variable {min max : Option Bound}

theorem foldl_set_of_differ
    (differ : ∀ low ∈ min, ∀ high ∈ max, low.comparison ≠ high.comparison) :
    (min.toList ++ max.toList).foldl (fun held bound => bound.set held) [] =
      min.toList ++ max.toList := by
  cases min with
  | none => cases max <;> rfl
  | some low =>
      cases max with
      | none => rfl
      | some high => simp [Bound.set, differ low rfl high rfl]

theorem toJson_range_perm (field : String)
    (differ : ∀ low ∈ min, ∀ high ∈ max, low.comparison ≠ high.comparison) :
    ∃ fields, (FieldQuery.range field (min.toList ++ max.toList)).toJson =
        FieldQuery.about "range" field (.object fields) ∧
      fields.Perm ((min.toList ++ max.toList).map Bound.entry) := by
  have distinct : (((min.toList ++ max.toList).map Bound.entry).map Prod.fst).Nodup := by
    cases min with
    | none => cases max <;> simp
    | some low =>
        cases max with
        | none => simp
        | some high =>
            have keys : low.comparison.key ≠ high.comparison.key :=
              fun same => differ low rfl high rfl (Comparison.key_injective same)
            simpa [Bound.entry] using keys
  refine ⟨_, rfl, (Json.canonicalFields_perm distinct).trans ?_⟩
  rw [List.map_map]
  refine List.Perm.of_eq (List.map_congr_left fun bound _ => ?_)
  rw [Function.comp_apply, Bound.entry, Scalar.canonical_toJson]

end Body

/-! Completed ranges. -/

namespace Rules

variable {rules : Rules} {clause : Clause} {field : String} {exact : Bool} {min max : Option Bound}

theorem comparison_admitted {side : Side} {written : Option String} {comparison : Comparison}
    (sided : rules.Sided) (found : rules.comparison field side written = .ok comparison) :
    side.admits comparison = true := by
  have standard := sided side
  cases written with
  | none =>
      obtain rfl := Except.ok.inj found
      cases side <;> exact standard
  | some text =>
      simp only [Rules.comparison] at found
      split at found
      · obtain rfl := Except.ok.inj found
        cases side <;> exact standard
      split at found
      · split at found
        · next admitted => exact Except.ok.inj found ▸ admitted
        · cases found
      · cases found

theorem bound_of_ok {side : Side} {written : Option String} {value : Option Scalar}
    {bound : Option Bound} (found : rules.bound field side written value = .ok bound) :
    bound.map Bound.value = value ∧
      ∀ made ∈ bound, rules.comparison field side written = .ok made.comparison := by
  cases value with
  | none =>
      rw [← Except.ok.inj found]
      simp
  | some scalar =>
      rw [Rules.bound] at found
      cases named : rules.comparison field side written with
      | error error =>
          rw [named] at found
          cases found
      | ok comparison =>
          rw [named] at found
          rw [← Except.ok.inj found]
          simp

theorem range_of_ok (found : rules.range clause field exact = .ok (.range min max)) :
    rules.bound field .lower clause.minOperator (scalar? exact clause.minValue) = .ok min ∧
      rules.bound field .upper clause.maxOperator (scalar? exact clause.maxValue) = .ok max := by
  obtain ⟨_, _, same, -, lower, upper⟩ := range_eq_ok_iff.mp found
  cases same
  exact ⟨lower, upper⟩

theorem complete_plain_range (named : clause.field = "n") (operator : clause.operator = "range")
    (found : rules.range clause "n" (rules.isExact "n") = .ok (.range min max)) :
    rules.complete clause = .ok ⟨"n", rules.isExact "n", .range min max⟩ := by
  have trimmed : Text.trimmed "n" = "n" := by rfl
  have known : Operator.read? "range" = some .range := by rfl
  have solid : Text.allBlank "range" = false := by rfl
  rw [complete, named, operator, trimmed, known, solid, if_neg (by decide)]
  simp only [condition, found]
  rfl

theorem complete_range {predicate : Predicate} (completed : rules.complete clause = .ok predicate)
    (ranged : predicate.condition = .range min max) :
    rules.range clause predicate.field predicate.exact = .ok (.range min max) := by
  obtain ⟨operator, -, makes⟩ := makes_of_complete completed
  rw [ranged] at makes
  cases makes with
  | range read => exact read

end Rules

section Ranges

variable {compiler : Compiler} {clause : Clause} {predicate : Predicate} {min max : Option Bound}

theorem document_range (completed : compiler.rules.complete clause = .ok predicate)
    (ranged : predicate.condition = .range min max) :
    Query.document (compiler.compile (some (.leaf clause))) =
      (FieldQuery.range predicate.field
        ((min.toList ++ max.toList).foldl (fun held bound => bound.set held) [])).toJson := by
  simp only [Compiler.compile, Option.bind_some, Compiler.query?, completed, Query.document,
    Compiler.leafQuery, Compiler.fieldQuery, ranged, Condition.isNegated, Condition.operator,
    Operator.isNegated, Bool.false_eq_true, if_false, Query.toJson]

theorem preview_range {rules : Rules} (completed : rules.complete clause = .ok predicate)
    (ranged : predicate.condition = .range min max) :
    rules.preview (some (.leaf clause)) = predicate.field ++ ": " ++
      String.intercalate " and " ((min.toList ++ max.toList).map Predicate.boundText) := by
  simp [Rules.preview, Rules.render?, Rules.phrase?, completed, Phrase.within, Predicate.phrase,
    ranged, Condition.isNegated, Condition.operator, Operator.isNegated, Predicate.body]

/-- An upper bound replaces a lower bound that compares in the same way, and the text has both. -/
theorem document_range_of_same {low high : Bound}
    (completed : compiler.rules.complete clause = .ok predicate)
    (ranged : predicate.condition = .range (some low) (some high))
    (same : low.comparison = high.comparison) :
    Query.document (compiler.compile (some (.leaf clause))) =
      FieldQuery.about "range" predicate.field (.object [high.entry]) := by
  rw [document_range completed ranged]
  have kept : ((some low).toList ++ (some high).toList).foldl
      (fun held bound => bound.set held) [] = [high] := by
    simp [Bound.set, same]
  rw [kept, FieldQuery.toJson, List.map_singleton, Json.canonical, Json.canonicalFields,
    Scalar.canonical_toJson]
  rfl

theorem keepsBounds_of_sided (sided : compiler.rules.Sided)
    (completed : compiler.rules.complete clause = .ok predicate)
    (ranged : predicate.condition = .range min max) :
    clause.KeepsBounds compiler predicate min max := by
  obtain ⟨low, high⟩ := Rules.range_of_ok (Rules.complete_range completed ranged)
  obtain ⟨minValue, minNamed⟩ := Rules.bound_of_ok low
  obtain ⟨maxValue, maxNamed⟩ := Rules.bound_of_ok high
  have lower : ∀ bound ∈ min, bound.comparison.isLower = true := fun bound member =>
    Rules.comparison_admitted sided (minNamed bound member)
  have upper : ∀ bound ∈ max, bound.comparison.isLower = false := fun bound member =>
    by
    simpa [Side.admits] using Rules.comparison_admitted sided (maxNamed bound member)
  have differ : ∀ low ∈ min, ∀ high ∈ max, low.comparison ≠ high.comparison := by
    intro low fromMin high fromMax same
    have below := upper high fromMax
    rw [← same, lower low fromMin] at below
    cases below
  refine ⟨minValue, maxValue, lower, upper, ?_, preview_range completed ranged⟩
  rw [document_range completed ranged, foldl_set_of_differ differ]
  exact toJson_range_perm predicate.field differ

end Ranges

/-- Ranges keep their bounds exactly under the rules whose own comparisons bound their sides. -/
theorem keepsBounds_iff_sided (compiler : Compiler) :
    (∀ clause predicate min max, compiler.rules.complete clause = .ok predicate →
        predicate.condition = .range min max → clause.KeepsBounds compiler predicate min max) ↔
      compiler.rules.Sided := by
  constructor
  · intro keeps
    -- A range that names no comparisons takes those of the rules at both ends.
    let clause : Clause :=
      { field := "n", operator := "range", minValue := some (.ofBool true),
        maxValue := some (.ofBool true) }
    have completed : compiler.rules.complete clause = .ok ⟨"n", compiler.rules.isExact "n",
        .range (some ⟨compiler.rules.lower, .bool true⟩)
          (some ⟨compiler.rules.upper, .bool true⟩)⟩ :=
      Rules.complete_plain_range rfl rfl rfl
    have kept := keeps clause _ _ _ completed rfl
    intro side
    cases side with
    | lower => exact kept.lower _ rfl
    | upper => simpa [Side.admits, Rules.standard] using kept.upper _ rfl
  · intro sided clause predicate min max completed ranged
    exact keepsBounds_of_sided sided completed ranged

/-- Settings that are read from a text, and under which a range loses its lower bound. -/
theorem lower_bound_replaced :
    let one := Number.integer 1 (by decide)
    let two := Number.integer 2 (by decide)
    let low : Bound := ⟨.below, .number one⟩
    let high : Bound := ⟨.below, .number two⟩
    let predicate : Predicate := ⟨"n", false, .range (some low) (some high)⟩
    let clause : Clause :=
      { field := "n", operator := "range", minValue := some (.ofNumber one),
        maxValue := some (.ofNumber two) }
    ∃ settings, Settings.ofText? "[range]\ndefault_min_operator = \"lt\"\n" = some settings ∧
      settings.rules.complete clause = .ok predicate ∧
      Query.document (settings.compiler.compile (some (.leaf clause))) =
        FieldQuery.about "range" predicate.field (.object [high.entry]) ∧
      settings.rules.preview (some (.leaf clause)) = "n: <1 and <2" ∧
      ¬ clause.KeepsBounds settings.compiler predicate (some low) (some high) := by
  intro one two low high predicate clause
  have accepted : (Settings.ofText? "[range]\ndefault_min_operator = \"lt\"\n").map
      Settings.rules = some { lower := .below } := by
    decide +kernel
  obtain ⟨settings, read, rules⟩ := Option.map_eq_some_iff.mp accepted
  have exact : settings.rules.isExact "n" = false := by
    rw [rules]
    decide
  have completed : settings.rules.complete clause =
      .ok ⟨"n", settings.rules.isExact "n", .range (some low) (some high)⟩ := by
    refine Rules.complete_plain_range rfl rfl ?_
    rw [exact, rules]
    rfl
  rw [exact] at completed
  refine ⟨settings, read, completed, ?_, ?_, ?_⟩
  · exact document_range_of_same completed rfl rfl
  · rw [preview_range completed rfl]
    rfl
  · intro keeps
    exact absurd (keeps.lower low rfl) (by decide)

end SearchFilter
