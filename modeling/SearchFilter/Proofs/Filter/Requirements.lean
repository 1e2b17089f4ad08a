import Mathlib.Data.List.TakeWhile
import SearchFilter.Filter.Predicate

/-!
What a clause needs to be complete, and which error it has otherwise. The requirements are the same
under all rules, and of several errors the one that is looked for first is given.
-/

namespace SearchFilter

/-! Values. -/

inductive Json.Usable : Json → Prop
  | bool (value : Bool) : Usable (.bool value)
  | number (value : Number) : Usable (.number value)
  | text {value : String} : Text.allBlank value = false → Usable (.text value)

theorem Json.usable_text_iff {value : String} :
    (Json.text value).Usable ↔ Text.allBlank value = false := by
  constructor
  · rintro (_ | _ | solid)
    exact solid
  · exact .text

def Value.Given (value : Option Value) : Prop := ∃ held ∈ value, held.json.Usable

theorem Text.trim_eq_nil_iff {chars : List Char} :
    trim chars = [] ↔ ∀ char ∈ chars, isBlank char = true := by
  rw [trim, List.reverse_eq_nil_iff, List.dropWhile_eq_nil_iff]
  constructor
  · intro blank char member
    rw [← List.takeWhile_append_dropWhile (p := isBlank) (l := chars)] at member
    rcases List.mem_append.mp member with before | rest
    · exact List.mem_takeWhile_imp before
    · exact blank char (List.mem_reverse.mpr rest)
  · intro blank char member
    exact blank char ((List.dropWhile_sublist isBlank).subset (List.mem_reverse.mp member))

theorem Text.allBlank_iff {text : String} : allBlank text = true ↔ trim text.toList = [] := by
  rw [trim_eq_nil_iff, allBlank, List.all_eq_true]

namespace Scalar

theorem isSome_ofJson? (exact : Bool) (json : Json) :
    (ofJson? exact json).isSome ↔ json.Usable := by
  cases json with
  | bool value => exact iff_of_true rfl (.bool value)
  | number value => exact iff_of_true rfl (.number value)
  | text value =>
      rw [Json.usable_text_iff, ← Bool.not_eq_true, Text.allBlank_iff, ofJson?]
      by_cases blank : Text.trim value.toList = [] <;> simp [blank]
  | null | list items | object fields | unrepresentable =>
      exact iff_of_false (by simp [ofJson?]) (by rintro ⟨⟩)

theorem isSome_patternOf? (json : Json) : (patternOf? json).isSome ↔ json.Usable := by
  cases json with
  | bool value => exact iff_of_true rfl (.bool value)
  | number value => exact iff_of_true rfl (.number value)
  | text value =>
      rw [Json.usable_text_iff, patternOf?]
      cases Text.allBlank value <;> simp
  | null | list items | object fields | unrepresentable =>
      exact iff_of_false (by simp [patternOf?]) (by rintro ⟨⟩)

end Scalar

namespace Value

variable {value : Option Value}

theorem given_iff_scalar? (exact : Bool) : Given value ↔ (Rules.scalar? exact value).isSome := by
  cases value <;> simp [Rules.scalar?, Given, Scalar.isSome_ofJson?]

theorem given_iff_pattern :
    Given value ↔ (value.bind fun held => Scalar.patternOf? held.json).isSome := by
  cases value <;> simp [Given, Scalar.isSome_patternOf?]

end Value

/-! Items. -/

/-- The items of a list: those of the list of values, or without any there those of an array, the
parts of a text between commas, or another single value. -/
inductive Clause.Item (clause : Clause) : Json → Prop
  | listed {values : List Value} {value : Value} : clause.values = some values → value ∈ values →
      Item clause value.json
  | inArray {value : Value} {items : List Json} {item : Json} : clause.values.getD [] = [] →
      clause.value = some value → value.json = .list items → item ∈ items → Item clause item
  | part {value : Value} {text : String} {chars : List Char} : clause.values.getD [] = [] →
      clause.value = some value → value.json = .text text → chars ∈ text.toList.splitOn ',' →
      Item clause (.text (String.ofList (Text.trim chars)))
  | single {value : Value} : clause.values.getD [] = [] → clause.value = some value →
      (∀ items, value.json ≠ .list items) → (∀ text, value.json ≠ .text text) →
      Item clause value.json

namespace Clause

variable {clause : Clause} {item : Json}

theorem mem_items_of_listed {first : Value} {rest : List Value}
    (listed : clause.values = some (first :: rest)) : item ∈ clause.items ↔ clause.Item item := by
  rw [items, listed, List.mem_map]
  constructor
  · rintro ⟨value, member, rfl⟩
    exact .listed listed member
  · rintro (⟨here, member⟩ | ⟨unlisted, -⟩ | ⟨unlisted, -⟩ | ⟨unlisted, -⟩)
    · obtain rfl := Option.some.inj (here.symm.trans listed)
      exact ⟨_, member, rfl⟩
    all_goals simp [listed] at unlisted

def parts : Option Json → List Json
  | some (.list items) => items
  | some (.text text) =>
    (text.toList.splitOn ',').map fun part => .text (String.ofList (Text.trim part))
  | some other => [other]
  | none => []

theorem items_of_unlisted (unlisted : clause.values.getD [] = []) :
    clause.items = parts (clause.value.map Value.json) := by
  rw [Clause.items]
  cases shape : clause.values with
  | none => rfl
  | some values =>
      obtain rfl : values = [] := by simpa [shape] using unlisted
      rfl

theorem mem_items_of_unlisted (unlisted : clause.values.getD [] = []) :
    item ∈ clause.items ↔ clause.Item item := by
  rw [items_of_unlisted unlisted]
  constructor
  · intro member
    cases given : clause.value with
    | none => simp [given, parts] at member
    | some value =>
        rw [given, Option.map_some] at member
        cases shape : value.json with
        | list items => exact .inArray unlisted given shape (by simpa [shape, parts] using member)
        | text text =>
            simp only [shape, parts, List.mem_map] at member
            obtain ⟨chars, member, rfl⟩ := member
            exact .part unlisted given shape member
        | null | bool _ | number _ | object _ | unrepresentable =>
            have same : item = value.json := by simpa [shape, parts] using member
            exact same ▸ .single unlisted given (by simp [shape]) (by simp [shape])
  · rintro (⟨listed, member⟩ | ⟨-, given, shape, member⟩ | ⟨-, given, shape, member⟩ |
      ⟨-, given, notList, notText⟩)
    · simp [listed] at unlisted
      simp [unlisted] at member
    · simpa [given, shape, parts] using member
    · simp only [given, Option.map_some, shape, parts]
      exact List.mem_map_of_mem member
    · rename_i value
      rw [given, Option.map_some]
      cases shape : value.json with
      | list items => exact absurd shape (notList items)
      | text text => exact absurd shape (notText text)
      | null | bool _ | number _ | object _ | unrepresentable => simp [parts]

theorem mem_items_iff : item ∈ clause.items ↔ clause.Item item := by
  by_cases unlisted : clause.values.getD [] = []
  · exact mem_items_of_unlisted unlisted
  · cases shape : clause.values with
    | none => simp [shape] at unlisted
    | some values =>
        cases values with
        | nil => simp [shape] at unlisted
        | cons first rest => exact mem_items_of_listed shape

end Clause

/-! Operators. -/

def Operator.Names (written : String) (operator : Operator) : Prop :=
  spelling written = operator.name

theorem Operator.read?_eq_some_iff {written : String} {operator : Operator} :
    read? written = some operator ↔ Names written operator := by
  rw [read?, Names]
  constructor
  · intro found
    have same := List.find?_some found
    exact (beq_iff_eq.mp same).symm
  · intro same
    rw [same, ofName?_name]

theorem Operator.Names.unique {written : String} {first second : Operator}
    (names : Names written first) (other : Names written second) : first = second := by
  rw [← read?_eq_some_iff] at names other
  exact Option.some.inj (names.symm.trans other)

theorem Operator.Names.not_blank {written : String} {operator : Operator}
    (names : Names written operator) : Text.allBlank written = false := by
  rw [← Bool.not_eq_true]
  intro blank
  rw [Names, spelling, Text.allBlank_iff.mp blank] at names
  cases operator <;> exact absurd names (by decide)

def Side.Takes (side : Side) (written : String) : Prop :=
  ∃ comparison, Comparison.read? written = some comparison ∧ side.admits comparison = true

def Side.Accepts (side : Side) (written : Option String) : Prop :=
  ∀ text ∈ written, Text.allBlank text = true ∨ side.Takes text

def Clause.valueAt (clause : Clause) : Side → Option Value
  | .lower => clause.minValue
  | .upper => clause.maxValue

def Clause.operatorAt (clause : Clause) : Side → Option String
  | .lower => clause.minOperator
  | .upper => clause.maxOperator

inductive Demand where
  | nothing
  | value
  | items
  | bounds

def Operator.demand : Operator → Demand
  | .is | .isNot | .startsWith | .wildcard | .queryString => .value
  | .isOneOf | .isNotOneOf => .items
  | .present | .absent => .nothing
  | .range => .bounds

def Clause.Fills (clause : Clause) : Demand → Prop
  | .nothing => True
  | .value => Value.Given clause.value
  | .items => ∃ item, clause.Item item ∧ item.Usable
  | .bounds => (∃ side, Value.Given (clause.valueAt side)) ∧
    ∀ side, Value.Given (clause.valueAt side) → side.Accepts (clause.operatorAt side)

structure Clause.Ready (clause : Clause) : Prop where
  field : Text.trimmed clause.field ≠ ""
  operator : ∃ operator, Operator.Names clause.operator operator ∧ clause.Fills operator.demand

def ClauseError.turn : ClauseError → Nat
  | missingField => 0
  | missingOperator _ => 1
  | unknownOperator _ => 2
  | missingValue _ _ => 3
  | emptyValueList _ _ => 4
  | missingRangeBounds _ => 5
  | invalidRangeOperator _ .lower _ => 6
  | invalidRangeOperator _ .upper _ => 7

namespace Clause

inductive Lack (clause : Clause) (field : String) (operator : Operator) : ClauseError → Prop
  | value : operator.demand = .value → ¬ Value.Given clause.value →
      Lack clause field operator (.missingValue field operator)
  | items : operator.demand = .items → (∀ item, clause.Item item → ¬ item.Usable) →
      Lack clause field operator (.emptyValueList field operator)
  | bounds : operator.demand = .bounds → (∀ side, ¬ Value.Given (clause.valueAt side)) →
      Lack clause field operator (.missingRangeBounds field)
  | comparison {side : Side} {written : String} : operator.demand = .bounds →
      Value.Given (clause.valueAt side) → clause.operatorAt side = some written →
      Text.allBlank written = false → ¬ side.Takes written →
      Lack clause field operator (.invalidRangeOperator field side written)

def FirstLack (clause : Clause) (field : String) (operator : Operator) (error : ClauseError) :
    Prop :=
  clause.Lack field operator error ∧
    ∀ other, clause.Lack field operator other → error.turn ≤ other.turn

inductive Fault (clause : Clause) : ClauseError → Prop
  | field : Text.trimmed clause.field = "" → Fault clause .missingField
  | operator : Text.allBlank clause.operator = true →
      Fault clause (.missingOperator (Text.trimmed clause.field))
  | unknown : (∀ operator, ¬ Operator.Names clause.operator operator) →
      Fault clause (.unknownOperator clause.operator)
  | lack {operator : Operator} {error : ClauseError} : Operator.Names clause.operator operator →
      clause.Lack (Text.trimmed clause.field) operator error → Fault clause error

/-- The fault that is looked for before all others that the clause has. -/
def FirstFault (clause : Clause) (error : ClauseError) : Prop :=
  clause.Fault error ∧ ∀ other, clause.Fault other → error.turn ≤ other.turn

variable {clause : Clause} {field : String} {operator : Operator} {error other : ClauseError}

theorem Lack.unique (lack : clause.Lack field operator error)
    (otherLack : clause.Lack field operator other) (turn : error.turn = other.turn) :
    error = other := by
  cases lack with
  | @comparison side written _ _ here =>
      cases otherLack with
      | @comparison otherSide otherWritten _ _ there =>
          obtain rfl : side = otherSide := by
            cases side <;> cases otherSide <;> simp [ClauseError.turn] at turn ⊢
          rw [Option.some.inj (here.symm.trans there)]
      | _ => cases side <;> simp [ClauseError.turn] at turn
  | _ =>
      cases otherLack with
      | @comparison side => cases side <;> simp [ClauseError.turn] at turn
      | _ => simp [ClauseError.turn] at turn ⊢

theorem Lack.three_le_turn (lack : clause.Lack field operator error) : 3 ≤ error.turn := by
  cases lack with
  | @comparison side => cases side <;> simp [ClauseError.turn]
  | _ => simp [ClauseError.turn]

theorem Fault.unique (fault : clause.Fault error) (otherFault : clause.Fault other)
    (turn : error.turn = other.turn) : error = other := by
  cases fault with
  | lack names lack =>
      have late := lack.three_le_turn
      cases otherFault with
      | lack otherNames otherLack =>
          obtain rfl := names.unique otherNames
          exact lack.unique otherLack turn
      | _ => exact absurd (turn ▸ late) (by simp [ClauseError.turn])
  | _ =>
      cases otherFault with
      | lack names lack => exact absurd (turn ▸ lack.three_le_turn) (by simp [ClauseError.turn])
      | _ => simp [ClauseError.turn] at turn ⊢

theorem FirstFault.unique (first : clause.FirstFault error) (second : clause.FirstFault other) :
    error = other :=
  first.1.unique second.1 (Nat.le_antisymm (first.2 other second.1) (second.2 error first.1))

theorem FirstFault.iff_eq (first : clause.FirstFault error) :
    clause.FirstFault other ↔ error = other :=
  ⟨first.unique, fun same => same ▸ first⟩

theorem Fault.exists_first (fault : clause.Fault error) : ∃ first, clause.FirstFault first := by
  -- A fault that comes before leads to the first one, since its turn is smaller.
  generalize turn : error.turn = bound
  induction bound using Nat.strongRecOn generalizing error with
  | ind bound ih =>
      by_cases first : ∀ other, clause.Fault other → error.turn ≤ other.turn
      · exact ⟨error, fault, first⟩
      · obtain ⟨other, otherFault, before⟩ : ∃ other, clause.Fault other ∧
            other.turn < error.turn := by
          simpa using first
        exact ih other.turn (turn ▸ before) otherFault rfl

theorem firstLack_iff_of_only {only : ClauseError}
    (same : ∀ other, clause.Lack field operator other → other = only) :
    clause.FirstLack field operator error ↔ clause.Lack field operator error := by
  refine ⟨fun first => first.1, fun lack => ⟨lack, ?_⟩⟩
  intro other otherLack
  rw [same error lack, same other otherLack]

theorem firstLack_value_iff (demand : operator.demand = .value) :
    clause.FirstLack field operator error ↔
      ¬ Value.Given clause.value ∧ error = .missingValue field operator := by
  have lack_iff {error : ClauseError} : clause.Lack field operator error ↔
      ¬ Value.Given clause.value ∧ error = .missingValue field operator := by
    constructor
    · intro lack
      cases lack with
      | value _ missing => exact ⟨missing, rfl⟩
      | items other | bounds other | comparison other => simp [demand] at other
    · rintro ⟨missing, rfl⟩
      exact .value demand missing
  rw [firstLack_iff_of_only fun other lack => (lack_iff.mp lack).2, lack_iff]

theorem firstLack_items_iff (demand : operator.demand = .items) :
    clause.FirstLack field operator error ↔
      (∀ item, clause.Item item → ¬ item.Usable) ∧ error = .emptyValueList field operator := by
  have lack_iff {error : ClauseError} : clause.Lack field operator error ↔
      (∀ item, clause.Item item → ¬ item.Usable) ∧ error = .emptyValueList field operator := by
    constructor
    · intro lack
      cases lack with
      | items _ missing => exact ⟨missing, rfl⟩
      | value other | bounds other | comparison other => simp [demand] at other
    · rintro ⟨missing, rfl⟩
      exact .items demand missing
  rw [firstLack_iff_of_only fun other lack => (lack_iff.mp lack).2, lack_iff]

theorem Lack.given {side : Side} {written : String}
    (lack : clause.Lack field operator (.invalidRangeOperator field side written)) :
    Value.Given (clause.valueAt side) := by
  cases lack
  assumption

theorem firstLack_bounds_iff (demand : operator.demand = .bounds) :
    clause.FirstLack field operator error ↔
      ((∀ side, ¬ Value.Given (clause.valueAt side)) ∧ error = .missingRangeBounds field) ∨
        (∃ written, clause.Lack field operator (.invalidRangeOperator field .lower written) ∧
          error = .invalidRangeOperator field .lower written) ∨
        (∀ written, ¬ clause.Lack field operator (.invalidRangeOperator field .lower written)) ∧
          ∃ written, clause.Lack field operator (.invalidRangeOperator field .upper written) ∧
            error = .invalidRangeOperator field .upper written := by
  constructor
  · rintro ⟨lack, first⟩
    cases lack with
    | value other | items other => simp [demand] at other
    | bounds _ missing => exact .inl ⟨missing, rfl⟩
    | @comparison side written _ given here solid refused =>
        have lack : clause.Lack field operator (.invalidRangeOperator field side written) :=
          .comparison demand given here solid refused
        cases side with
        | lower => exact .inr (.inl ⟨_, lack, rfl⟩)
        | upper =>
            refine .inr (.inr ⟨?_, _, lack, rfl⟩)
            intro written lower
            exact absurd (first _ lower) (by simp [ClauseError.turn])
  · rintro (⟨missing, rfl⟩ | ⟨written, lack, rfl⟩ | ⟨valid, written, lack, rfl⟩)
    · refine ⟨.bounds demand missing, ?_⟩
      intro other otherLack
      cases otherLack with
      | value other | items other => simp [demand] at other
      | bounds => exact Nat.le_refl _
      | comparison _ given => exact absurd given (missing _)
    · refine ⟨lack, ?_⟩
      intro other otherLack
      cases otherLack with
      | value other | items other => simp [demand] at other
      | bounds _ missing => exact absurd lack.given (missing _)
      | @comparison side => cases side <;> simp [ClauseError.turn]
    · refine ⟨lack, ?_⟩
      intro other otherLack
      cases otherLack with
      | value other | items other => simp [demand] at other
      | bounds _ missing => exact absurd lack.given (missing _)
      | @comparison side written _ given here solid refused =>
          cases side with
          | lower => exact absurd (.comparison demand given here solid refused) (valid _)
          | upper => exact Nat.le_refl _

theorem firstFault_iff_firstLack (named : Text.trimmed clause.field ≠ "")
    (written : ¬ Text.allBlank clause.operator = true)
    (names : Operator.Names clause.operator operator) :
    clause.FirstFault error ↔ clause.FirstLack (Text.trimmed clause.field) operator error := by
  have fault_iff {error : ClauseError} :
      clause.Fault error ↔ clause.Lack (Text.trimmed clause.field) operator error := by
    refine ⟨fun fault => ?_, .lack names⟩
    cases fault with
    | field unnamed => exact absurd unnamed named
    | operator blank => exact absurd blank written
    | unknown unknown => exact absurd names (unknown operator)
    | lack otherNames lack =>
        obtain rfl := names.unique otherNames
        exact lack
  simp only [FirstFault, FirstLack, fault_iff]

end Clause

theorem Clause.ready_iff {clause : Clause} : clause.Ready ↔ ∀ error, ¬ clause.Fault error := by
  constructor
  · rintro ⟨named, operator, names, fills⟩ error fault
    cases fault with
    | field unnamed => exact named unnamed
    | operator blank => simp [names.not_blank] at blank
    | unknown unknown => exact unknown operator names
    | lack otherNames lack =>
        obtain rfl := names.unique otherNames
        cases lack with
        | value demand missing => exact missing (by rwa [demand] at fills)
        | items demand missing =>
            rw [demand] at fills
            obtain ⟨item, belongs, usable⟩ := fills
            exact missing item belongs usable
        | bounds demand missing =>
            rw [demand] at fills
            obtain ⟨side, given⟩ := fills.1
            exact missing side given
        | comparison demand given written solid refused =>
            rw [demand] at fills
            exact (fills.2 _ given _ written).elim (by simp [solid]) refused
  · intro faultless
    refine ⟨fun unnamed => faultless _ (.field unnamed), ?_⟩
    obtain ⟨operator, names⟩ : ∃ operator, Operator.Names clause.operator operator := by
      by_contra unknown
      exact faultless _ (.unknown (not_exists.mp unknown))
    have lackless := fun error lack => faultless error (.lack names lack)
    refine ⟨operator, names, ?_⟩
    cases demand : operator.demand with
    | nothing => trivial
    | value =>
        by_contra missing
        exact lackless _ (.value demand missing)
    | items =>
        by_contra missing
        refine lackless _ (.items demand ?_)
        exact fun item belongs usable => missing ⟨item, belongs, usable⟩
    | bounds =>
        refine ⟨?_, ?_⟩
        · by_contra missing
          exact lackless _ (.bounds demand (not_exists.mp missing))
        · intro side given text written
          by_contra refused
          obtain ⟨solid, notTaken⟩ := not_or.mp refused
          exact lackless _ (.comparison demand given written (Bool.not_eq_true _ ▸ solid) notTaken)

/-! Completion. -/

namespace Rules

variable {rules : Rules} {clause : Clause} {field : String} {error : ClauseError}

theorem comparison_eq_error_iff {side : Side} {written : Option String} :
    rules.comparison field side written = .error error ↔
      ∃ text, written = some text ∧ Text.allBlank text = false ∧ ¬ side.Takes text ∧
        error = .invalidRangeOperator field side text := by
  cases written with
  | none => simp [comparison]
  | some text =>
      cases blank : Text.allBlank text with
      | true => simp [comparison, blank]
      | false =>
          cases found : Comparison.read? text with
          | none => simp [comparison, Side.Takes, blank, found, eq_comm (b := error)]
          | some named =>
              cases admitted : side.admits named <;>
                simp [comparison, Side.Takes, blank, found, admitted, eq_comm (b := error)]

def boundAt (rules : Rules) (clause : Clause) (field : String) (exact : Bool) (side : Side) :
    Except ClauseError (Option Bound) :=
  rules.bound field side (clause.operatorAt side) (scalar? exact (clause.valueAt side))

theorem bound_eq_error_iff {side : Side} {written : Option String} {value : Option Value}
    {exact : Bool} :
    rules.bound field side written (scalar? exact value) = .error error ↔
      Value.Given value ∧ rules.comparison field side written = .error error := by
  rw [Value.given_iff_scalar? exact]
  cases scalar? exact value with
  | none => simp [bound]
  | some scalar =>
      rw [bound]
      cases rules.comparison field side written <;> simp [Except.map]

theorem range_eq_error_iff {exact : Bool} :
    rules.range clause field exact = .error error ↔
      ((∀ side, ¬ Value.Given (clause.valueAt side)) ∧ error = .missingRangeBounds field) ∨
        rules.boundAt clause field exact .lower = .error error ∨
        (∀ other, rules.boundAt clause field exact .lower ≠ .error other) ∧
          rules.boundAt clause field exact .upper = .error error := by
  have none_iff : (∀ side, ¬ Value.Given (clause.valueAt side)) ↔
      ¬ (scalar? exact clause.minValue).isSome ∧ ¬ (scalar? exact clause.maxValue).isSome := by
    rw [← Value.given_iff_scalar?, ← Value.given_iff_scalar?]
    refine ⟨fun missing => ⟨missing .lower, missing .upper⟩, fun missing side => ?_⟩
    cases side with
    | lower => exact missing.1
    | upper => exact missing.2
  rw [none_iff, range, boundAt, boundAt]
  dsimp only [Clause.valueAt, Clause.operatorAt]
  cases low : scalar? exact clause.minValue <;> cases high : scalar? exact clause.maxValue
  case none.none => simp [bound, eq_comm]
  all_goals
    simp only [Option.isSome_some, Option.isSome_none, not_true_eq_false, false_and, and_false,
      false_or]
    cases rules.bound field .lower clause.minOperator _ with
    | error reason => simp
    | ok lower => cases rules.bound field .upper clause.maxOperator _ <;> simp

theorem boundAt_eq_error_iff {exact : Bool} {side : Side} :
    rules.boundAt clause field exact side = .error error ↔
      ∃ text, clause.Lack field .range (.invalidRangeOperator field side text) ∧
        error = .invalidRangeOperator field side text := by
  rw [boundAt, bound_eq_error_iff, comparison_eq_error_iff]
  constructor
  · rintro ⟨given, text, written, solid, refused, rfl⟩
    exact ⟨text, .comparison rfl given written solid refused, rfl⟩
  · rintro ⟨text, ⟨⟩ | ⟨⟩ | ⟨⟩ | ⟨-, given, written, solid, refused⟩, rfl⟩
    exact ⟨given, text, written, solid, refused, rfl⟩

theorem range_eq_error_iff_firstLack {exact : Bool} :
    rules.range clause field exact = .error error ↔ clause.FirstLack field .range error := by
  have valid : (∀ other, rules.boundAt clause field exact .lower ≠ .error other) ↔
      ∀ written, ¬ clause.Lack field .range (.invalidRangeOperator field .lower written) := by
    simp only [ne_eq, boundAt_eq_error_iff]
    constructor
    · exact fun valid written lack => valid _ ⟨written, lack, rfl⟩
    · rintro valid other ⟨written, lack, -⟩
      exact valid written lack
  rw [range_eq_error_iff, valid, boundAt_eq_error_iff, boundAt_eq_error_iff,
    Clause.firstLack_bounds_iff rfl]

theorem exists_item_iff {exact : Bool} :
    clause.items.filterMap (Scalar.ofJson? exact) = [] ↔
      ∀ item, clause.Item item → ¬ item.Usable := by
  simp only [List.filterMap_eq_nil_iff, Clause.mem_items_iff, ← Scalar.isSome_ofJson? exact,
    Option.not_isSome_iff_eq_none]

theorem condition_eq_error_iff (exact : Bool) {operator : Operator} :
    rules.condition clause field exact operator = .error error ↔
      clause.FirstLack field operator error := by
  cases operator with
  | is | isNot =>
      rw [Clause.firstLack_value_iff rfl, condition, Value.given_iff_scalar? exact]
      cases scalar? exact clause.value <;> simp [eq_comm (b := error)]
  | isOneOf | isNotOneOf =>
      rw [Clause.firstLack_items_iff rfl, condition, ← exists_item_iff]
      cases clause.items.filterMap (Scalar.ofJson? exact) <;> simp [eq_comm (b := error)]
  | present | absent =>
      refine iff_of_false (by simp [condition]) ?_
      rintro ⟨lack, -⟩
      cases lack <;> simp [Operator.demand] at *
  | range => exact range_eq_error_iff_firstLack
  | startsWith | wildcard | queryString =>
      rw [Clause.firstLack_value_iff rfl, condition, Value.given_iff_pattern]
      cases clause.value.bind fun held => Scalar.patternOf? held.json <;>
        simp [eq_comm (b := error)]

theorem complete_eq_error_iff : rules.complete clause = .error error ↔ clause.FirstFault error := by
  rw [complete]
  by_cases unnamed : Text.trimmed clause.field = ""
  · have first : clause.FirstFault .missingField := ⟨.field unnamed, fun _ _ => Nat.zero_le _⟩
    rw [if_pos unnamed, first.iff_eq, Except.error.injEq]
  rw [if_neg unnamed]
  by_cases blank : Text.allBlank clause.operator = true
  · have first : clause.FirstFault (.missingOperator (Text.trimmed clause.field)) := by
      refine ⟨.operator blank, ?_⟩
      intro other fault
      cases fault with
      | field none => exact absurd none unnamed
      | lack names => simp [names.not_blank] at blank
      | operator | unknown => simp [ClauseError.turn]
    rw [if_pos blank, first.iff_eq, Except.error.injEq]
  rw [if_neg blank]
  cases read : Operator.read? clause.operator with
  | none =>
      have unknown : ∀ operator, ¬ Operator.Names clause.operator operator := by
        intro operator names
        rw [Operator.read?_eq_some_iff.mpr names] at read
        cases read
      have first : clause.FirstFault (.unknownOperator clause.operator) := by
        refine ⟨.unknown unknown, ?_⟩
        intro other fault
        cases fault with
        | field none => exact absurd none unnamed
        | operator none => exact absurd none blank
        | unknown => exact Nat.le_refl _
        | lack names => exact absurd names (unknown _)
      rw [first.iff_eq, Except.error.injEq]
  | some operator =>
      have names := Operator.read?_eq_some_iff.mp read
      have missed : rules.condition clause (Text.trimmed clause.field)
          (rules.isExact (Text.trimmed clause.field)) operator = .error error ↔
            clause.FirstFault error := by
        rw [condition_eq_error_iff, Clause.firstFault_iff_firstLack unnamed blank names]
      rw [← missed]
      dsimp only
      cases rules.condition clause _ _ operator <;> simp [Except.map]

theorem exists_ok_iff_ready : (∃ predicate, rules.complete clause = .ok predicate) ↔
    clause.Ready := by
  rw [Clause.ready_iff]
  constructor
  · rintro ⟨predicate, completed⟩ error fault
    obtain ⟨first, isFirst⟩ := fault.exists_first
    have refused : rules.complete clause = .error first := complete_eq_error_iff.mpr isFirst
    rw [completed] at refused
    cases refused
  · intro faultless
    cases completed : rules.complete clause with
    | ok predicate => exact ⟨predicate, rfl⟩
    | error error => exact absurd (complete_eq_error_iff.mp completed).1 (faultless error)

theorem complete_disabled (rules : Rules) (clause : Clause) (disabled : Bool) :
    rules.complete { clause with disabled } = rules.complete clause := by
  have condition (field : String) (exact : Bool) (operator : Operator) :
      rules.condition { clause with disabled } field exact operator =
        rules.condition clause field exact operator := by
    cases operator <;> rfl
  simp only [complete, condition]

/-- Under all rules, a clause is completed exactly when it is ready. Otherwise the error is the
first fault that it has, and only an unknown operator is shown as a warning. How the clause joins
others, whether it is disabled, and what is noted on it does not matter. -/
theorem complete_iff_ready (rules : Rules) (clause : Clause) :
    ((∃ predicate, rules.complete clause = .ok predicate) ↔ clause.Ready) ∧
    (∀ error, rules.complete clause = .error error ↔ clause.FirstFault error) ∧
    (∀ error, clause.FirstFault error →
      (error.isWarning = true ↔ error = .unknownOperator clause.operator)) ∧
    ∀ connector disabled mark,
      rules.complete { clause with connector, disabled, mark } = rules.complete clause := by
  refine ⟨exists_ok_iff_ready, fun error => complete_eq_error_iff, ?_, ?_⟩
  · rintro error ⟨fault, -⟩
    cases fault with
    | lack names lack => cases lack <;> simp [ClauseError.isWarning]
    | _ => simp [ClauseError.isWarning]
  · intro connector disabled mark
    exact (rules.complete_placed { clause with disabled } connector mark).trans
      (rules.complete_disabled clause disabled)

end Rules

end SearchFilter
