import SearchFilter.Filter.Predicate
import SearchFilter.Proofs.Json.Records

/-!
Stored clauses and groups read back. Only a value that is null is not there any more, and such a
value says as much as none.
-/

namespace SearchFilter

namespace Clause

def withoutNulls (clause : Clause) : Clause :=
  { clause with
    value := clause.value.filter Value.isPresent
    minValue := clause.minValue.filter Value.isPresent
    maxValue := clause.maxValue.filter Value.isPresent }

def slots (clause : Clause) : List (String × Option Json) :=
  [("field", some (.text clause.field)), ("operator", some (.text clause.operator)),
    ("value", clause.value.map Value.json),
    ("values", clause.values.map fun values => .list (values.map Value.json)),
    ("minValue", clause.minValue.map Value.json), ("maxValue", clause.maxValue.map Value.json),
    ("minOperator", clause.minOperator.map Json.text),
    ("maxOperator", clause.maxOperator.map Json.text),
    ("disabled", if clause.disabled then some (.bool true) else none),
    ("connector", clause.connector.map fun connector => .text connector.name),
    ("groupId", clause.mark.group.map Json.text),
    ("isGroupStart", if clause.mark.isStart then some (.bool true) else none),
    ("isGroupEnd", if clause.mark.isEnd then some (.bool true) else none)]

theorem toJson_eq (clause : Clause) : clause.toJson = .object (Json.filled clause.slots) := by
  simp [toJson, slots, Json.filled, Json.flag_eq_optional, Json.optional]

theorem isPlain_toJson (clause : Clause) : clause.toJson.isPlain = true := by
  have value : ∀ value : Option Value, ∀ json ∈ value.map Value.json, json.isPlain = true := by
    intro value json held
    obtain ⟨value, -, rfl⟩ := Option.map_eq_some_iff.mp held
    exact value.json.isPlain_of_isCanonical value.canonical
  have text : ∀ text : Option String, ∀ json ∈ text.map Json.text, json.isPlain = true := by
    intro text json held
    obtain ⟨text, -, rfl⟩ := Option.map_eq_some_iff.mp held
    rfl
  have flag : ∀ up : Bool, ∀ json ∈ (if up then some (Json.bool true) else none),
      json.isPlain = true := by
    intro up json held
    cases up with
    | true => exact Option.some.inj held ▸ rfl
    | false => exact absurd held (by simp)
  rw [toJson_eq]
  apply Json.isPlain_filled
  simp only [slots, List.forall_mem_cons]
  refine ⟨text (some clause.field), text (some clause.operator), value _, ?_, value _, value _,
    text _, text _, flag _, ?_, text _, flag _, flag _, by simp⟩
  · intro json held
    obtain ⟨values, -, rfl⟩ := Option.map_eq_some_iff.mp held
    refine Json.itemsPlain_iff.mpr (List.forall_mem_map.mpr ?_)
    exact fun value _ => value.json.isPlain_of_isCanonical value.canonical
  · intro json held
    obtain ⟨connector, -, rfl⟩ := Option.map_eq_some_iff.mp held
    rfl

/-- A stored clause is read as it was, apart from values that are null. -/
theorem ofJson?_toJson (clause : Clause) :
    ofJson? .json5 clause.toJson = some clause.withoutNulls := by
  have distinct : (clause.slots.map Prod.fst).Nodup := by
    simp [slots]
  obtain ⟨part, found, parts⟩ := Json.record?_filled .json5 distinct
  have names : clause.slots.map Prod.fst = fieldNames := rfl
  rw [names] at found
  simp only [slots, List.forall_mem_cons] at parts
  obtain ⟨field, operator, value, values, minValue, maxValue, minOperator, maxOperator, disabled,
    connector, group, isStart, isEnd, -⟩ := parts
  have text : ∀ text : Option String, Json.nullable Json.text? (text.map Json.text) = some text :=
    Json.nullable_map (fun _ => rfl) (by simp)
  have items : ∀ values : List Value,
      Json.listOf? Json.any? (.list (values.map Value.json)) = some values :=
    fun values => Json.listOf?_map fun value _ => congrArg some value.ofJson_json
  have list : Json.nullable (Json.listOf? Json.any?)
      (clause.values.map fun values => .list (values.map Value.json)) = some clause.values :=
    Json.nullable_map items (by simp) _
  have given : ∀ text, Json.orDefault Json.text? "" (some (.text text)) = some text :=
    fun _ => rfl
  have join : Json.nullable (Connector.ofJson? .json5)
      (clause.connector.map fun connector => .text connector.name) = some clause.connector :=
    Json.nullable_map (fun connector => connector.ofName?_name) (by simp) _
  rw [toJson_eq, ofJson?, found]
  rw [Option.bind_eq_bind, Option.bind_some]
  simp only [field, operator, value, values, minValue, maxValue, minOperator, maxOperator, disabled,
    connector, group, isStart, isEnd]
  simp only [text, list, join, given, Json.nullable_any?, Json.orDefault_flag, Option.bind_eq_bind,
    Option.bind_some]
  rfl

end Clause

namespace Group

theorem isPlain_toJson {group : Group} (fits : ∀ index ∈ group.indices, FitsWord index) :
    group.toJson.isPlain = true := by
  have indices : Json.itemsPlain (group.indices.map Json.nat) = true :=
    Json.itemsPlain_iff.mpr (List.forall_mem_map.mpr fun index member =>
      Json.isPlain_nat (fits index member))
  refine Json.fieldsPlain_iff.mpr ?_
  simp only [List.forall_mem_cons]
  exact ⟨rfl, rfl, indices, by simp⟩

theorem ofJson?_toJson {group : Group} (fits : ∀ index ∈ group.indices, FitsWord index) :
    ofJson? .json5 group.toJson = some group := by
  have indices : Json.listOf? Json.nat? (.list (group.indices.map Json.nat)) = some group.indices :=
    Json.listOf?_map fun index member => Json.nat?_nat (fits index member)
  have connector : Connector.ofJson? .json5 (.text group.connector.name) = some group.connector :=
    group.connector.ofName?_name
  simp [ofJson?, toJson, Json.Dialect.record?, fieldNames, Json.named, Json.required, Json.text?,
    indices, connector]

end Group

/-! Values that are null. -/

theorem Value.bind_filter_isPresent {α : Type} {read : Json → Option α} (none : read .null = none)
    (value : Option Value) :
    ((value.filter isPresent).bind fun value => read value.json) =
      value.bind fun value => read value.json := by
  cases value with
  | none => rfl
  | some value =>
      obtain ⟨json, canonical⟩ := value
      cases json with
      | null => exact none.symm
      | _ => rfl

namespace Rules

theorem scalar?_filter_isPresent (exact : Bool) (value : Option Value) :
    scalar? exact (value.filter Value.isPresent) = scalar? exact value :=
  Value.bind_filter_isPresent rfl value

theorem items_withoutNulls (exact : Bool) (clause : Clause) :
    clause.withoutNulls.items.filterMap (Scalar.ofJson? exact) =
      clause.items.filterMap (Scalar.ofJson? exact) := by
  have values : clause.withoutNulls.values = clause.values := rfl
  have value : clause.withoutNulls.value = clause.value.filter Value.isPresent := rfl
  rw [Clause.items, Clause.items, values, value]
  cases clause.value with
  | none => rfl
  | some value =>
      obtain ⟨json, canonical⟩ := value
      cases json with
      | null =>
          match clause.values with
          | none => rfl
          | some [] => rfl
          | some (_ :: _) => rfl
      | _ => rfl

theorem condition_withoutNulls (rules : Rules) (clause : Clause) (field : String) (exact : Bool)
    (operator : Operator) :
    rules.condition clause.withoutNulls field exact operator =
      rules.condition clause field exact operator := by
  have value := scalar?_filter_isPresent exact clause.value
  have range : rules.range clause.withoutNulls field exact = rules.range clause field exact := by
    simp only [Rules.range, Clause.withoutNulls, scalar?_filter_isPresent]
  have pattern : ((clause.value.filter Value.isPresent).bind fun value =>
      Scalar.patternOf? value.json) = _ :=
    Value.bind_filter_isPresent rfl clause.value
  simp only [condition, items_withoutNulls, range]
  simp only [Clause.withoutNulls, value, pattern]

theorem complete_withoutNulls (rules : Rules) (clause : Clause) :
    rules.complete clause.withoutNulls = rules.complete clause := by
  simp only [complete, condition_withoutNulls]
  rfl

end Rules

end SearchFilter
