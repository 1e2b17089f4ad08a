import SearchFilter.Proofs.Filter.Rebuilt

/-!
Lists of texts. A list is written as values, as an array, or as one text with commas between the
items and blanks around them, and all three are completed to the same.
-/

namespace SearchFilter

/-! Blanks around a text. -/

def Text.Padded (inner outer : String) : Prop :=
  ∃ before after, (∀ char ∈ before, isBlank char = true) ∧ (∀ char ∈ after, isBlank char = true) ∧
    outer.toList = before ++ inner.toList ++ after

namespace Text

variable {inner outer : String}

theorem Padded.trim_eq (padded : Padded inner outer) : trim outer.toList = trim inner.toList := by
  obtain ⟨before, after, front, back, same⟩ := padded
  rw [same, trim_append_right back, trim_append_left front]

theorem Padded.comma_not_mem (padded : Padded inner outer) (plain : ',' ∉ inner.toList) :
    ',' ∉ outer.toList := by
  obtain ⟨before, after, front, back, same⟩ := padded
  have solid : isBlank ',' ≠ true := by decide
  rw [same, List.mem_append, List.mem_append]
  rintro ((leading | inside) | trailing)
  · exact solid (front ',' leading)
  · exact plain inside
  · exact solid (back ',' trailing)

section

variable {texts written : List String}

theorem map_trim_padded (around : List.Forall₂ Padded texts written) :
    written.map (fun text => trim text.toList) = texts.map fun text => trim text.toList := by
  induction around with
  | nil => rfl
  | cons padded _ ih => rw [List.map_cons, List.map_cons, padded.trim_eq, ih]

theorem comma_not_mem_padded (around : List.Forall₂ Padded texts written)
    (plain : ∀ text ∈ texts, ',' ∉ text.toList) : ∀ text ∈ written, ',' ∉ text.toList := by
  induction around with
  | nil => exact plain
  | cons padded _ ih =>
      obtain ⟨first, rest⟩ := List.forall_mem_cons.mp plain
      exact List.forall_mem_cons.mpr ⟨padded.comma_not_mem first, ih rest⟩

end

end Text

/-! Items. -/

theorem Json.isCanonical_texts (texts : List String) :
    (Json.list (texts.map .text)).isCanonical = true := by
  rw [isCanonical]
  induction texts with
  | nil => rfl
  | cons text texts ih => exact ih

def Value.ofTexts (texts : List String) : Value :=
  ⟨.list (texts.map .text), Json.isCanonical_texts texts⟩

namespace Scalar

variable {exact : Bool}

def ofTrimmed (exact : Bool) (chars : List Char) : Scalar :=
  if exact then text (String.ofList chars) else coerced chars

def ofTexts (exact : Bool) (texts : List String) : List Scalar :=
  ((texts.map fun text => Text.trim text.toList).filter (!·.isEmpty)).map (ofTrimmed exact)

theorem filterMap_texts (exact : Bool) (texts : List String) :
    (texts.map Json.text).filterMap (ofJson? exact) = ofTexts exact texts := by
  induction texts with
  | nil => rfl
  | cons first rest ih =>
      rw [ofTexts] at ih ⊢
      rw [List.map_cons, List.map_cons, List.filterMap_cons, ih]
      by_cases blank : Text.trim first.toList = []
      · simp [ofJson?, blank]
      · simp [ofJson?, blank, ofTrimmed]

theorem ofTexts_congr {first second : List String}
    (same : first.map (fun text => Text.trim text.toList) =
      second.map fun text => Text.trim text.toList) : ofTexts exact first = ofTexts exact second := by
  rw [ofTexts, ofTexts, same]

end Scalar

namespace Clause

variable {clause : Clause} {texts written : List String}

theorem items_ofValues (listed : clause.values = some (texts.map Value.ofText))
    (alone : texts = [] → clause.value = none) : clause.items = texts.map Json.text := by
  cases texts with
  | nil =>
      rw [items_of_unlisted (by simp [listed]), alone rfl]
      rfl
  | cons first rest => simp [Clause.items, listed, Value.ofText]

theorem items_ofArray (unlisted : clause.values.getD [] = [])
    (given : clause.value = some (Value.ofTexts texts)) : clause.items = texts.map Json.text := by
  rw [items_of_unlisted unlisted, given]
  rfl

theorem scalars_ofText (exact : Bool) (unlisted : clause.values.getD [] = [])
    (given : clause.value = some (Value.ofText (String.intercalate "," written)))
    (plain : ∀ text ∈ written, ',' ∉ text.toList) :
    clause.items.filterMap (Scalar.ofJson? exact) = Scalar.ofTexts exact written := by
  have items : clause.items =
      (((String.intercalate "," written).toList.splitOn ',').map fun part =>
        String.ofList (Text.trim part)).map Json.text := by
    rw [items_of_unlisted unlisted, given, List.map_map]
    rfl
  have comma : ",".toList = [','] := rfl
  rw [items, Scalar.filterMap_texts, String.toList_intercalate, comma]
  cases written with
  | nil => rfl
  | cons first rest =>
      rw [List.splitOn_intercalate ',' (List.forall_mem_map.mpr plain) (List.cons_ne_nil _ _)]
      apply Scalar.ofTexts_congr
      rw [List.map_map, List.map_map]
      refine List.map_congr_left fun text _ => ?_
      simp only [Function.comp_apply, String.toList_ofList, Text.trim_trim]

end Clause

/-! Lists. -/

namespace Rules

variable {rules : Rules} {clause : Clause} {operator : Operator}

def ofScalars (rules : Rules) (field : String) (operator : Operator) (values : List Scalar) :
    Except ClauseError Predicate :=
  if field = "" then .error .missingField
  else if values = [] then .error (.emptyValueList field operator)
  else .ok ⟨field, rules.isExact field, .oneOf operator.isNegated values⟩

theorem condition_list {field : String} {exact : Bool} {values : List Scalar}
    (several : operator = .isOneOf ∨ operator = .isNotOneOf)
    (found : clause.items.filterMap (Scalar.ofJson? exact) = values) :
    rules.condition clause field exact operator =
      if values = [] then .error (.emptyValueList field operator)
      else .ok (.oneOf operator.isNegated values) := by
  rcases several with rfl | rfl
  all_goals
    rw [condition, found]
    cases values with
    | nil => rfl
    | cons first rest => rfl

theorem complete_list {values : List Scalar} (read : Operator.read? clause.operator = some operator)
    (several : operator = .isOneOf ∨ operator = .isNotOneOf)
    (found : clause.items.filterMap
      (Scalar.ofJson? (rules.isExact (Text.trimmed clause.field))) = values) :
    rules.complete clause = rules.ofScalars (Text.trimmed clause.field) operator values := by
  rw [ofScalars]
  by_cases unnamed : Text.trimmed clause.field = ""
  · rw [complete, if_pos unnamed, if_pos unnamed]
  · rw [complete_of_named unnamed read, if_neg unnamed, condition_list several found]
    split
    · rfl
    · rfl

end Rules

/-- A list of texts without commas is completed to the same however it is written: as values, as an
array, or as one text with commas between the items and blanks around them. Each item is trimmed,
blank ones are left out, and the others become scalars one by one. -/
theorem lists_complete_alike (rules : Rules) {clause : Clause} {operator : Operator}
    {texts written : List String} (unlisted : Option (List Value)) (unused : Option Value)
    (read : Operator.read? clause.operator = some operator)
    (several : operator = .isOneOf ∨ operator = .isNotOneOf)
    (plain : ∀ text ∈ texts, ',' ∉ text.toList) (around : List.Forall₂ Text.Padded texts written)
    (bare : unlisted.getD [] = []) (alone : texts = [] → unused = none) :
    let field := Text.trimmed clause.field
    let result := rules.ofScalars field operator (Scalar.ofTexts (rules.isExact field) texts)
    rules.complete { clause with values := some (texts.map .ofText), value := unused } = result ∧
    rules.complete { clause with values := unlisted, value := some (.ofTexts texts) } = result ∧
    rules.complete { clause with
      values := unlisted, value := some (.ofText (String.intercalate "," written)) } = result := by
  intro field result
  have alike (other : Clause) (sameField : other.field = clause.field)
      (sameOperator : other.operator = clause.operator)
      (scalars : ∀ exact, other.items.filterMap (Scalar.ofJson? exact) =
        Scalar.ofTexts exact texts) : rules.complete other = result := by
    rw [← sameOperator] at read
    rw [Rules.complete_list read several (scalars _), sameField]
  refine ⟨alike _ rfl rfl ?_, alike _ rfl rfl ?_, alike _ rfl rfl ?_⟩
  · intro exact
    rw [Clause.items_ofValues rfl alone, Scalar.filterMap_texts]
  · intro exact
    rw [Clause.items_ofArray bare rfl, Scalar.filterMap_texts]
  · intro exact
    rw [Clause.scalars_ofText exact bare rfl (Text.comma_not_mem_padded around plain),
      Scalar.ofTexts_congr (Text.map_trim_padded around)]

theorem lists_complete_alike_of_blanks :
    let clause : Clause := { field := " age ", operator := "Is One Of" }
    let texts := ["x", " ", "07", "x"]
    let written := ["x", "\t ", " 07", " x "]
    let result : Except ClauseError Predicate :=
      .ok ⟨"age", false, .oneOf false [.text "x", .number (.integer 7 (by decide)), .text "x"]⟩
    (Operator.read? clause.operator = some .isOneOf ∧ (∀ text ∈ texts, ',' ∉ text.toList) ∧
      List.Forall₂ Text.Padded texts written) ∧
    Rules.complete {} { clause with values := some (texts.map .ofText) } = result ∧
    Rules.complete {} { clause with values := some [], value := some (.ofTexts texts) } = result ∧
    Rules.complete {}
      { clause with values := some [], value := some (.ofText "x,\t , 07, x ") } = result := by
  intro clause texts written result
  have read : Operator.read? clause.operator = some .isOneOf := by decide
  have plain : ∀ text ∈ texts, ',' ∉ text.toList := by decide
  have bare : ∀ char ∈ [], Text.isBlank char = true := List.forall_mem_nil _
  have tab : ∀ char ∈ ['\t'], Text.isBlank char = true := List.forall_mem_singleton.mpr (by decide)
  have space : ∀ char ∈ [' '], Text.isBlank char = true := List.forall_mem_singleton.mpr (by decide)
  have around : List.Forall₂ Text.Padded texts written :=
    .cons ⟨[], [], bare, bare, rfl⟩ <| .cons ⟨['\t'], [], tab, bare, rfl⟩ <|
      .cons ⟨[' '], [], space, bare, rfl⟩ <| .cons ⟨[' '], [' '], space, space, rfl⟩ .nil
  have joined : String.intercalate "," written = "x,\t , 07, x " := by decide +kernel
  have scalars : Rules.ofScalars {} (Text.trimmed clause.field) .isOneOf
      (Scalar.ofTexts (Rules.isExact {} (Text.trimmed clause.field)) texts) = result := by
    decide +kernel
  obtain ⟨values, array, text⟩ :=
    lists_complete_alike {} (some []) none read (.inl rfl) plain around rfl (by simp [texts])
  rw [joined] at text
  exact ⟨⟨read, plain, around⟩, values.trans scalars, array.trans scalars, text.trans scalars⟩

/-- A clause without a field has no list, not even an empty one. -/
theorem no_list_without_field :
    let clause : Clause := { field := " ", operator := "is_one_of", values := some [.ofText "x"] }
    Rules.complete {} clause = .error .missingField ∧
      (∀ predicate, Rules.complete {} clause ≠ .ok predicate) ∧
      ∀ field operator, Rules.complete {} clause ≠ .error (.emptyValueList field operator) := by
  intro clause
  have missing : Rules.complete {} clause = .error .missingField := by decide
  simp [missing]

end SearchFilter
