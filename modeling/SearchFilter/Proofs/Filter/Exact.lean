import SearchFilter.Proofs.Filter.Rebuilt

/-!
Fields that are matched exactly. Nothing that is read for them is a number, so their documents hold
none, and they are compared as a whole.
-/

namespace SearchFilter

/-! Numbers in documents. -/

namespace Json

mutual

def numbers : Json → List Number
  | number value => [value]
  | list items => numbersOfItems items
  | object fields => numbersOfFields fields
  | _ => []

def numbersOfItems : List Json → List Number
  | [] => []
  | item :: items => item.numbers ++ numbersOfItems items

def numbersOfFields : List (String × Json) → List Number
  | [] => []
  | (_, value) :: fields => value.numbers ++ numbersOfFields fields

end

theorem numbersOfItems_eq_flatMap (items : List Json) :
    numbersOfItems items = items.flatMap numbers := by
  induction items with
  | nil => rfl
  | cons item items ih => rw [numbersOfItems, ih, List.flatMap_cons]

theorem numbersOfFields_eq_flatMap (fields : List (String × Json)) :
    numbersOfFields fields = fields.flatMap fun field => field.2.numbers := by
  induction fields with
  | nil => rfl
  | cons field fields ih => rw [numbersOfFields, ih, List.flatMap_cons]

theorem numbers_single (key : String) (value : Json) :
    (object [(key, value)]).numbers = value.numbers := by
  rw [numbers, numbersOfFields, numbersOfFields, List.append_nil]

theorem numbers_list_single (item : Json) : (list [item]).numbers = item.numbers := by
  rw [numbers, numbersOfItems, numbersOfItems, List.append_nil]

end Json

theorem Scalar.mem_numbers_toJson {scalar : Scalar} {number : Number}
    (member : number ∈ scalar.toJson.numbers) : scalar = .number number := by
  cases scalar with
  | number value => exact congrArg Scalar.number (List.mem_singleton.mp member).symm
  | text | bool => simp [toJson, Json.numbers] at member

theorem FieldQuery.numbers_about (kind field : String) (body : Json) :
    (about kind field body).numbers = body.numbers := by
  rw [about, Json.numbers_single, Json.numbers_single]

theorem Document.numbers_negation (document : Json) :
    (negation document).numbers = document.numbers := by
  rw [negation, Json.numbers_single, Json.numbers_single, Json.numbers_list_single]

/-! Scalars of operands. -/

def Operand.scalars : Operand → List Scalar
  | absent => []
  | scalar value => [value]
  | list values => values
  | range min max => (min.toList ++ max.toList).map Bound.value

theorem Bound.mem_set {bound other : Bound} {held : List Bound} (member : other ∈ bound.set held) :
    other = bound ∨ other ∈ held := by
  induction held with
  | nil => exact .inl (List.mem_singleton.mp member)
  | cons first rest ih =>
      rw [set] at member
      split at member
      · exact (List.mem_cons.mp member).imp_right (List.mem_cons_of_mem first)
      · rcases List.mem_cons.mp member with rfl | later
        · exact .inr List.mem_cons_self
        · exact (ih later).imp_right (List.mem_cons_of_mem first)

theorem Bound.mem_foldl_set {bounds held : List Bound} {other : Bound}
    (member : other ∈ bounds.foldl (fun held bound => bound.set held) held) :
    other ∈ held ∨ other ∈ bounds := by
  induction bounds generalizing held with
  | nil => exact .inl member
  | cons bound rest ih =>
      rcases ih member with set | later
      · rcases mem_set set with rfl | before
        · exact .inr List.mem_cons_self
        · exact .inl before
      · exact .inr (List.mem_cons_of_mem bound later)

theorem FieldQuery.number_in_range {field : String} {bounds : List Bound} {number : Number}
    (member : number ∈ (range field bounds).toJson.numbers) :
    ∃ bound ∈ bounds, bound.value = .number number := by
  rw [toJson, numbers_about, Json.canonical, Json.numbers,
    Json.numbersOfFields_eq_flatMap] at member
  obtain ⟨entry, inside, here⟩ := List.mem_flatMap.mp member
  obtain ⟨source, known, rfl⟩ := Json.exists_of_mem_canonicalFields inside
  obtain ⟨bound, boundMember, rfl⟩ := List.mem_map.mp known
  rw [Scalar.canonical_toJson] at here
  exact ⟨bound, boundMember, Scalar.mem_numbers_toJson here⟩

theorem Compiler.number_in_test (compiler : Compiler) {predicate : Predicate} {number : Number}
    (member : number ∈ (compiler.fieldQuery predicate).toJson.numbers) :
    Scalar.number number ∈ predicate.condition.operand.scalars := by
  obtain ⟨field, exact, condition⟩ := predicate
  cases condition with
  | equals negated value =>
      have inside : number ∈ value.toJson.numbers := by
        simp only [fieldQuery] at member
        split at member <;> rwa [FieldQuery.toJson, FieldQuery.numbers_about] at member
      rw [Scalar.mem_numbers_toJson inside]
      exact List.mem_singleton_self _
  | oneOf negated values =>
      rw [fieldQuery, FieldQuery.toJson, FieldQuery.numbers_about, Json.numbers,
        Json.numbersOfItems_eq_flatMap, List.flatMap_map] at member
      obtain ⟨value, known, inside⟩ := List.mem_flatMap.mp member
      exact Scalar.mem_numbers_toJson inside ▸ known
  | range min max =>
      obtain ⟨bound, kept, numeric⟩ := FieldQuery.number_in_range member
      have known := (Bound.mem_foldl_set kept).resolve_left List.not_mem_nil
      exact numeric ▸ List.mem_map_of_mem known
  | startsWith text =>
      simp only [fieldQuery] at member
      split at member <;> simp [FieldQuery.toJson, FieldQuery.numbers_about, Json.numbers,
        Json.numbersOfFields] at member
  | «exists» | wildcard | queryString =>
      simp [fieldQuery, FieldQuery.toJson, FieldQuery.numbers_about, Json.numbers,
        Json.numbersOfFields] at member

/-! What is read for a clause. -/

namespace Rules

variable {rules : Rules} {clause : Clause} {field : String} {exact : Bool} {operator : Operator}
  {condition : Condition}

theorem exists_of_scalar? {given : Option Value} {scalar : Scalar}
    (found : scalar? exact given = some scalar) :
    ∃ json, Scalar.ofJson? exact json = some scalar := by
  obtain ⟨value, -, read⟩ := Option.bind_eq_some_iff.mp found
  exact ⟨value.json, read⟩

theorem exists_of_bound {side : Side} {written : Option String} {given : Option Value}
    {bound : Option Bound} {scalar : Scalar}
    (found : rules.bound field side written (scalar? exact given) = .ok bound)
    (member : scalar ∈ bound.map Bound.value) :
    ∃ json, Scalar.ofJson? exact json = some scalar := by
  rw [(bound_of_ok found).1] at member
  exact exists_of_scalar? member

theorem scalar_cases (makes : Makes rules clause field exact operator condition) :
    ∀ scalar ∈ condition.operand.scalars,
      (∃ text, scalar = .text text) ∨ ∃ json, Scalar.ofJson? exact json = some scalar := by
  intro scalar member
  cases makes with
  | equals single read => exact .inr (exists_of_scalar? (List.mem_singleton.mp member ▸ read))
  | oneOf several read =>
      obtain ⟨json, -, found⟩ := List.mem_filterMap.mp (read.symm ▸ member)
      exact .inr ⟨json, found⟩
  | «exists» bare => exact absurd member List.not_mem_nil
  | range read =>
      obtain ⟨low, high⟩ := range_of_ok read
      obtain ⟨bound, kept, rfl⟩ := List.mem_map.mp member
      rcases List.mem_append.mp kept with lower | upper
      · exact .inr (exists_of_bound low (Option.mem_map_of_mem _ (Option.mem_toList.mp lower)))
      · exact .inr (exists_of_bound high (Option.mem_map_of_mem _ (Option.mem_toList.mp upper)))
  | startsWith | wildcard | queryString => exact .inl ⟨_, List.mem_singleton.mp member⟩

theorem not_number_of_exact (makes : Makes rules clause field true operator condition) :
    ∀ scalar ∈ condition.operand.scalars, scalar.isNumber = false := by
  intro scalar member
  rcases scalar_cases makes scalar member with ⟨text, rfl⟩ | ⟨json, read⟩
  · rfl
  · exact Scalar.ofJson?_exact_not_number json scalar read

theorem isExact_eq_true_iff :
    rules.isExact field = true ↔
      rules.suffix ≠ "" ∧ rules.suffix.toList <:+ field.toList := by
  rw [isExact, Bool.and_eq_true, decide_eq_true_eq, List.isSuffixOf_iff_suffix]

end Rules

namespace Condition

variable {condition : Condition}

theorem eq_startsWith (named : condition.operator = .startsWith) :
    ∃ text, condition = .startsWith text := by
  cases condition with
  | startsWith text => exact ⟨text, rfl⟩
  | equals negated | oneOf negated | «exists» negated => cases negated <;> cases named
  | range | wildcard | queryString => cases named

theorem eq_equals (named : condition.operator = .is ∨ condition.operator = .isNot) :
    ∃ negated value, condition = .equals negated value := by
  cases condition with
  | equals negated value => exact ⟨negated, value, rfl⟩
  | oneOf negated | «exists» negated => cases negated <;> simp [operator] at named
  | range | startsWith | wildcard | queryString => simp [operator] at named

end Condition

/-! Documents of clauses. -/

def Document.tested (negated : Bool) (test : Json) : Json :=
  if negated then negation test else test

theorem Document.numbers_tested (negated : Bool) (test : Json) :
    (tested negated test).numbers = test.numbers := by
  cases negated
  · rfl
  · exact numbers_negation test

def Json.IsNumeric : Json → Prop
  | number _ => True
  | text written => ∃ value, Text.looksNumeric (Text.trim written.toList) = true ∧
      Number.spelled? (Text.trim written.toList) = some value
  | _ => False

theorem Scalar.isNumber_iff {json : Json} {scalar : Scalar}
    (read : ofJson? false json = some scalar) : scalar.isNumber = true ↔ json.IsNumeric := by
  cases json with
  | text written =>
      simp only [Json.IsNumeric, ← ofJson?_eq_number_iff, read, Option.some.injEq]
      cases scalar <;> simp [isNumber]
  | number value =>
      obtain rfl := Option.some.inj read
      simp [isNumber, Json.IsNumeric]
  | bool value =>
      obtain rfl := Option.some.inj read
      simp [isNumber, Json.IsNumeric]
  | null | list items | object fields | unrepresentable => cases read

section

variable {compiler : Compiler} {clause : Clause} {predicate : Predicate}

theorem Compiler.document_tested (completed : compiler.rules.complete clause = .ok predicate) :
    Query.document (compiler.compile (some (.leaf clause))) =
      Document.tested predicate.condition.isNegated (compiler.fieldQuery predicate).toJson := by
  rw [compile, Option.bind_some, query?, completed, Query.document, leafQuery, Document.tested]
  cases predicate.condition.isNegated <;> rfl

theorem Compiler.kind_ne_match (exact : predicate.exact = true) :
    (compiler.fieldQuery predicate).kind ≠ "match" := by
  rw [fieldQuery]
  cases predicate.condition <;> simp [exact, FieldQuery.kind]

theorem Compiler.document_exact (completed : compiler.rules.complete clause = .ok predicate)
    (exact : predicate.exact = true) :
    (∀ scalar ∈ predicate.condition.operand.scalars, scalar.isNumber = false) ∧
      (Query.document (compiler.compile (some (.leaf clause)))).numbers = [] := by
  obtain ⟨operator, -, makes⟩ := Rules.makes_of_complete completed
  rw [exact] at makes
  have plain := Rules.not_number_of_exact makes
  refine ⟨plain, ?_⟩
  rw [document_tested completed, Document.numbers_tested, List.eq_nil_iff_forall_not_mem]
  intro number member
  exact absurd (plain _ (compiler.number_in_test member)) (by simp [Scalar.isNumber])

theorem Compiler.document_startsWith (completed : compiler.rules.complete clause = .ok predicate)
    (exact : predicate.exact = true) {text : String}
    (shape : predicate.condition = .startsWith text) :
    Query.document (compiler.compile (some (.leaf clause))) =
      FieldQuery.about "prefix" predicate.field (.text text) := by
  rw [document_tested completed, fieldQuery, shape]
  dsimp only
  rw [exact, if_pos rfl]
  rfl

theorem Compiler.document_equals (completed : compiler.rules.complete clause = .ok predicate)
    (exact : predicate.exact = false) {negated : Bool} {scalar : Scalar}
    (shape : predicate.condition = .equals negated scalar) :
    ∃ value, clause.value = some value ∧ (scalar.isNumber = true ↔ value.json.IsNumeric) ∧
      Query.document (compiler.compile (some (.leaf clause))) =
        Document.tested predicate.condition.isNegated (FieldQuery.about
          (if scalar.isNumber then "term" else "match") predicate.field scalar.toJson) := by
  obtain ⟨operator, -, makes⟩ := Rules.makes_of_complete completed
  obtain ⟨value, given, read⟩ : ∃ value, clause.value = some value ∧
      Scalar.ofJson? false value.json = some scalar := by
    rw [exact, shape] at makes
    cases makes with
    | equals single read => exact Option.bind_eq_some_iff.mp read
  refine ⟨value, given, Scalar.isNumber_iff read, ?_⟩
  rw [document_tested completed, fieldQuery, shape]
  dsimp only
  rw [exact, Bool.false_or]
  cases scalar.isNumber <;> rfl

end

/-- A complete clause on an exact field holds no number and neither does its document, which never
matches analyzed text. A prefix is asked for as one. On another field a single value is compared as
a whole exactly if it is a number or a text that becomes one, and as analyzed text otherwise. -/
theorem exact_fields_hold_no_numbers (compiler : Compiler) {clause : Clause} {completed : Completed}
    (done : compiler.rules.completed clause = .ok completed) :
    let field := Text.trimmed clause.field
    let exact := compiler.rules.suffix ≠ "" ∧ compiler.rules.suffix.toList <:+ field.toList
    let document := Query.document (compiler.compile (some (.leaf clause)))
    (exact →
      (∀ scalar ∈ completed.operand.scalars, scalar.isNumber = false) ∧ document.numbers = [] ∧
      (∃ kind body, kind ≠ "match" ∧
        document = Document.tested completed.negated (.object [(kind, .object body)])) ∧
      (completed.operator = .startsWith → ∃ text, completed.operand = .scalar (.text text) ∧
        document = FieldQuery.about "prefix" field (.text text))) ∧
    (¬ exact → completed.operator = .is ∨ completed.operator = .isNot →
      ∃ value scalar, clause.value = some value ∧ completed.operand = .scalar scalar ∧
        (value.json.IsNumeric → document =
          Document.tested completed.negated (FieldQuery.about "term" field scalar.toJson)) ∧
        (¬ value.json.IsNumeric → document =
          Document.tested completed.negated (FieldQuery.about "match" field scalar.toJson))) := by
  intro field exact document
  obtain ⟨predicate, complete, rfl⟩ := Rules.exists_of_completed done
  obtain ⟨⟨same, -, flag⟩, -⟩ := Rules.complete_eq_ok_iff.mp complete
  have exactly : predicate.exact = true ↔ exact := by
    rw [flag, Rules.isExact_eq_true_iff, same]
  have tested := Compiler.document_tested complete
  constructor
  · intro holds
    have whole := exactly.mpr holds
    obtain ⟨plain, numbers⟩ := Compiler.document_exact complete whole
    refine ⟨plain, numbers, ?_, ?_⟩
    · obtain ⟨body, shape⟩ := (compiler.fieldQuery predicate).toJson_eq_object
      exact ⟨_, body, Compiler.kind_ne_match whole, tested.trans (congrArg _ shape)⟩
    · intro named
      obtain ⟨text, shape⟩ := Condition.eq_startsWith named
      have asked := Compiler.document_startsWith complete whole shape
      rw [same] at asked
      exact ⟨text, by rw [Predicate.apart, shape, Condition.operand], asked⟩
  · intro other named
    obtain ⟨negated, scalar, shape⟩ := Condition.eq_equals named
    have loose : predicate.exact = false := by
      rw [← Bool.not_eq_true, exactly]
      exact other
    obtain ⟨value, given, numeric, compared⟩ := Compiler.document_equals complete loose shape
    rw [same] at compared
    refine ⟨value, scalar, given, by rw [Predicate.apart, shape, Condition.operand], ?_, ?_⟩
    · intro number
      rw [numeric.mpr number] at compared
      exact compared
    · intro text
      rw [Bool.eq_false_of_not_eq_true (mt numeric.mp text)] at compared
      exact compared

theorem exact_fields_hold_no_numbers_of_ids :
    let compiler : Compiler := { rules := { suffix := "_id" } }
    let ranged : Clause :=
      { field := " user_id ", operator := "range",
        minValue := some (.ofNumber (Number.integer 5 (by decide))),
        maxValue := some (.ofText " 07 ") }
    let single : Clause :=
      { field := "age", operator := "is not", value := some (.ofText " 07 ") }
    (∃ completed, compiler.rules.completed ranged = .ok completed ∧
      completed.operand.scalars = [.text "5", .text "07"] ∧
      (∀ scalar ∈ completed.operand.scalars, scalar.isNumber = false) ∧
      (Query.document (compiler.compile (some (.leaf ranged)))).numbers = []) ∧
    ∃ completed, compiler.rules.completed single = .ok completed ∧
      Query.document (compiler.compile (some (.leaf single))) =
        Document.negation
          (FieldQuery.about "term" "age" (.number (Number.integer 7 (by decide)))) := by
  intro compiler ranged single
  have rangedKnown : compiler.rules.complete ranged = .ok ⟨"user_id", true,
      .range (some ⟨.above, .text "5"⟩) (some ⟨.below, .text "07"⟩)⟩ := by
    decide +kernel
  have singleKnown : compiler.rules.complete single = .ok ⟨"age", false,
      .equals true (.number (Number.integer 7 (by decide)))⟩ := by
    decide +kernel
  have rangedDone := (Rules.completed_eq _ _).trans (congrArg _ rangedKnown)
  have singleDone := (Rules.completed_eq _ _).trans (congrArg _ singleKnown)
  obtain ⟨exact, -⟩ := exact_fields_hold_no_numbers compiler rangedDone
  obtain ⟨-, other⟩ := exact_fields_hold_no_numbers compiler singleDone
  obtain ⟨plain, numbers, -⟩ := exact ⟨by decide, by decide⟩
  obtain ⟨value, scalar, given, operand, term, -⟩ := other (by decide) (.inr rfl)
  obtain rfl := Option.some.inj given
  cases operand
  have compared := term ⟨Number.integer 7 (by decide), by decide, by decide⟩
  have trimmed : Text.trimmed single.field = "age" := by decide
  rw [trimmed] at compared
  exact ⟨⟨_, rangedDone, rfl, plain, numbers⟩, _, singleDone, compared⟩

end SearchFilter
