import SearchFilter.Json.Number

/-!
JSON documents. `Json` keeps what a text says: fields in order, with repetitions, and literals that
no value stands for. A `Value` is a document in canonical form, which is how free data is kept.
-/

namespace SearchFilter

inductive Json where
  | null
  | bool (value : Bool)
  | number (value : Number)
  | text (value : String)
  | list (items : List Json)
  | object (fields : List (String × Json))
  /-- What is well formed and yet has no value: a number that is not finite, a string with half of
  a surrogate pair, or an object with such a key. -/
  | unrepresentable
deriving Inhabited

namespace Json

def ascending : List (String × Json) → Bool
  | [] => true
  | [_] => true
  | first :: second :: rest => decide (first.1 < second.1) && ascending (second :: rest)

mutual

def isCanonical : Json → Bool
  | unrepresentable => false
  | list items => itemsCanonical items
  | object fields => ascending fields && fieldsCanonical fields
  | _ => true

def itemsCanonical : List Json → Bool
  | [] => true
  | item :: items => item.isCanonical && itemsCanonical items

def fieldsCanonical : List (String × Json) → Bool
  | [] => true
  | (_, value) :: fields => value.isCanonical && fieldsCanonical fields

end

def addField (key : String) (value : Json) : List (String × Json) → List (String × Json)
  | [] => [(key, value)]
  | (other, held) :: rest =>
    if key < other then (key, value) :: (other, held) :: rest
    else if key = other then (other, held) :: rest
    else (other, held) :: addField key value rest

mutual

/-- The canonical form: fields sorted by key, the last of equal keys kept, and null for a literal
that no value stands for. -/
def canonical : Json → Json
  | unrepresentable => null
  | list items => list (canonicalItems items)
  | object fields => object (canonicalFields fields)
  | plain => plain

def canonicalItems : List Json → List Json
  | [] => []
  | item :: items => item.canonical :: canonicalItems items

def canonicalFields : List (String × Json) → List (String × Json)
  | [] => []
  | (key, value) :: fields => addField key value.canonical (canonicalFields fields)

end

theorem lt_of_not_lt {first second : String} (notLess : ¬ first < second)
    (different : first ≠ second) : second < first := by
  rcases Decidable.em (second < first) with less | notGreater
  · exact less
  · exact absurd (String.le_antisymm (String.not_lt.mp notGreater) (String.not_lt.mp notLess)) different

theorem ascending_addField (key : String) (value : Json) (fields : List (String × Json))
    (sorted : ascending fields = true) : ascending (addField key value fields) = true := by
  induction fields with
  | nil => rfl
  | cons first rest ih =>
    obtain ⟨other, held⟩ := first
    simp only [addField]
    split
    · next less => simpa [ascending, less] using sorted
    · next notLess =>
      split
      · exact sorted
      · next different =>
        have above : other < key := lt_of_not_lt notLess different
        cases rest with
        | nil => simp [addField, ascending, above]
        | cons second rest =>
          obtain ⟨next, kept⟩ := second
          simp only [ascending, Bool.and_eq_true, decide_eq_true_eq] at sorted
          have tail := ih sorted.2
          simp only [addField] at tail ⊢
          split
          · next less =>
            simp only [less, ↓reduceIte] at tail
            simpa [ascending, above] using tail
          · next notLess =>
            simp only [notLess, ↓reduceIte] at tail
            split
            · next same =>
              simp only [same, ↓reduceIte] at tail
              simpa [ascending, sorted.1] using tail
            · next different =>
              simp only [different, ↓reduceIte] at tail
              simpa [ascending, sorted.1] using tail

theorem fieldsCanonical_addField (key : String) (value : Json) (fields : List (String × Json))
    (plain : value.isCanonical = true) (rest : fieldsCanonical fields = true) :
    fieldsCanonical (addField key value fields) = true := by
  induction fields with
  | nil => simp [addField, fieldsCanonical, plain]
  | cons first tail ih =>
    obtain ⟨other, held⟩ := first
    simp only [fieldsCanonical, Bool.and_eq_true] at rest
    simp only [addField]
    split
    · simp [fieldsCanonical, plain, rest.1, rest.2]
    · split
      · simp [fieldsCanonical, rest.1, rest.2]
      · simp [fieldsCanonical, rest.1, ih rest.2]

theorem ascending_canonicalFields (fields : List (String × Json)) :
    ascending (canonicalFields fields) = true := by
  induction fields with
  | nil => rfl
  | cons first rest ih =>
    obtain ⟨key, value⟩ := first
    exact ascending_addField key value.canonical _ ih

mutual

theorem isCanonical_canonical : (json : Json) → json.canonical.isCanonical = true
  | null => rfl
  | bool _ => rfl
  | number _ => rfl
  | text _ => rfl
  | unrepresentable => rfl
  | list items => itemsCanonical_canonicalItems items
  | object fields => by
    simp [canonical, isCanonical, ascending_canonicalFields, fieldsCanonical_canonicalFields fields]

theorem itemsCanonical_canonicalItems :
    (items : List Json) → itemsCanonical (canonicalItems items) = true
  | [] => rfl
  | item :: items => by
    simp [canonicalItems, itemsCanonical, isCanonical_canonical item,
      itemsCanonical_canonicalItems items]

theorem fieldsCanonical_canonicalFields :
    (fields : List (String × Json)) → fieldsCanonical (canonicalFields fields) = true
  | [] => rfl
  | (key, value) :: fields =>
    fieldsCanonical_addField key value.canonical _ (isCanonical_canonical value)
      (fieldsCanonical_canonicalFields fields)

end

end Json

structure Value where
  json : Json
  canonical : json.isCanonical = true

namespace Value

def ofJson (json : Json) : Value := ⟨json.canonical, json.isCanonical_canonical⟩

def ofText (text : String) : Value := ⟨.text text, rfl⟩

def ofNumber (number : Number) : Value := ⟨.number number, rfl⟩

def ofBool (bool : Bool) : Value := ⟨.bool bool, rfl⟩

instance : Inhabited Value := ⟨⟨.null, rfl⟩⟩

end Value

end SearchFilter
