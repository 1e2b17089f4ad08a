import SearchFilter.Json.Basic

/-!
Documents in canonical form. They are their own canonical form, and every literal in them has a
value.
-/

namespace SearchFilter.Json

mutual

def isPlain : Json → Bool
  | unrepresentable => false
  | list items => itemsPlain items
  | object fields => fieldsPlain fields
  | _ => true

def itemsPlain : List Json → Bool
  | [] => true
  | item :: items => item.isPlain && itemsPlain items

def fieldsPlain : List (String × Json) → Bool
  | [] => true
  | (_, value) :: fields => value.isPlain && fieldsPlain fields

end

theorem itemsPlain_iff {items : List Json} :
    itemsPlain items = true ↔ ∀ item ∈ items, item.isPlain = true := by
  induction items with
  | nil => simp [itemsPlain]
  | cons item items ih => simp [itemsPlain, ih]

theorem fieldsPlain_iff {fields : List (String × Json)} :
    fieldsPlain fields = true ↔ ∀ field ∈ fields, field.2.isPlain = true := by
  induction fields with
  | nil => simp [fieldsPlain]
  | cons field fields ih => simp [fieldsPlain, ih]

mutual

theorem isPlain_of_isCanonical : (json : Json) → json.isCanonical = true → json.isPlain = true
  | null, _ => rfl
  | bool _, _ => rfl
  | number _, _ => rfl
  | text _, _ => rfl
  | unrepresentable, canonical => canonical
  | list items, canonical => itemsPlain_of_itemsCanonical items canonical
  | object fields, canonical =>
    fieldsPlain_of_fieldsCanonical fields (Bool.and_eq_true_iff.mp canonical).2

theorem itemsPlain_of_itemsCanonical :
    (items : List Json) → itemsCanonical items = true → itemsPlain items = true
  | [], _ => rfl
  | item :: items, canonical => by
    obtain ⟨first, rest⟩ := Bool.and_eq_true_iff.mp canonical
    exact Bool.and_eq_true_iff.mpr
      ⟨isPlain_of_isCanonical item first, itemsPlain_of_itemsCanonical items rest⟩

theorem fieldsPlain_of_fieldsCanonical :
    (fields : List (String × Json)) → fieldsCanonical fields = true → fieldsPlain fields = true
  | [], _ => rfl
  | (_, value) :: fields, canonical => by
    obtain ⟨first, rest⟩ := Bool.and_eq_true_iff.mp canonical
    exact Bool.and_eq_true_iff.mpr
      ⟨isPlain_of_isCanonical value first, fieldsPlain_of_fieldsCanonical fields rest⟩

end

theorem addField_of_ascending {key : String} {value : Json} {fields : List (String × Json)}
    (sorted : ascending ((key, value) :: fields) = true) :
    addField key value fields = (key, value) :: fields := by
  cases fields with
  | nil => rfl
  | cons field fields =>
      have less : key < field.1 := of_decide_eq_true (Bool.and_eq_true_iff.mp sorted).1
      rw [addField, if_pos less]

theorem ascending_tail {field : String × Json} {fields : List (String × Json)}
    (sorted : ascending (field :: fields) = true) : ascending fields = true := by
  cases fields with
  | nil => rfl
  | cons next fields => exact (Bool.and_eq_true_iff.mp sorted).2

mutual

theorem canonical_eq_self : (json : Json) → json.isCanonical = true → json.canonical = json
  | null, _ => rfl
  | bool _, _ => rfl
  | number _, _ => rfl
  | text _, _ => rfl
  | list items, canonical => congrArg list (canonicalItems_eq_self items canonical)
  | object fields, canonical => by
    obtain ⟨sorted, values⟩ := Bool.and_eq_true_iff.mp canonical
    exact congrArg object (canonicalFields_eq_self fields sorted values)

theorem canonicalItems_eq_self :
    (items : List Json) → itemsCanonical items = true → canonicalItems items = items
  | [], _ => rfl
  | item :: items, canonical => by
    obtain ⟨first, rest⟩ := Bool.and_eq_true_iff.mp canonical
    rw [canonicalItems, canonical_eq_self item first, canonicalItems_eq_self items rest]

theorem canonicalFields_eq_self :
    (fields : List (String × Json)) → ascending fields = true → fieldsCanonical fields = true →
    canonicalFields fields = fields
  | [], _, _ => rfl
  | (key, value) :: fields, sorted, canonical => by
    obtain ⟨first, rest⟩ := Bool.and_eq_true_iff.mp canonical
    rw [canonicalFields, canonical_eq_self value first,
      canonicalFields_eq_self fields (ascending_tail sorted) rest, addField_of_ascending sorted]

end

/-! Sorted fields. -/

theorem addField_perm {key : String} {value : Json} {fields : List (String × Json)}
    (absent : key ∉ fields.map Prod.fst) :
    (addField key value fields).Perm ((key, value) :: fields) := by
  induction fields with
  | nil => exact List.Perm.refl _
  | cons first rest ih =>
      obtain ⟨other, held⟩ := first
      rw [List.map_cons, List.mem_cons, not_or] at absent
      rw [addField, if_neg absent.1]
      split
      · exact List.Perm.refl _
      · exact ((ih absent.2).cons _).trans (List.Perm.swap _ _ _)

theorem mem_of_mem_addField {key : String} {value : Json} {fields : List (String × Json)}
    {field : String × Json} (member : field ∈ addField key value fields) :
    field = (key, value) ∨ field ∈ fields := by
  induction fields with
  | nil => exact .inl (List.mem_singleton.mp member)
  | cons first rest ih =>
      obtain ⟨other, held⟩ := first
      rw [addField] at member
      split at member
      · exact List.mem_cons.mp member
      split at member
      · exact .inr member
      rcases List.mem_cons.mp member with rfl | later
      · exact .inr List.mem_cons_self
      · exact (ih later).imp_right (List.mem_cons_of_mem _)

theorem exists_of_mem_canonicalFields {fields : List (String × Json)} {field : String × Json}
    (member : field ∈ canonicalFields fields) :
    ∃ source ∈ fields, field = (source.1, source.2.canonical) := by
  induction fields with
  | nil => simp [canonicalFields] at member
  | cons first rest ih =>
      rcases mem_of_mem_addField member with rfl | later
      · exact ⟨first, List.mem_cons_self, rfl⟩
      · obtain ⟨source, known, same⟩ := ih later
        exact ⟨source, List.mem_cons_of_mem first known, same⟩

theorem canonicalFields_perm {fields : List (String × Json)}
    (distinct : (fields.map Prod.fst).Nodup) :
    (canonicalFields fields).Perm (fields.map fun field => (field.1, field.2.canonical)) := by
  induction fields with
  | nil => exact List.Perm.refl _
  | cons first rest ih =>
      obtain ⟨key, value⟩ := first
      obtain ⟨absent, distinct⟩ := List.nodup_cons.mp distinct
      have tail := ih distinct
      have fresh : key ∉ (canonicalFields rest).map Prod.fst := by
        rw [(tail.map Prod.fst).mem_iff, List.map_map]
        exact absent
      exact (addField_perm fresh).trans (tail.cons _)

end SearchFilter.Json

namespace SearchFilter.Value

theorem ofJson_json (value : Value) : ofJson value.json = value := by
  obtain ⟨json, canonical⟩ := value
  simp only [ofJson, json.canonical_eq_self canonical]

end SearchFilter.Value
