import SearchFilter.Json.Record
import SearchFilter.Proofs.Json.Canonical

/-!
Written records read back. A record has a slot for each of its fields; a slot that is empty is left
out when the record is written, and is missing when it is read.
-/

namespace SearchFilter

namespace Json

def filled (slots : List (String × Option Json)) : List (String × Json) :=
  slots.flatMap fun slot => optional slot.1 slot.2

theorem flag_eq_optional (key : String) (up : Bool) :
    flag key up = optional key (if up then some (bool true) else none) := by
  cases up <;> rfl

section

variable {slots : List (String × Option Json)} {key name : String} {value : Option Json}

theorem named_append (name : String) (first second : List (String × Json)) :
    named name (first ++ second) = named name first ++ named name second :=
  List.filterMap_append

theorem named_optional_self (key : String) (value : Option Json) :
    named key (optional key value) = value.toList := by
  cases value <;> simp [named, optional]

theorem named_optional_of_ne (different : key ≠ name) (value : Option Json) :
    named name (optional key value) = [] := by
  cases value <;> simp [named, optional, different]

theorem named_filled_of_not_mem (absent : name ∉ slots.map Prod.fst) :
    named name (filled slots) = [] := by
  induction slots with
  | nil => rfl
  | cons slot slots ih =>
      simp only [List.map_cons, List.mem_cons, not_or] at absent
      rw [filled, List.flatMap_cons, named_append, named_optional_of_ne (Ne.symm absent.1)]
      exact ih absent.2

theorem named_filled (distinct : (slots.map Prod.fst).Nodup) (member : (key, value) ∈ slots) :
    named key (filled slots) = value.toList := by
  induction slots with
  | nil => exact absurd member List.not_mem_nil
  | cons slot slots ih =>
      obtain ⟨alone, rest⟩ := List.nodup_cons.mp distinct
      rw [filled, List.flatMap_cons, named_append]
      rcases List.mem_cons.mp member with rfl | later
      · have others : named key (filled slots) = [] := named_filled_of_not_mem alone
        rw [named_optional_self]
        exact (congrArg (value.toList ++ ·) others).trans (List.append_nil _)
      · have different : slot.1 ≠ key := by
          rintro rfl
          exact alone (List.mem_map.mpr ⟨_, later, rfl⟩)
        rw [named_optional_of_ne different]
        exact ih rest later

/-- A record is read with the value of each slot under the name of the slot. -/
theorem record?_filled (dialect : Dialect) (distinct : (slots.map Prod.fst).Nodup) :
    ∃ part, dialect.record? (slots.map Prod.fst) (.object (filled slots)) = some part ∧
      ∀ slot ∈ slots, part slot.1 = slot.2 := by
  have found : ∀ slot ∈ slots, named slot.1 (filled slots) = slot.2.toList :=
    fun slot member => named_filled distinct member
  have single : (slots.map Prod.fst).all (fun name => (named name (filled slots)).length ≤ 1) := by
    simp only [List.all_map, List.all_eq_true, Function.comp_apply, decide_eq_true_eq]
    intro slot member
    rw [found slot member]
    cases slot.2 <;> simp
  refine ⟨_, if_pos single, ?_⟩
  intro slot member
  rw [found slot member]
  cases slot.2 <;> rfl

theorem isPlain_filled (plain : ∀ slot ∈ slots, ∀ value ∈ slot.2, value.isPlain = true) :
    (object (filled slots)).isPlain = true := by
  refine fieldsPlain_iff.mpr ?_
  intro field member
  obtain ⟨⟨key, held⟩, slotMember, inside⟩ := List.mem_flatMap.mp member
  cases held with
  | none => exact absurd inside List.not_mem_nil
  | some value =>
      rw [List.mem_singleton.mp inside]
      exact plain _ slotMember value rfl

end

/-! Values of slots. -/

variable {α : Type} {read : Json → Option α} {write : α → Json}

theorem nullable_map (reads : ∀ item, read (write item) = some item)
    (present : ∀ item, write item ≠ null) (value : Option α) :
    nullable read (value.map write) = some value := by
  cases value with
  | none => rfl
  | some item =>
      have json := reads item
      have other := present item
      rw [Option.map_some]
      generalize write item = written at json other
      cases written with
      | null => exact absurd rfl other
      | _ => simp [nullable, json]

theorem orDefault_flag (up : Bool) :
    orDefault bool? false (if up then some (bool true) else none) = some up := by
  cases up <;> rfl

theorem listOf?_map_map {β : Type} {read : Json → Option β} {keep : α → β} {items : List α}
    (reads : ∀ item ∈ items, read (write item) = some (keep item)) :
    listOf? read (list (items.map write)) = some (items.map keep) := by
  rw [listOf?, list?, Option.bind_some]
  induction items with
  | nil => rfl
  | cons item items ih =>
      have rest := ih fun other member => reads other (List.mem_cons_of_mem item member)
      rw [List.map_cons, List.mapM_cons, reads item List.mem_cons_self, rest]
      rfl

theorem listOf?_map {items : List α} (reads : ∀ item ∈ items, read (write item) = some item) :
    listOf? read (list (items.map write)) = some items := by
  rw [listOf?_map_map reads, List.map_id']

theorem nat?_nat {value : Nat} (fits : FitsWord value) : nat? (nat value) = some value := by
  rw [nat, Number.ofNat?, Number.ofInt?, dif_pos fits]
  simp [nat?]

theorem isPlain_nat {value : Nat} (fits : FitsWord value) : (nat value).isPlain = true := by
  rw [nat, Number.ofNat?, Number.ofInt?, dif_pos fits]
  rfl

end Json

def Value.isPresent (value : Value) : Bool := !value.json.isNull

theorem Json.nullable_any? (value : Option Value) :
    nullable any? (value.map Value.json) = some (value.filter Value.isPresent) := by
  cases value with
  | none => rfl
  | some value =>
      have kept := value.ofJson_json
      obtain ⟨json, canonical⟩ := value
      cases json with
      | null => rfl
      | _ => exact congrArg (fun value => some (some value)) kept

end SearchFilter
