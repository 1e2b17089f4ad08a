import Mathlib.Data.List.Sort
import SearchFilter.Filter.Indices

/-!
Ascending indices are settled by what they contain. They have no gap exactly when they are a range,
and sorting them by a key can take place before or after some are left out.
-/

namespace SearchFilter.Indices

theorem eq_of_ascending {first second : List Nat} (left : first.Pairwise (· < ·))
    (right : second.Pairwise (· < ·)) (same : ∀ index, index ∈ first ↔ index ∈ second) :
    first = second :=
  left.eq_of_mem_iff right fun index => same index

theorem distinct_eq_self {indices : List Nat} (ascending : indices.Pairwise (· < ·)) :
    distinct indices = indices :=
  eq_of_ascending (distinct_ascending indices) ascending fun index => mem_distinct index indices

/-! Ranges. -/

theorem add_length_le_getLast {first : Nat} {rest : List Nat}
    (ascending : (first :: rest).Pairwise (· < ·)) :
    first + rest.length ≤ (first :: rest).getLast (List.cons_ne_nil first rest) := by
  induction rest generalizing first with
  | nil => simp
  | cons second rest ih =>
      obtain ⟨above, tail⟩ := List.pairwise_cons.mp ascending
      have step := above second List.mem_cons_self
      have later := ih tail
      rw [List.getLast_cons (List.cons_ne_nil second rest), List.length_cons]
      omega

theorem eq_range'_of_getLast_le {first : Nat} {rest : List Nat}
    (ascending : (first :: rest).Pairwise (· < ·))
    (slow : (first :: rest).getLast (List.cons_ne_nil first rest) ≤ first + rest.length) :
    first :: rest = List.range' first (rest.length + 1) := by
  induction rest generalizing first with
  | nil => rfl
  | cons second rest ih =>
      obtain ⟨above, tail⟩ := List.pairwise_cons.mp ascending
      have step := above second List.mem_cons_self
      have later := add_length_le_getLast tail
      rw [List.getLast_cons (List.cons_ne_nil second rest), List.length_cons] at slow
      have next : second = first + 1 := by omega
      subst next
      rw [List.length_cons, List.range'_succ, ← ih tail (by omega)]

theorem span?_range' (start size : Nat) (positive : 0 < size) :
    span? (List.range' start size) = some (start, start + size) := by
  have first : (List.range' start size).head? = some start := by
    rw [List.head?_range', if_neg (Nat.ne_of_gt positive)]
  have last : (List.range' start size).getLast? = some (start + size - 1) := by
    rw [List.getLast?_range', if_neg (Nat.ne_of_gt positive)]
  rw [span?, first, last]
  have exact : start + size - 1 - start + 1 = size := by omega
  have stop : start + size - 1 + 1 = start + size := by omega
  simp [exact, stop]

theorem span?_eq_some_iff {indices : List Nat} (ascending : indices.Pairwise (· < ·))
    (start stop : Nat) :
    span? indices = some (start, stop) ↔
      start < stop ∧ indices = List.range' start (stop - start) := by
  constructor
  · intro found
    match indices with
    | [] => simp [span?] at found
    | first :: rest =>
        have last : (first :: rest).getLast? = some ((first :: rest).getLast (by simp)) :=
          List.getLast?_eq_some_getLast _
        have climb := add_length_le_getLast ascending
        simp only [span?, List.head?_cons, last, List.length_cons] at found
        split at found
        · rename_i exact
          simp only [Option.some.injEq, Prod.mk.injEq] at found
          obtain ⟨rfl, rfl⟩ := found
          refine ⟨by omega, ?_⟩
          have size : (first :: rest).getLast (by simp) + 1 - first = rest.length + 1 := by omega
          rw [size]
          exact eq_range'_of_getLast_le ascending (by omega)
        · simp at found
  · rintro ⟨less, rfl⟩
    have span := span?_range' start (stop - start) (by omega)
    rwa [Nat.add_sub_cancel' (Nat.le_of_lt less)] at span

/-! Searching. -/

theorem find?_eq_some_of_pairwise {α : Type} {test : α → Bool} {items : List α} {item : α}
    (alone : items.Pairwise fun first second => ¬ (test first = true ∧ test second = true))
    (member : item ∈ items) (passes : test item = true) : items.find? test = some item := by
  induction items with
  | nil => exact absurd member List.not_mem_nil
  | cons first rest ih =>
      obtain ⟨separate, tail⟩ := List.pairwise_cons.mp alone
      rcases List.mem_cons.mp member with rfl | later
      · exact List.find?_cons_of_pos passes
      · have fails : ¬ test first = true := fun both => separate item later ⟨both, passes⟩
        rw [List.find?_cons_of_neg fails]
        exact ih tail later

/-! Sorting by a key. -/

section

variable {α β : Type} (key : α → Nat)

theorem insertBy_eq_orderedInsert (item : α) (items : List α) :
    insertBy key item items = items.orderedInsert (fun a b => key a ≤ key b) item := by
  induction items with
  | nil => rfl
  | cons other rest ih => rw [insertBy, List.orderedInsert_cons, ih]

theorem sortBy_eq_insertionSort (items : List α) :
    sortBy key items = items.insertionSort fun a b => key a ≤ key b := by
  induction items with
  | nil => rfl
  | cons item rest ih => rw [sortBy, ih, insertBy_eq_orderedInsert, List.insertionSort_cons]

theorem sortBy_perm (items : List α) : (sortBy key items).Perm items := by
  rw [sortBy_eq_insertionSort]
  exact List.perm_insertionSort _ items

theorem mem_sortBy {item : α} {items : List α} : item ∈ sortBy key items ↔ item ∈ items :=
  (sortBy_perm key items).mem_iff

theorem sortBy_ascending (items : List α) :
    (sortBy key items).Pairwise fun first second => key first ≤ key second := by
  rw [sortBy_eq_insertionSort]
  have total : Std.Total fun first second => key first ≤ key second := ⟨fun _ _ => Nat.le_total _ _⟩
  have trans : IsTrans α fun first second => key first ≤ key second := ⟨fun _ _ _ => Nat.le_trans⟩
  exact List.pairwise_insertionSort _ items

theorem insertBy_of_le {item : α} {items : List α} (least : ∀ other ∈ items, key item ≤ key other) :
    insertBy key item items = item :: items := by
  cases items with
  | nil => rfl
  | cons other rest => rw [insertBy, if_pos (least other List.mem_cons_self)]

variable {key} {other : β → Nat} {choose : α → Option β}

theorem filterMap_insertBy {item : α} {items : List α}
    (ascending : items.Pairwise fun first second => key first ≤ key second)
    (kept : ∀ item chosen, choose item = some chosen → other chosen = key item) :
    (insertBy key item items).filterMap choose =
      match choose item with
      | some chosen => insertBy other chosen (items.filterMap choose)
      | none => items.filterMap choose := by
  induction items with
  | nil => cases found : choose item <;> simp [insertBy, found]
  | cons next rest ih =>
      obtain ⟨above, tail⟩ := List.pairwise_cons.mp ascending
      rw [insertBy]
      split
      · rename_i before
        rw [List.filterMap_cons]
        cases found : choose item with
        | none => rfl
        | some chosen =>
            refine (insertBy_of_le other ?_).symm
            intro result member
            obtain ⟨source, sourceMember, chosenSource⟩ := List.mem_filterMap.mp member
            rw [kept item chosen found, kept source result chosenSource]
            rcases List.mem_cons.mp sourceMember with rfl | later
            · exact before
            · exact Nat.le_trans before (above source later)
      · rename_i after
        rw [List.filterMap_cons, List.filterMap_cons, ih tail]
        cases found : choose item with
        | none => cases choose next <;> rfl
        | some chosen =>
            cases foundNext : choose next with
            | none => rfl
            | some result =>
                have later : ¬ other chosen ≤ other result := by
                  rw [kept item chosen found, kept next result foundNext]
                  exact after
                simp only [insertBy, if_neg later]

/-- A stable sort by a key that the chosen items keep. -/
theorem filterMap_sortBy (items : List α)
    (kept : ∀ item chosen, choose item = some chosen → other chosen = key item) :
    (sortBy key items).filterMap choose = sortBy other (items.filterMap choose) := by
  induction items with
  | nil => rfl
  | cons item rest ih =>
      rw [sortBy, filterMap_insertBy (sortBy_ascending key rest) kept, ih, List.filterMap_cons]
      cases choose item <;> rfl

end

end SearchFilter.Indices
