/-! Lists of indices: sorting without repetitions, gaps, and stable sorting by an index. -/

namespace SearchFilter.Indices

def insert (index : Nat) : List Nat → List Nat
  | [] => [index]
  | other :: rest =>
    if index < other then index :: other :: rest
    else if index = other then other :: rest
    else other :: insert index rest

def distinct : List Nat → List Nat
  | [] => []
  | index :: rest => insert index (distinct rest)

def insertBy {α : Type} (key : α → Nat) (item : α) : List α → List α
  | [] => [item]
  | other :: rest =>
    if key item ≤ key other then item :: other :: rest else other :: insertBy key item rest

/-- The items in ascending order of a key; those of one key stay in their order. -/
def sortBy {α : Type} (key : α → Nat) : List α → List α
  | [] => []
  | item :: rest => insertBy key item (sortBy key rest)

def span? (indices : List Nat) : Option (Nat × Nat) :=
  match indices.head?, indices.getLast? with
  | some first, some last =>
    if last - first + 1 = indices.length then some (first, last + 1) else none
  | _, _ => none

theorem mem_insert (index member : Nat) (indices : List Nat) :
    member ∈ insert index indices ↔ member = index ∨ member ∈ indices := by
  induction indices with
  | nil => simp [insert]
  | cons other rest ih =>
    simp only [insert]
    split
    · simp
    · split
      · next same => simp [same]
      · simp only [List.mem_cons, ih]
        constructor
        · rintro (first | second | third)
          · exact .inr (.inl first)
          · exact .inl second
          · exact .inr (.inr third)
        · rintro (first | second | third)
          · exact .inr (.inl first)
          · exact .inl second
          · exact .inr (.inr third)

theorem mem_distinct (member : Nat) (indices : List Nat) :
    member ∈ distinct indices ↔ member ∈ indices := by
  induction indices with
  | nil => simp [distinct]
  | cons index rest ih => simp [distinct, mem_insert, ih]

theorem insert_ascending (index : Nat) (indices : List Nat)
    (ascending : indices.Pairwise (· < ·)) : (insert index indices).Pairwise (· < ·) := by
  induction indices with
  | nil => simp [insert]
  | cons other rest ih =>
    obtain ⟨above, tail⟩ := List.pairwise_cons.mp ascending
    simp only [insert]
    split
    · next less =>
      refine List.pairwise_cons.mpr ⟨?_, ascending⟩
      intro member belongs
      rcases List.mem_cons.mp belongs with same | later
      · omega
      · have := above member later
        omega
    · split
      · exact ascending
      · refine List.pairwise_cons.mpr ⟨?_, ih tail⟩
        intro member belongs
        rcases (mem_insert index member rest).mp belongs with same | later
        · omega
        · exact above member later

theorem distinct_ascending (indices : List Nat) : (distinct indices).Pairwise (· < ·) := by
  induction indices with
  | nil => simp [distinct]
  | cons index rest ih => exact insert_ascending index _ ih

end SearchFilter.Indices
