/-! Sets of characters given as tables of code point ranges. -/

namespace SearchFilter.Text

/-- A table lists the first and the last code point of each range. -/
abbrev CodePoints := List (Nat × Nat)

def CodePoints.has (table : CodePoints) (char : Char) : Bool :=
  table.any fun range => range.1 ≤ char.toNat && char.toNat ≤ range.2

theorem CodePoints.has_iff (table : CodePoints) (char : Char) :
    table.has char = true ↔
      ∃ range ∈ table, range.1 ≤ char.toNat ∧ char.toNat ≤ range.2 := by
  simp [CodePoints.has]

end SearchFilter.Text
