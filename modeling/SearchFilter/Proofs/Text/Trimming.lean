import Mathlib.Data.List.DropRight
import SearchFilter.Proofs.Json5.Numbers
import SearchFilter.Text.Blank

/-!
Trimming. A text that was trimmed has nothing left to trim, and neither has a written number.
-/

namespace SearchFilter

namespace Text

variable {chars blank : List Char}

theorem trim_eq_rdropWhile (chars : List Char) :
    trim chars = (chars.dropWhile isBlank).rdropWhile isBlank := rfl

theorem trim_append_left (blanks : ∀ char ∈ blank, isBlank char = true) :
    trim (blank ++ chars) = trim chars := by
  rw [trim, List.dropWhile_append_of_pos blanks, trim]

theorem trim_append_right (blanks : ∀ char ∈ blank, isBlank char = true) :
    trim (chars ++ blank) = trim chars := by
  have nothing : blank.dropWhile isBlank = [] := List.dropWhile_eq_nil_iff.mpr blanks
  rw [trim, trim, List.dropWhile_append]
  split
  · next empty => rw [nothing, List.isEmpty_iff.mp empty]
  · have reversed : ∀ char ∈ blank.reverse, isBlank char = true :=
      fun char member => blanks char (List.mem_reverse.mp member)
    rw [List.reverse_append, List.dropWhile_append_of_pos reversed]

theorem trim_of_edges (front : ∀ char ∈ chars.head?, isBlank char = false)
    (back : ∀ char ∈ chars.getLast?, isBlank char = false) : trim chars = chars := by
  have kept : chars.dropWhile isBlank = chars := by
    cases chars with
    | nil => rfl
    | cons first rest => exact List.dropWhile_cons_of_neg (by simp [front first rfl])
  rw [trim_eq_rdropWhile, kept, List.rdropWhile_eq_self_iff]
  intro nonempty
  simp [back _ (List.getLast?_eq_some_getLast nonempty)]

theorem trim_of_solid (solid : ∀ char ∈ chars, isBlank char = false) : trim chars = chars :=
  trim_of_edges (fun char first => solid char (List.mem_of_head? first))
    (fun char last => solid char (List.mem_of_getLast? last))

theorem head?_trim (chars : List Char) : ∀ char ∈ (trim chars).head?, isBlank char = false := by
  intro char first
  have front := List.head?_dropWhile_not isBlank chars
  obtain ⟨rest, split⟩ := List.rdropWhile_prefix isBlank (l := chars.dropWhile isBlank)
  rw [← trim_eq_rdropWhile] at split
  rw [← split, List.head?_append, first] at front
  simpa using front

theorem getLast?_trim (chars : List Char) :
    ∀ char ∈ (trim chars).getLast?, isBlank char = false := by
  intro char last
  have nonempty : trim chars ≠ [] := by
    rintro none
    simp [none] at last
  have back := List.rdropWhile_last_not isBlank (chars.dropWhile isBlank) nonempty
  rw [Option.mem_def, List.getLast?_eq_some_getLast nonempty] at last
  obtain rfl := Option.some.inj last
  exact Bool.eq_false_iff.mpr back

theorem trim_trim (chars : List Char) : trim (trim chars) = trim chars :=
  trim_of_edges (head?_trim chars) (getLast?_trim chars)

theorem trimmed_trimmed (text : String) : trimmed (trimmed text) = trimmed text := by
  rw [trimmed, toList_trimmed, trim_trim]
  rfl

end Text

/-! Written numbers. -/

theorem Text.not_blank_of_isDigit {char : Char} (digit : char.isDigit = true) :
    isBlank char = false := by
  have apart : ∀ range ∈ blanks, range.2 < 48 ∨ 57 < range.1 := by decide
  obtain ⟨least, greatest⟩ := Char.isDigit_iff_toNat.mp digit
  have zero : '0'.toNat = 48 := rfl
  have nine : '9'.toNat = 57 := rfl
  rw [← Bool.not_eq_true, isBlank, CodePoints.has_iff]
  rintro ⟨range, member, low, high⟩
  rcases apart range member with before | behind <;> omega

namespace Number

theorem chars_solid (number : Number) : ∀ char ∈ number.chars, Text.isBlank char = false :=
  Json5.forall_mem_chars (fun _ digit => Text.not_blank_of_isDigit digit) (by decide) number

theorem chars_ne_nil (number : Number) : number.chars ≠ [] := by
  obtain ⟨first, more, same, -⟩ := Json5.head_chars number
  rw [same]
  exact List.cons_ne_nil first more

theorem trim_chars (number : Number) : Text.trim number.chars = number.chars :=
  Text.trim_of_solid number.chars_solid

end Number

end SearchFilter
