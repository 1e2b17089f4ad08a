import SearchFilter.Json.Printer
import SearchFilter.Json5.Literal

/-! Written strings read back: each character that is escaped is read as itself. -/

namespace SearchFilter.Json5

open Scan

theorem string?_letter {letter : Char} {rest : List Char}
    (plain : (endsLine letter || letter.isDigit || letter == 'u' || letter == 'x') = false) :
    string? '"' ('\\' :: letter :: rest) = prepend (escaped letter) (string? '"' rest) := by
  simp only [Bool.or_eq_false_iff, beq_eq_false_iff_ne] at plain
  obtain ⟨⟨⟨line, digit⟩, unicode⟩, hex⟩ := plain
  -- The last equation of the reader asks for this, and simp finds it among the hypotheses.
  have zero : letter ≠ '0' := by
    rintro rfl
    exact absurd digit (by decide)
  have ret : letter ≠ '\r' := by
    rintro rfl
    exact absurd line (by decide)
  simp [string?, line, digit, unicode, hex, ret]

theorem hexValue?_control : ∀ code < 0x20,
    hexValue? ['0', '0', Nat.digitChar (code / 16), Nat.digitChar (code % 16)] = some code := by
  decide

theorem string?_control {char : Char} {rest : List Char} (control : char.toNat < 0x20) :
    string? '"' ('\\' :: 'u' :: '0' :: '0' :: Nat.digitChar (char.toNat / 16) ::
      Nat.digitChar (char.toNat % 16) :: rest) = prepend char (string? '"' rest) := by
  have code := hexValue?_control char.toNat control
  have whole : isHighSurrogate char.toNat = false := by
    simp [isHighSurrogate]
    omega
  have valid : charOf? char.toNat = some char := by
    rw [charOf?, if_pos (.inl (by omega)), Char.ofNat_toNat]
  simp [string?, code, whole, valid]

theorem string?_escaped (char : Char) (rest : List Char) :
    string? '"' (Json.escaped char ++ rest) = prepend char (string? '"' rest) := by
  simp only [Json.escaped, beq_iff_eq]
  iterate 7
    split
    · subst char
      exact string?_letter rfl
  split
  · rename_i control
    exact string?_control control
  · rename_i quote backslash _ _ line ret _ _
    simp [string?, quote, backslash, line, ret]

theorem string?_quoted (chars rest : List Char) :
    string? '"' (chars.flatMap Json.escaped ++ '"' :: rest) = some (chars, rest) := by
  induction chars with
  | nil => simp [string?]
  | cons char chars ih =>
      rw [List.flatMap_cons, List.append_assoc, string?_escaped, ih]
      rfl

end SearchFilter.Json5
