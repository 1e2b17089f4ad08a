import Mathlib.Tactic.NormNum
import SearchFilter.Proofs.Decimal.PlainText

/-!
Texts that become numbers. A text that spells a number in ASCII digits becomes that number when a
word or a double keeps all of it, and every other text stays as it is.
-/

namespace SearchFilter

open Decimal Text

/-- The rational that a number stands for, which for a double is that of its plain text. -/
def Number.Means (number : Number) (value : ℚ) : Prop :=
  match number with
  | .integer whole _ => (whole : ℚ) = value
  | .double spelled => Denotes (spelled.chars .plain) value

/-! Texts that look numeric. -/

section Looks

variable {chars whole places : List Char}

theorem isDecimalDigit_of_isDigit {char : Char} (digit : char.isDigit = true) :
    isDecimalDigit char = true := by
  obtain ⟨least, greatest⟩ := Char.isDigit_iff_toNat.mp digit
  exact (CodePoints.has_iff _ _).mpr ⟨(0x30, 0x39), by simp [decimalDigits], least, greatest⟩

theorem signed_unsigned (chars : List Char) :
    signed (Number.unsigned chars).1 (Number.unsigned chars).2 = chars := by
  rw [Number.unsigned.eq_def]
  split <;> rfl

theorem looksNumeric_eq (chars : List Char) : looksNumeric chars =
    (!((Number.unsigned chars).2.takeWhile isDecimalDigit).isEmpty &&
      match (Number.unsigned chars).2.dropWhile isDecimalDigit with
      | [] => true
      | '.' :: digits => !digits.isEmpty && digits.all isDecimalDigit
      | _ => false) := by
  rw [looksNumeric.eq_def]
  split
  · rfl
  · next _ other =>
      have plain : Number.unsigned chars = (false, chars) := by
        rw [Number.unsigned.eq_def]
        split
        · exact absurd rfl (other _)
        · rfl
      exact plain ▸ rfl

theorem looksNumeric_signed (spells : Spells isDecimalDigit whole places) (negative : Bool) :
    looksNumeric (signed negative (joined whole places)) = true := by
  have nonempty := spells.nonempty
  rw [looksNumeric_eq, spells.unsigned_signed (by decide)]
  dsimp only
  rw [takeWhile_joined spells.whole_digits (by decide),
    dropWhile_joined spells.whole_digits (by decide)]
  cases places with
  | nil => simpa using nonempty
  | cons first rest => simpa [nonempty] using spells.places_digits

theorem looksNumeric_of_spells (spells : Spells Char.isDigit whole places) (negative : Bool) :
    looksNumeric (signed negative (joined whole places)) = true :=
  looksNumeric_signed (spells.mono fun _ => isDecimalDigit_of_isDigit) negative

theorem exists_of_looksNumeric (looks : looksNumeric chars = true) :
    ∃ negative whole places, chars = signed negative (joined whole places) ∧
      Spells isDecimalDigit whole places := by
  rw [looksNumeric_eq, Bool.and_eq_true] at looks
  obtain ⟨before, after⟩ := looks
  have nonempty : (Number.unsigned chars).2.takeWhile isDecimalDigit ≠ [] := by simpa using before
  have whole : ∀ char ∈ (Number.unsigned chars).2.takeWhile isDecimalDigit,
      isDecimalDigit char = true := fun _ member => List.mem_takeWhile_imp member
  have parts := List.takeWhile_append_dropWhile (p := isDecimalDigit)
    (l := (Number.unsigned chars).2)
  have text := signed_unsigned chars
  rw [← parts] at text
  generalize (Number.unsigned chars).2.takeWhile isDecimalDigit = digits at nonempty whole text
  split at after
  · next none =>
      rw [none] at text
      exact ⟨_, digits, [], by simpa [joined] using text.symm, nonempty, by simpa using whole⟩
  · next places point =>
      rw [Bool.and_eq_true, List.all_eq_true] at after
      rw [point] at text
      have some : places ≠ [] := by simpa using after.1
      refine ⟨_, digits, places, by simpa [joined, some] using text.symm, nonempty, ?_⟩
      intro char member
      exact (List.mem_append.mp member).elim (whole char) (after.2 char)
  · cases after

end Looks

/-! Numbers that are spelled. -/

theorem Decimal.Spells.all_isDigit_iff {whole places : List Char}
    (spells : Spells isDecimalDigit whole places) :
    (whole ++ places).all Char.isDigit = true ↔ Spells Char.isDigit whole places := by
  rw [List.all_eq_true]
  exact ⟨fun all => ⟨spells.nonempty, all⟩, Spells.digits⟩

namespace Number

variable {whole places : List Char}

def wholeOf (negative : Bool) (whole : List Char) : Int :=
  if negative then -(Nat.ofDigitChars 10 whole 0 : Int) else Nat.ofDigitChars 10 whole 0

theorem cast_wholeOf (negative : Bool) (whole : List Char) :
    (wholeOf negative whole : ℚ) = rational negative whole [] := by
  cases negative <;> simp [wholeOf, rational, magnitude]

theorem spelled?_whole_iff (spells : Spells isDecimalDigit whole []) {negative : Bool}
    {number : Number} : spelled? (signed negative (joined whole [])) = some number ↔
      Spells Char.isDigit whole [] ∧ ∃ fits, number = integer (wholeOf negative whole) fits := by
  have point := spells.point_mem_iff (by decide) negative
  have alone : joined whole [] = whole := by simp [joined]
  have read : spelled? (signed negative (joined whole [])) =
      if whole.all Char.isDigit then ofInt? (wholeOf negative whole) else none := by
    rw [spelled?, if_neg (by simpa using point), integerOf?, spells.unsigned_signed (by decide),
      alone]
    rfl
  have ascii := spells.all_isDigit_iff
  rw [List.append_nil] at ascii
  rw [read, ← ascii]
  split
  · next all => rw [ofInt?_eq_some_iff, and_iff_right all]
  · next some => exact iff_of_false (by simp) fun both => some both.1

theorem spelled?_point_iff (spells : Spells isDecimalDigit whole places) (fraction : places ≠ [])
    {negative : Bool} {number : Number} :
    spelled? (signed negative (joined whole places)) = some number ↔
      Spells Char.isDigit whole places ∧
        ∃ found, number = double found ∧
          Double.ofDecimal? negative (Nat.ofDigitChars 10 (whole ++ places) 0) (-places.length) =
            some found ∧
          found.chars .plain = plainForm (signed negative (joined whole places)) := by
  have point := (spells.point_mem_iff (by decide) negative).mpr fraction
  have before := spells.before_point (by decide)
  rw [spelled?, if_pos (by simpa using point), doubleOf?, spells.unsigned_signed (by decide)]
  dsimp only
  rw [takeWhile_joined before rfl, drop_dropWhile_joined before rfl, ← List.all_append,
    ← spells.all_isDigit_iff]
  split
  · next all =>
      rw [and_iff_right all]
      cases Double.ofDecimal? negative (Nat.ofDigitChars 10 (whole ++ places) 0)
          (-places.length) with
      | none => simp
      | some found => simp [and_comm, eq_comm (a := number)]
  · next some => exact iff_of_false (by simp) fun both => some both.1

theorem fitsWord_iff (value : Int) :
    FitsWord value ↔ -2 ^ 63 ≤ (value : ℚ) ∧ (value : ℚ) ≤ 2 ^ 64 - 1 := by
  have least : -2 ^ 63 ≤ (value : ℚ) ↔ -2 ^ 63 ≤ value := by exact_mod_cast Iff.rfl
  have greatest : (value : ℚ) ≤ 2 ^ 64 - 1 ↔ value ≤ 2 ^ 64 - 1 := by exact_mod_cast Iff.rfl
  rw [FitsWord, least, greatest]
  omega

theorem means_of_spelled? (spells : Spells isDecimalDigit whole places) {negative : Bool}
    {number : Number} (found : spelled? (signed negative (joined whole places)) = some number) :
    Spells Char.isDigit whole places ∧ number.Means (rational negative whole places) := by
  by_cases alone : places = []
  · subst alone
    obtain ⟨ascii, fits, rfl⟩ := (spelled?_whole_iff spells).mp found
    exact ⟨ascii, cast_wholeOf negative whole⟩
  · obtain ⟨ascii, double, rfl, -, text⟩ := (spelled?_point_iff spells alone).mp found
    refine ⟨ascii, ?_⟩
    rw [Means, text]
    exact (Denotes.spelled negative ascii).plainForm

theorem exists_spelled?_whole (spells : Spells Char.isDigit whole []) (negative : Bool) :
    (∃ number, spelled? (signed negative (joined whole [])) = some number) ↔
      -2 ^ 63 ≤ rational negative whole [] ∧ rational negative whole [] ≤ 2 ^ 64 - 1 := by
  have looks := spells.mono fun _ => isDecimalDigit_of_isDigit
  rw [← cast_wholeOf, ← fitsWord_iff]
  constructor
  · rintro ⟨number, found⟩
    obtain ⟨-, fits, -⟩ := (spelled?_whole_iff looks).mp found
    exact fits
  · exact fun fits => ⟨_, (spelled?_whole_iff looks).mpr ⟨spells, fits, rfl⟩⟩

theorem exists_spelled?_point (spells : Spells Char.isDigit whole places) (fraction : places ≠ [])
    (negative : Bool) :
    (∃ number, spelled? (signed negative (joined whole places)) = some number) ↔
      ∃ double : Double, Denotes (double.chars .plain) (rational negative whole places) := by
  have looks := spells.mono fun _ => isDecimalDigit_of_isDigit
  constructor
  · rintro ⟨number, found⟩
    obtain ⟨-, double, rfl, -⟩ := (spelled?_point_iff looks fraction).mp found
    exact ⟨double, (means_of_spelled? looks found).2⟩
  · rintro ⟨double, denotes⟩
    obtain ⟨found, read, text⟩ := Double.ofDecimal?_of_denotes spells denotes
    exact ⟨_, (spelled?_point_iff looks fraction).mpr ⟨spells, found, rfl, read, text⟩⟩

end Number

/-! Texts. -/

namespace Scalar

theorem coerced_eq_number_iff {chars : List Char} {value : Number} :
    coerced chars = number value ↔
      Text.looksNumeric chars = true ∧ Number.spelled? chars = some value := by
  rw [coerced]
  by_cases looks : Text.looksNumeric chars = true
  · rw [if_pos looks]
    cases Number.spelled? chars <;> simp [looks]
  · simp [looks]

theorem ofJson?_text (written : String) :
    ofJson? false (.text written) =
      if (trim written.toList).isEmpty then none else some (coerced (trim written.toList)) := rfl

theorem ofJson?_eq_number_iff {written : String} {value : Number} :
    ofJson? false (.text written) = some (number value) ↔
      Text.looksNumeric (trim written.toList) = true ∧
        Number.spelled? (trim written.toList) = some value := by
  rw [ofJson?_text, ← coerced_eq_number_iff]
  split
  · next blank =>
      have plain : Text.looksNumeric [] = false := by decide
      rw [List.isEmpty_iff.mp blank, coerced_eq_number_iff, plain]
      simp
  · rw [Option.some.injEq]

theorem coerced_of_not_number {chars : List Char}
    (other : ∀ value, coerced chars ≠ number value) :
    coerced chars = text (String.ofList chars) := by
  rw [coerced] at other ⊢
  split
  · next value found => exact absurd (by rw [found]) (other value)
  · rfl

theorem exists_rational {written : String} {value : Number}
    (made : ofJson? false (.text written) = some (number value)) :
    ∃ rational, (∀ other, Denotes (trim written.toList) other ↔ other = rational) ∧
      value.Means rational := by
  obtain ⟨looks, found⟩ := ofJson?_eq_number_iff.mp made
  obtain ⟨negative, whole, places, same, spells⟩ := exists_of_looksNumeric looks
  rw [same] at found ⊢
  obtain ⟨ascii, means⟩ := Number.means_of_spelled? spells found
  refine ⟨_, fun other => ⟨fun denotes => denotes.unique (.spelled negative ascii), ?_⟩, means⟩
  rintro rfl
  exact .spelled negative ascii

section Becomes

variable {chars : List Char} {value : ℚ}

theorem exists_number_iff_of_whole (denotes : Denotes chars value) (pointless : '.' ∉ chars) :
    (∃ number, Text.looksNumeric chars = true ∧ Number.spelled? chars = some number) ↔
      -2 ^ 63 ≤ value ∧ value ≤ 2 ^ 64 - 1 := by
  cases denotes with
  | @spelled negative whole places spells =>
      have alone : places = [] := by
        simpa using mt (spells.point_mem_iff rfl negative).mpr pointless
      subst alone
      simp only [looksNumeric_of_spells spells, true_and]
      exact Number.exists_spelled?_whole spells negative

theorem exists_number_iff_of_point (denotes : Denotes chars value) (point : '.' ∈ chars) :
    (∃ number, Text.looksNumeric chars = true ∧ Number.spelled? chars = some number) ↔
      ∃ double : Double, Denotes (double.chars .plain) value := by
  cases denotes with
  | @spelled negative whole places spells =>
      have fraction := (spells.point_mem_iff rfl negative).mp point
      simp only [looksNumeric_of_spells spells, true_and]
      exact Number.exists_spelled?_point spells fraction negative

end Becomes

/-- A text on a field that is not exact becomes a number only if it denotes a rational, and the
number stands for that rational. Without a point, it becomes a number when a word holds its value,
and with a point, when a double spells it. Any other text is kept but for the blanks around it. -/
theorem coercion_keeps_value (written : String) :
    (∀ value, ofJson? false (.text written) = some (number value) →
      ∃ rational, (∀ other, Denotes (trim written.toList) other ↔ other = rational) ∧
        value.Means rational) ∧
    (∀ rational, Denotes (trim written.toList) rational → '.' ∉ trim written.toList →
      ((∃ value, ofJson? false (.text written) = some (number value)) ↔
        -2 ^ 63 ≤ rational ∧ rational ≤ 2 ^ 64 - 1)) ∧
    (∀ rational, Denotes (trim written.toList) rational → '.' ∈ trim written.toList →
      ((∃ value, ofJson? false (.text written) = some (number value)) ↔
        ∃ double : Double, Denotes (double.chars .plain) rational)) ∧
    (trim written.toList ≠ [] →
      (∀ value, ofJson? false (.text written) ≠ some (number value)) →
        ofJson? false (.text written) = some (text (String.ofList (trim written.toList)))) := by
  refine ⟨fun value => exists_rational, ?_, ?_, ?_⟩
  · intro rational denotes pointless
    simp only [ofJson?_eq_number_iff]
    exact exists_number_iff_of_whole denotes pointless
  · intro rational denotes point
    simp only [ofJson?_eq_number_iff]
    exact exists_number_iff_of_point denotes point
  · intro solid other
    rw [ofJson?_text, if_neg (by simpa using solid)] at other ⊢
    rw [coerced_of_not_number fun value same => other value (congrArg some same)]

/-- A double spells the first of these decimals, and none spells the second. -/
example : (coerced "-007.250".toList).isNumber = true ∧
    (coerced "0.12345678901234567890".toList).isNumber = false := by
  decide +kernel

end Scalar

end SearchFilter
