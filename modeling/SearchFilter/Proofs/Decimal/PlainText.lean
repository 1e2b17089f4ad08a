import Mathlib.Tactic.Linarith
import Mathlib.Tactic.NormNum
import SearchFilter.Proofs.Decimal.Spelling

/-!
The plain texts of doubles. Plain spellings of one rational are the same, so a decimal that denotes
what the plain text of a double denotes is read as that double, and has that text as its plain form.
-/

namespace SearchFilter.Decimal

open Json5 (Whole isDigit_padded ofDigitChars_padded length_padded length_drop_padded)

structure IsPlain (whole places : List Char) : Prop where
  whole : Whole whole
  fraction : ∀ char ∈ places, char.isDigit = true
  last : places.getLast? ≠ some '0'

theorem IsPlain.spells {whole places : List Char} (plain : IsPlain whole places) :
    Spells Char.isDigit whole places := by
  refine ⟨plain.whole.nonempty, ?_⟩
  intro char member
  rcases List.mem_append.mp member with before | after
  · exact plain.whole.digits char before
  · exact plain.fraction char after

/-! Plain forms are plain. -/

theorem head?_dropWhile_zero (chars : List Char) :
    (chars.dropWhile (· == '0')).head? ≠ some '0' := by
  intro zero
  have first := List.head?_dropWhile_not (· == '0') chars
  rw [zero] at first
  simp at first

theorem Spells.isPlain {whole places : List Char} (spells : Spells Char.isDigit whole places) :
    IsPlain (plainWhole whole) (plainPlaces places) := by
  refine ⟨⟨spells.plain.whole_digits, spells.plain.nonempty, ?_⟩, spells.plain.places_digits, ?_⟩
  · rw [plainWhole]
    split
    · exact .inl rfl
    · exact .inr (head?_dropWhile_zero whole)
  · rw [plainPlaces, List.getLast?_reverse]
    exact head?_dropWhile_zero places.reverse

/-! The digits of a number. -/

theorem exists_digitChar {char : Char} (digit : char.isDigit = true) :
    ∃ value < 10, char = Nat.digitChar value := by
  obtain ⟨least, greatest⟩ := Char.isDigit_iff_toNat.mp digit
  change 48 ≤ char.toNat at least
  change char.toNat ≤ 57 at greatest
  refine ⟨char.toNat - 48, by omega, Char.toNat_inj.mp ?_⟩
  rw [Nat.toNat_digitChar_of_lt_ten (by omega)]
  omega

section Digits

variable {chars : List Char}

theorem toDigits_ofDigitChars (digits : ∀ char ∈ chars, char.isDigit = true) {initial : Nat}
    (positive : 0 < initial) :
    Nat.toDigits 10 (Nat.ofDigitChars 10 chars initial) = Nat.toDigits 10 initial ++ chars := by
  induction chars generalizing initial with
  | nil => rw [Nat.ofDigitChars_nil, List.append_nil]
  | cons first rest ih =>
      obtain ⟨value, small, rfl⟩ := exists_digitChar (digits first List.mem_cons_self)
      have more : 0 < 10 * initial + value := by omega
      have step : Nat.toDigits 10 (10 * initial + value) =
          Nat.toDigits 10 initial ++ [Nat.digitChar value] := by
        rw [← Nat.toDigits_of_lt_base small]
        exact (Nat.toDigits_append_toDigits (by decide) positive small).symm
      rw [Nat.ofDigitChars_cons_digitChar_of_lt_ten small,
        ih (fun char member => digits char (List.mem_cons_of_mem _ member)) more, step,
        List.append_assoc, List.singleton_append]

theorem toDigits_of_whole (whole : Whole chars) :
    Nat.toDigits 10 (Nat.ofDigitChars 10 chars 0) = chars := by
  cases chars with
  | nil => exact absurd rfl whole.nonempty
  | cons first rest =>
      obtain ⟨value, small, rfl⟩ := exists_digitChar (whole.digits first List.mem_cons_self)
      rw [Nat.ofDigitChars_cons_digitChar_of_lt_ten small, Nat.mul_zero, Nat.zero_add]
      rcases Nat.eq_zero_or_pos value with rfl | positive
      · have alone : rest = [] := by simpa [Nat.digitChar] using whole.plain
        rw [alone]
        rfl
      · rw [toDigits_ofDigitChars
          (fun char member => whole.digits char (List.mem_cons_of_mem _ member)) positive,
          Nat.toDigits_of_lt_base small, List.singleton_append]

theorem ofDigitChars_lt (digits : ∀ char ∈ chars, char.isDigit = true) (initial : Nat) :
    Nat.ofDigitChars 10 chars initial < 10 ^ chars.length * (initial + 1) := by
  induction chars generalizing initial with
  | nil => simp
  | cons first rest ih =>
      obtain ⟨value, small, rfl⟩ := exists_digitChar (digits first List.mem_cons_self)
      have tail := ih (fun char member => digits char (List.mem_cons_of_mem _ member))
        (10 * initial + value)
      rw [Nat.ofDigitChars_cons_digitChar_of_lt_ten small, List.length_cons, Nat.pow_succ,
        Nat.mul_assoc]
      exact Nat.lt_of_lt_of_le tail (Nat.mul_le_mul_left _ (by omega))

theorem eq_of_ofDigitChars_eq {others : List Char}
    (digits : ∀ char ∈ chars, char.isDigit = true)
    (otherDigits : ∀ char ∈ others, char.isDigit = true) (length : chars.length = others.length)
    (same : Nat.ofDigitChars 10 chars 0 = Nat.ofDigitChars 10 others 0) : chars = others := by
  have led : Nat.ofDigitChars 10 chars 1 = Nat.ofDigitChars 10 others 1 := by
    rw [Nat.ofDigitChars_eq_ofDigitChars_zero, same, length,
      ← Nat.ofDigitChars_eq_ofDigitChars_zero]
  have written := congrArg (Nat.toDigits 10) led
  rw [toDigits_ofDigitChars digits Nat.one_pos, toDigits_ofDigitChars otherDigits Nat.one_pos]
    at written
  exact List.append_cancel_left written

end Digits

/-! Plain spellings. -/

section Plain

variable {whole places otherWhole otherPlaces : List Char}

theorem magnitude_eq_iff : magnitude whole places = magnitude otherWhole otherPlaces ↔
    Nat.ofDigitChars 10 (whole ++ places) 0 * 10 ^ otherPlaces.length =
      Nat.ofDigitChars 10 (otherWhole ++ otherPlaces) 0 * 10 ^ places.length := by
  rw [magnitude, magnitude, div_eq_div_iff (by positivity) (by positivity)]
  exact_mod_cast Iff.rfl

theorem IsPlain.length_le (plain : IsPlain whole places)
    (same : magnitude whole places = magnitude otherWhole otherPlaces) :
    places.length ≤ otherPlaces.length := by
  by_contra more
  obtain ⟨zeros, longer⟩ := Nat.exists_eq_add_of_lt (Nat.lt_of_not_le more)
  have digits := magnitude_eq_iff.mp same
  rw [longer, Nat.add_assoc, Nat.pow_add, Nat.mul_comm (10 ^ otherPlaces.length),
    ← Nat.mul_assoc] at digits
  -- With more places than the other spelling, the digits would be a multiple of ten.
  have tens := Nat.mul_right_cancel (Nat.pow_pos (by decide)) digits
  rcases List.eq_nil_or_concat' places with rfl | ⟨front, last, rfl⟩
  · simp at longer
  · obtain ⟨value, small, rfl⟩ := exists_digitChar (plain.fraction last (by simp))
    have positive : value ≠ 0 := by
      rintro rfl
      exact plain.last (by simp [Nat.digitChar])
    rw [← List.append_assoc, Nat.ofDigitChars_append,
      Nat.ofDigitChars_cons_digitChar_of_lt_ten small, Nat.ofDigitChars_nil, Nat.pow_succ,
      ← Nat.mul_assoc] at tens
    omega

theorem IsPlain.unique (plain : IsPlain whole places) (other : IsPlain otherWhole otherPlaces)
    (same : magnitude whole places = magnitude otherWhole otherPlaces) :
    whole = otherWhole ∧ places = otherPlaces := by
  have length := Nat.le_antisymm (plain.length_le same) (other.length_le same.symm)
  have digits := magnitude_eq_iff.mp same
  rw [length] at digits
  replace digits := Nat.mul_right_cancel (Nat.pow_pos (by decide)) digits
  rw [Nat.ofDigitChars_append, Nat.ofDigitChars_append, Nat.ofDigitChars_eq_ofDigitChars_zero,
    Nat.ofDigitChars_eq_ofDigitChars_zero (l := otherPlaces), length] at digits
  have below := ofDigitChars_lt plain.fraction 0
  have otherBelow := ofDigitChars_lt other.fraction 0
  rw [length] at below
  have wholes : Nat.ofDigitChars 10 whole 0 = Nat.ofDigitChars 10 otherWhole 0 := by
    have quotient := congrArg (· / 10 ^ otherPlaces.length) digits
    simpa [Nat.mul_add_div, Nat.div_eq_of_lt (by simpa using below),
      Nat.div_eq_of_lt (by simpa using otherBelow)] using quotient
  rw [wholes] at digits
  refine ⟨?_, eq_of_ofDigitChars_eq plain.fraction other.fraction length
    (Nat.add_left_cancel digits)⟩
  rw [← toDigits_of_whole plain.whole, wholes, toDigits_of_whole other.whole]

end Plain

/-! The texts of numerals. -/

def Numeral.rational (decimal : Numeral) : ℚ := decimal.digits * 10 ^ decimal.exponent

theorem getLast?_toDigits (value : Nat) :
    (Nat.toDigits 10 value).getLast? = some (Nat.digitChar (value % 10)) := by
  by_cases small : value < 10
  · rw [Nat.toDigits_of_lt_base small, Nat.mod_eq_of_lt small]
    rfl
  · rw [Nat.toDigits_of_base_le (by decide) (by omega)]
    simp

theorem Numeral.positional_plain {decimal : Numeral}
    (zero : decimal.digits = 0 → decimal.exponent = 0)
    (last : decimal.digits ≠ 0 → decimal.digits % 10 ≠ 0) :
    ∃ whole places, decimal.positional [] = joined whole places ∧ IsPlain whole places ∧
      magnitude whole places = decimal.rational := by
  obtain ⟨digits, exponent⟩ := decimal
  dsimp only at zero last
  by_cases integral : 0 ≤ exponent
  · obtain ⟨zeros, rfl⟩ := Int.eq_ofNat_of_zero_le integral
    have whole : Whole (Nat.toDigits 10 digits ++ List.replicate zeros '0') :=
      Whole.toDigits_zeros fun none => Int.ofNat_eq_zero.mp (zero none)
    refine ⟨_, [], ?_, ⟨whole, by simp, by simp⟩, ?_⟩
    · simp [positional, joined]
    · simp [magnitude, rational, Nat.ofDigitChars_append, Nat.ofDigitChars_replicate_zero,
        mul_comm]
  · obtain ⟨places, rfl⟩ : ∃ places : Nat, exponent = -(places : Int) :=
      ⟨(-exponent).toNat, by omega⟩
    have positive : 0 < digits := by
      refine Nat.pos_of_ne_zero fun none => integral ?_
      exact Int.le_of_eq (zero none).symm
    generalize filled : List.replicate (places + 1 - (Nat.toDigits 10 digits).length) '0' ++
      Nat.toDigits 10 digits = padded
    replace filled := filled.symm
    have length := length_padded filled
    have behind := length_drop_padded filled
    have point : padded.drop (padded.length - places) ≠ [] := by
      refine List.ne_nil_of_length_pos ?_
      omega
    refine ⟨padded.take (padded.length - places), padded.drop (padded.length - places), ?_,
      ⟨Whole.take_padded filled positive, ?_, ?_⟩, ?_⟩
    · rw [positional, if_neg integral]
      simp only [Int.neg_neg, Int.toNat_natCast, ← filled]
      rw [joined, if_neg (by simpa using point)]
    · exact fun char member => isDigit_padded filled char (List.mem_of_mem_drop member)
    · rw [List.getLast?_drop, if_neg (by omega), filled, List.getLast?_append,
        getLast?_toDigits]
      simpa [Nat.digitChar_eq_zero] using last (Nat.ne_of_gt positive)
    · rw [magnitude, List.take_append_drop, ofDigitChars_padded filled, behind, rational,
        zpow_neg, zpow_natCast, div_eq_mul_inv]

theorem Numeral.normalized_last (decimal : Numeral) :
    decimal.normalized.digits ≠ 0 → decimal.normalized.digits % 10 ≠ 0 := by
  induction decimal using normalized.induct with
  | case1 decimal divisible ih =>
      rw [normalized, if_pos divisible]
      exact ih
  | case2 decimal indivisible =>
      rw [normalized, if_neg indivisible]
      exact fun nonzero divides => indivisible ⟨nonzero, divides⟩

/-! The texts of doubles. -/

namespace Double

theorem shortest_last (double : Double) (tie : Tie) :
    (double.shortest tie).digits ≠ 0 → (double.shortest tie).digits % 10 ≠ 0 := by
  rw [shortest]
  split
  · exact fun nonzero => absurd rfl nonzero
  · exact Numeral.normalized_last _

theorem chars_plain (double : Double) :
    ∃ whole places, double.chars .plain = signed double.negative (joined whole places) ∧
      IsPlain whole places ∧ magnitude whole places = (double.shortest .upward).rational := by
  obtain ⟨whole, places, text, plain, value⟩ :=
    Numeral.positional_plain (Json5.shortest_zero .upward) (double.shortest_last .upward)
  exact ⟨whole, places, congrArg (signed double.negative) text, plain, value⟩

end Double

namespace Numeral

variable {first second : Numeral}

theorem rational_pos_iff {decimal : Numeral} : 0 < decimal.rational ↔ 0 < decimal.digits := by
  have unit : (0 : ℚ) < 10 ^ decimal.exponent := zpow_pos (by norm_num) _
  rw [rational, mul_pos_iff_of_pos_right unit, Nat.cast_pos]

theorem read?_of_finer (finer : first.exponent ≤ second.exponent)
    (same : first.rational = second.rational) (positive : 0 < second.digits) (negative : Bool) :
    first.read? negative = second.read? negative := by
  obtain ⟨zeros, exponent⟩ := Int.exists_add_of_le finer
  have digits : first.digits = 10 ^ zeros * second.digits := by
    rw [rational, rational, exponent, zpow_add₀ (by norm_num), zpow_natCast, mul_comm (10 ^ _),
      ← mul_assoc] at same
    have cancelled := mul_right_cancel₀ (zpow_ne_zero _ (by norm_num)) same
    rw [mul_comm]
    exact_mod_cast cancelled
  have shifted : first.exponent = second.exponent - zeros := by omega
  rw [read?, read?, digits, shifted, Double.ofDecimal?_mul_pow negative positive]

theorem read?_congr (same : first.rational = second.rational) (positive : 0 < first.digits)
    (negative : Bool) : first.read? negative = second.read? negative := by
  rcases Int.le_total first.exponent second.exponent with finer | coarser
  · have other : 0 < second.digits := rational_pos_iff.mp (same ▸ rational_pos_iff.mpr positive)
    exact read?_of_finer finer same other negative
  · exact (read?_of_finer coarser same.symm positive negative).symm

end Numeral

section Read

variable {double : Double} {negative other : Bool} {whole places otherWhole otherPlaces : List Char}

theorem magnitude_eq_rational (whole places : List Char) : magnitude whole places =
    Numeral.rational ⟨Nat.ofDigitChars 10 (whole ++ places) 0, -places.length⟩ := by
  rw [magnitude, Numeral.rational, zpow_neg, zpow_natCast, div_eq_mul_inv]

theorem Double.chars_eq_plainForm (spells : Spells Char.isDigit whole places)
    (value : (double.shortest .upward).rational = magnitude whole places) :
    double.chars .plain = Number.plainForm (signed double.negative (joined whole places)) := by
  obtain ⟨before, after, text, plain, same⟩ := double.chars_plain
  have forms := plain.unique spells.isPlain (by rw [same, value, magnitude_plain])
  rw [plainForm_signed spells, text, forms.1, forms.2]

theorem sign_of_rational_eq (positive : 0 < magnitude whole places)
    (same : rational negative whole places = rational other otherWhole otherPlaces) :
    negative = other ∧ magnitude whole places = magnitude otherWhole otherPlaces := by
  have least : 0 ≤ magnitude otherWhole otherPlaces :=
    div_nonneg (Nat.cast_nonneg _) (by positivity)
  cases negative <;> cases other <;> simp only [rational, Bool.false_eq_true, if_false, if_true]
    at same
  · exact ⟨rfl, same⟩
  · linarith
  · linarith
  · exact ⟨rfl, neg_injective same⟩

/-- A decimal that a double spells is read as a double that spells it. -/
theorem Double.ofDecimal?_of_denotes (spells : Spells Char.isDigit whole places)
    (denotes : Denotes (double.chars .plain) (rational negative whole places)) :
    ∃ found, Double.ofDecimal? negative (Nat.ofDigitChars 10 (whole ++ places) 0)
        (-places.length) = some found ∧
      found.chars .plain = Number.plainForm (signed negative (joined whole places)) := by
  rcases Nat.eq_zero_or_pos (Nat.ofDigitChars 10 (whole ++ places) 0) with none | positive
  -- A zero is read with the sign of the text, which need not be that of the given double.
  · have value : ((Double.zero negative).shortest .upward).rational = magnitude whole places := by
      rw [magnitude, none]
      simp [Double.shortest, Double.zero, Numeral.rational]
    rw [none, ofDecimal?_zero]
    exact ⟨_, rfl, Double.chars_eq_plainForm spells value⟩
  · obtain ⟨before, after, text, plain, shortest⟩ := double.chars_plain
    have above : 0 < magnitude whole places := by
      rw [magnitude_eq_rational]
      exact Numeral.rational_pos_iff.mpr positive
    rw [text] at denotes
    obtain ⟨rfl, same⟩ :=
      sign_of_rational_eq above (denotes.unique (.spelled double.negative plain.spells))
    have value : (double.shortest .upward).rational = magnitude whole places := by
      rw [← shortest, same]
    refine ⟨double, ?_, Double.chars_eq_plainForm spells value⟩
    rw [magnitude_eq_rational] at value
    rw [← double.shortest_reads_back .upward]
    exact Numeral.read?_congr value.symm positive double.negative

end Read

end SearchFilter.Decimal
