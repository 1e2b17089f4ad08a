import Mathlib.Algebra.Group.Nat.Defs
import SearchFilter.Decimal.Shortest

/-!
The shortest decimal of a double reads back as that double. One that was found on a grid was tried
with the reader; the exact decimal is a fraction that no rounding changes.
-/

namespace SearchFilter.Decimal

namespace Double

/-! Fractions. -/

theorem roundedDiv_mul_right {factor : Nat} (positive : 0 < factor) (numerator denominator : Nat) :
    roundedDiv (numerator * factor) (denominator * factor) = roundedDiv numerator denominator := by
  have quotient : numerator * factor / (denominator * factor) = numerator / denominator :=
    Nat.mul_div_mul_right _ _ positive
  have remainder : numerator * factor % (denominator * factor) = numerator % denominator * factor :=
    Nat.mul_mod_mul_right ..
  have less : 2 * (numerator % denominator * factor) < denominator * factor ↔
      2 * (numerator % denominator) < denominator := by
    rw [← Nat.mul_assoc]
    exact Nat.mul_lt_mul_right positive
  have same : 2 * (numerator % denominator * factor) = denominator * factor ↔
      2 * (numerator % denominator) = denominator := by
    rw [← Nat.mul_assoc]
    exact Nat.mul_right_cancel_iff positive
  simp only [roundedDiv, quotient, remainder, less, same]

theorem roundedDiv_mul_self {denominator : Nat} (positive : 0 < denominator) (quotient : Nat) :
    roundedDiv (quotient * denominator) denominator = quotient := by
  rw [roundedDiv, Nat.mul_mod_left, Nat.mul_div_cancel _ positive]
  exact if_pos positive

theorem nearest?_mul_right {factor : Nat} (positive : 0 < factor) (negative : Bool)
    (numerator denominator : Nat) :
    nearest? negative (numerator * factor) (denominator * factor) =
      nearest? negative numerator denominator := by
  have scaled : (numerator * factor) <<< 1074 = numerator <<< 1074 * factor := by
    rw [Nat.shiftLeft_eq, Nat.shiftLeft_eq, Nat.mul_right_comm]
  have unit (power : Nat) : (denominator * factor) <<< power = denominator <<< power * factor := by
    rw [Nat.shiftLeft_eq, Nat.shiftLeft_eq, Nat.mul_right_comm]
  simp only [nearest?, scaled, unit, roundedDiv_mul_right positive,
    Nat.mul_div_mul_right _ _ positive]

/-! The exact decimal. -/

variable {double : Double}

theorem power_eq_zero (subnormal : double.bits < leastNormal) : double.power = 0 := by
  rw [power, Nat.div_eq_of_lt subnormal]

theorem power_add_one (normal : leastNormal ≤ double.bits) :
    double.power + 1 = double.bits / leastNormal := by
  have positive : 0 < double.bits / leastNormal := Nat.div_pos normal (by decide)
  rw [power]
  omega

/-- The bits are the significand, and the exponent above its leading bit. -/
theorem power_mul_add_significand (double : Double) :
    double.power * leastNormal + double.significand = double.bits := by
  rw [significand]
  split
  · rename_i subnormal
    rw [power_eq_zero subnormal, Nat.zero_mul, Nat.zero_add]
  · rename_i normal
    have exponent := power_add_one (Nat.le_of_not_lt normal)
    have whole := Nat.div_add_mod double.bits leastNormal
    rw [← exponent, Nat.mul_comm, Nat.add_one_mul] at whole
    omega

theorem significand_lt (double : Double) : double.significand < 2 ^ 53 := by
  have rest : double.bits % leastNormal < leastNormal := Nat.mod_lt _ (by decide)
  rw [leastNormal] at rest
  rw [significand, leastNormal]
  split <;> omega

theorem log2_multiple (positive : 0 < double.bits) :
    double.multiple.log2 - 52 = double.power := by
  have above := significand_lt double
  by_cases subnormal : double.bits < leastNormal
  · have significand : double.significand = double.bits := if_pos subnormal
    rw [multiple, power_eq_zero subnormal, Nat.shiftLeft_zero, significand]
    have small : double.bits.log2 < 52 := (Nat.log2_lt (by omega)).mpr subnormal
    omega
  · have least : 2 ^ 52 ≤ double.significand := by
      rw [significand, if_neg subnormal]
      exact Nat.le_add_right ..
    have log : double.multiple.log2 = 52 + double.power := by
      rw [multiple, Nat.shiftLeft_eq]
      have nonzero : double.significand * 2 ^ double.power ≠ 0 :=
        Nat.mul_ne_zero (by omega) (Nat.ne_of_gt (Nat.two_pow_pos _))
      refine (Nat.log2_eq_iff nonzero).mpr ⟨?_, ?_⟩
      · rw [Nat.pow_add]
        exact Nat.mul_le_mul_right _ least
      · rw [Nat.add_right_comm, Nat.pow_add]
        exact Nat.mul_lt_mul_of_pos_right above (Nat.two_pow_pos _)
    omega

theorem multiple_pos (positive : 0 < double.bits) : 0 < double.multiple := by
  have least : 0 < double.significand := by
    rw [significand]
    split
    · exact positive
    · exact Nat.add_pos_left (by decide) _
  rw [multiple, Nat.shiftLeft_eq]
  exact Nat.mul_pos least (Nat.two_pow_pos _)

theorem nearest?_multiple (positive : 0 < double.bits) :
    nearest? double.negative double.multiple (1 <<< 1074) = some double := by
  have scaled : double.multiple <<< 1074 / 1 <<< 1074 = double.multiple := by
    simp only [Nat.shiftLeft_eq, Nat.one_mul]
    exact Nat.mul_div_cancel _ (Nat.two_pow_pos 1074)
  have rounded : roundedDiv (double.multiple <<< 1074) ((1 <<< 1074) <<< double.power) =
      double.significand := by
    have same : double.multiple <<< 1074 = double.significand * (1 <<< 1074) <<< double.power := by
      simp only [multiple, Nat.shiftLeft_eq, Nat.one_mul]
      rw [Nat.mul_right_comm, Nat.mul_assoc]
    have unit : 0 < (1 <<< 1074) <<< double.power := by
      rw [Nat.shiftLeft_eq _ double.power]
      exact Nat.mul_pos (by decide +kernel) (Nat.two_pow_pos _)
    rw [same, roundedDiv_mul_self unit]
  have bits := power_mul_add_significand double
  simp only [nearest?, scaled, log2_multiple positive, rounded, bits, double.finite, dif_pos]

/-! Exponents. -/

theorem digitCount_mul_ten {digits : Nat} (positive : 0 < digits) :
    digitCount (10 * digits) = digitCount digits + 1 := by
  have base : 1 < 10 := by decide
  have last : Nat.toDigits 10 digits ++ Nat.toDigits 10 0 = Nat.toDigits 10 (10 * digits) :=
    Nat.toDigits_append_toDigits base positive (by decide)
  rw [digitCount, ← last, List.length_append]
  rfl

theorem powerOfTen_succ (zeros : Nat) : powerOfTen (zeros + 1) = powerOfTen zeros * 10 := rfl

theorem ofDecimal?_mul_ten (negative : Bool) {digits : Nat} (positive : 0 < digits)
    (exponent : Int) :
    ofDecimal? negative (10 * digits) exponent = ofDecimal? negative digits (exponent + 1) := by
  have magnitude : exponent + (digitCount digits + 1 : Nat) =
      exponent + 1 + digitCount digits := by
    omega
  have nonzero : digits ≠ 0 := Nat.ne_of_gt positive
  have longer : 10 * digits ≠ 0 := by omega
  simp only [ofDecimal?, digitCount_mul_ten positive, magnitude, nonzero, longer, if_false]
  split
  · rfl
  split
  · rfl
  by_cases whole : 0 ≤ exponent
  · have next : (exponent + 1).toNat = exponent.toNat + 1 := by omega
    rw [if_pos whole, if_pos (by omega), next, powerOfTen_succ, Nat.mul_comm 10, Nat.mul_assoc,
      Nat.mul_comm 10]
  · obtain ⟨places, rfl⟩ : ∃ places : Nat, exponent = -(places + 1) :=
      ⟨(-exponent - 1).toNat, by omega⟩
    have longest : (-(-((places : Int) + 1))).toNat = places + 1 := by omega
    rw [if_neg whole, longest, powerOfTen_succ, Nat.mul_comm 10,
      nearest?_mul_right (by decide)]
    by_cases last : places = 0
    · subst last
      simp [powerOfTen]
    · have shorter : (-(-((places : Int) + 1) + 1)).toNat = places := by omega
      rw [if_neg (by omega), shorter]

theorem ofDecimal?_mul_pow (negative : Bool) {digits : Nat} (positive : 0 < digits) (zeros : Nat)
    (exponent : Int) :
    ofDecimal? negative (10 ^ zeros * digits) (exponent - zeros) =
      ofDecimal? negative digits exponent := by
  induction zeros generalizing exponent with
  | zero => simp
  | succ zeros ih =>
      have more : 0 < 10 ^ zeros * digits := Nat.mul_pos (Nat.pow_pos (by decide)) positive
      have step : exponent - (zeros + 1 : Nat) + 1 = exponent - zeros := by omega
      rw [Nat.pow_succ', Nat.mul_assoc, ofDecimal?_mul_ten negative more, step, ih]

end Double

namespace Numeral

theorem read?_normalized (decimal : Numeral) (negative : Bool) :
    decimal.normalized.read? negative = decimal.read? negative := by
  induction decimal using normalized.induct with
  | case1 decimal divisible ih =>
      obtain ⟨nonzero, divides⟩ := divisible
      have whole : 10 * (decimal.digits / 10) = decimal.digits := by omega
      have positive : 0 < decimal.digits / 10 := by omega
      rw [normalized, if_pos ⟨nonzero, divides⟩, ih, read?, read?]
      dsimp only
      rw [← Double.ofDecimal?_mul_ten negative positive, whole]
  | case2 decimal indivisible => rw [normalized, if_neg indivisible]

end Numeral

namespace Double

variable {double : Double}

theorem digitCount_le_iff {count value : Nat} (positive : 0 < count) :
    digitCount value ≤ count ↔ value < 10 ^ count :=
  Nat.length_toDigits_le_iff (by decide) positive

theorem power_le (double : Double) : double.power ≤ 2045 := by
  have finite := double.finite
  have exponent : double.bits / leastNormal < 2047 := by
    rw [leastNormal]
    omega
  rw [power]
  omega

theorem multiple_lt {power : Nat} (within : double.power ≤ power) :
    double.multiple < 2 ^ 53 * 2 ^ power := by
  rw [multiple, Nat.shiftLeft_eq]
  exact Nat.mul_lt_mul_of_lt_of_le double.significand_lt
    (Nat.pow_le_pow_right (by decide) within) (Nat.two_pow_pos _)

theorem exactDecimal_digitCount (positive : 0 < double.bits) :
    744 ≤ digitCount double.exactDecimal.digits ∧ digitCount double.exactDecimal.digits ≤ 1384 := by
  have least : 10 ^ 743 ≤ Nat.pow 5 1074 := by decide +kernel
  have greatest : 2 ^ 53 * 2 ^ 2045 * Nat.pow 5 1074 ≤ 10 ^ 1384 := by decide +kernel
  have digits : double.exactDecimal.digits = double.multiple * Nat.pow 5 1074 := rfl
  rw [digits]
  generalize Nat.pow 5 1074 = fives at least greatest
  constructor
  · have enough : 10 ^ 743 ≤ double.multiple * fives :=
      Nat.le_trans least (Nat.le_mul_of_pos_left fives (multiple_pos positive))
    refine Nat.lt_of_not_le ?_
    intro few
    have small := (digitCount_le_iff (by decide)).mp few
    omega
  · refine (digitCount_le_iff (by decide)).mpr ?_
    have positiveFives : 0 < fives := Nat.lt_of_lt_of_le (Nat.pow_pos (by decide)) least
    have bound := multiple_lt double.power_le
    exact Nat.lt_of_lt_of_le (Nat.mul_lt_mul_of_pos_right bound positiveFives) greatest

theorem exactDecimal_reads_back (positive : 0 < double.bits) :
    double.exactDecimal.read? double.negative = some double := by
  obtain ⟨enough, few⟩ := exactDecimal_digitCount positive
  have fives : 0 < Nat.pow 5 1074 := by decide +kernel
  have nonzero : double.exactDecimal.digits ≠ 0 :=
    Nat.ne_of_gt (Nat.mul_pos (multiple_pos positive) fives)
  have exponent : double.exactDecimal.exponent = -1074 := rfl
  have tens : powerOfTen (-(-1074 : Int)).toNat = 1 <<< 1074 * Nat.pow 5 1074 := by decide +kernel
  rw [Numeral.read?, ofDecimal?, exponent, if_neg nonzero, if_neg (by omega), if_neg (by omega),
    if_neg (by decide), tens]
  exact (nearest?_mul_right fives ..).trans (nearest?_multiple positive)

/-- What is written for a double is read as that double. -/
theorem shortest_reads_back (double : Double) (tie : Tie) :
    (double.shortest tie).read? double.negative = some double := by
  rw [shortest]
  by_cases none : double.bits = 0
  · have zero : double = zero double.negative := by
      cases double
      cases none
      rfl
    rw [if_pos none, Numeral.read?, ofDecimal?_zero, ← zero]
  · rw [if_neg none, Numeral.read?_normalized]
    cases found : (List.range 17).findSome? fun (count : Nat) =>
        double.onGrid? tie (double.leading - count) with
    | none => exact exactDecimal_reads_back (Nat.pos_of_ne_zero none)
    | some decimal =>
        obtain ⟨count, -, onGrid⟩ := List.exists_of_findSome?_eq_some found
        exact onGrid?_reads_back double tie _ decimal onGrid

end Double

end SearchFilter.Decimal
