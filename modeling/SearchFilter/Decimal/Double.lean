/-!
Finite numbers of the IEEE format binary64, and the reading of decimals into them. A decimal reads
as the nearest double, of two equally near ones the one with an even last bit.
-/

namespace SearchFilter.Decimal

/-- A finite binary64 number: its sign, and its other 63 bits as a number. Since the exponent
stands above the 52 bits of the fraction, the bits are ordered as the magnitudes are. -/
structure Double where
  negative : Bool
  bits : Nat
  finite : bits < 0x7FF0000000000000
deriving DecidableEq

namespace Double

def zero (negative : Bool) : Double := ⟨negative, 0, by decide⟩

def leastNormal : Nat := 0x10000000000000

def significand (double : Double) : Nat :=
  if double.bits < leastNormal then double.bits else leastNormal + double.bits % leastNormal

def power (double : Double) : Nat := double.bits / leastNormal - 1

/-- The magnitude of a double as a multiple of `2 ^ (-1074)`. -/
def multiple (double : Double) : Nat := double.significand <<< double.power

def roundedDiv (numerator denominator : Nat) : Nat :=
  let quotient := numerator / denominator
  let remainder := numerator % denominator
  if 2 * remainder < denominator then quotient
  else if 2 * remainder = denominator then quotient + quotient % 2
  else quotient + 1

/-- The double nearest to a positive fraction, or nothing when that is beyond the largest double.
A significand that is rounded up to the next power of two carries into the exponent. -/
def nearest? (negative : Bool) (numerator denominator : Nat) : Option Double :=
  let scaled := numerator <<< 1074
  let power := Nat.log2 (scaled / denominator) - 52
  let bits := power * leastNormal + roundedDiv scaled (denominator <<< power)
  if finite : bits < 0x7FF0000000000000 then some ⟨negative, bits, finite⟩ else none

def digitCount (value : Nat) : Nat := (Nat.toDigits 10 value).length

def powerOfTen (zeros : Nat) : Nat := Nat.pow 10 zeros

/-- The double nearest to `digits * 10 ^ exponent`. Exponents beyond all doubles are settled by
size alone, so that no large power is computed for them. -/
def ofDecimal? (negative : Bool) (digits : Nat) (exponent : Int) : Option Double :=
  let magnitude := exponent + digitCount digits
  if digits = 0 then some (zero negative)
  else if 310 < magnitude then none
  else if magnitude < -330 then some (zero negative)
  else if 0 ≤ exponent then nearest? negative (digits * powerOfTen exponent.toNat) 1
  else nearest? negative digits (powerOfTen (-exponent).toNat)

theorem ofDecimal?_zero (negative : Bool) (exponent : Int) :
    ofDecimal? negative 0 exponent = some (zero negative) := by
  simp [ofDecimal?]

theorem nearest?_negative (negative : Bool) (numerator denominator : Nat) (double : Double)
    (found : nearest? negative numerator denominator = some double) :
    double.negative = negative := by
  simp only [nearest?] at found
  split at found
  · cases found
    rfl
  · cases found

end Double

end SearchFilter.Decimal
