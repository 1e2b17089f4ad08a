import SearchFilter.Decimal.Double

/-!
The quick reading of decimals. As many digits as a word holds are rounded to a double, and that is
scaled by a rounded power of ten. The result may be a little beside the nearest double.
-/

namespace SearchFilter.Decimal

def wordDigits (value : Nat) : List Char → Nat × Nat
  | [] => (value, 0)
  | digit :: digits =>
    let longer := 10 * value + (digit.toNat - '0'.toNat)
    if longer < 0x10000000000000000 then
      let (all, taken) := wordDigits longer digits
      (all, taken + 1)
    else (value, 0)

namespace Double

def tenTo? (exponent : Int) : Option Double := ofDecimal? false 1 exponent

def product? (first second : Double) : Option Double :=
  nearest? first.negative (first.multiple * second.multiple) (1 <<< 2148)

def quotient? (numerator denominator : Double) : Option Double :=
  nearest? numerator.negative numerator.multiple denominator.multiple

/-- A double scaled by a power of ten. Below the least power it is scaled in steps of that power;
two steps make nothing of any double that a word rounds to, so few rounds are enough. -/
def scaled? : Nat → Double → Int → Option Double
  | 0, double, _ => some double
  | rounds + 1, double, exponent =>
    if double.bits = 0 then some double
    else if 308 < exponent then none
    else if 0 ≤ exponent then (tenTo? exponent).bind double.product?
    else if -308 ≤ exponent then (tenTo? (-exponent)).bind double.quotient?
    else do
      let smaller ← (tenTo? 308).bind double.quotient?
      scaled? rounds smaller (exponent + 308)

/-- The double that is read for digits with a point between them and an exponent. Digits past the
word are dropped, and those of the whole part raise the exponent. -/
def ofDigits? (negative : Bool) (whole places : List Char) (exponent : Int) : Option Double := do
  let (head, kept) := wordDigits 0 whole
  let (digits, added) := wordDigits head places
  let start ← nearest? negative digits 1
  scaled? 3 start (exponent + (whole.length - kept : Nat) - added)

theorem scaled?_zero (rounds : Nat) (negative : Bool) (exponent : Int) :
    scaled? rounds (zero negative) exponent = some (zero negative) := by
  cases rounds <;> simp [scaled?, zero]

end Double

end SearchFilter.Decimal
