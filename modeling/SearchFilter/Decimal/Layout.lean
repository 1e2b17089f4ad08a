import SearchFilter.Decimal.Shortest

/-! The written forms of a double: with a decimal point in place, or with an exponent. -/

namespace SearchFilter.Decimal

structure Layout where
  tie : Tie
  inPlace : Int → Bool
  integral : List Char

namespace Layout

/-- JSON numbers: digits stand in place from `10 ^ (-5)` up to `10 ^ 16`, with at least one digit
after the point. -/
def json : Layout where
  tie := .toEven
  inPlace leading := -5 ≤ leading && leading < 16
  integral := ['.', '0']

/-- Plain numbers: digits always stand in place, and an integral number has no point. -/
def plain : Layout where
  tie := .upward
  inPlace _ := true
  integral := []

end Layout

namespace Numeral

def positional (integral : List Char) (decimal : Numeral) : List Char :=
  let digits := Nat.toDigits 10 decimal.digits
  if 0 ≤ decimal.exponent then
    digits ++ List.replicate decimal.exponent.toNat '0' ++ integral
  else
    let places := (-decimal.exponent).toNat
    let padded := List.replicate (places + 1 - digits.length) '0' ++ digits
    padded.take (padded.length - places) ++ '.' :: padded.drop (padded.length - places)

def scientific (decimal : Numeral) : List Char :=
  let fraction := match Nat.toDigits 10 decimal.digits with
    | first :: second :: rest => first :: '.' :: second :: rest
    | short => short
  let sign := if 0 ≤ decimal.leading then '+' else '-'
  fraction ++ 'e' :: sign :: Nat.toDigits 10 decimal.leading.natAbs

end Numeral

def Double.chars (double : Double) (layout : Layout) : List Char :=
  let decimal := double.shortest layout.tie
  let unsigned :=
    if layout.inPlace decimal.leading then decimal.positional layout.integral
    else decimal.scientific
  if double.negative then '-' :: unsigned else unsigned

end SearchFilter.Decimal
