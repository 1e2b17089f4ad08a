import SearchFilter.Decimal.Double

/-!
The shortest decimals that read back as a given double. For each number of digits the two
neighbours of the double on that decimal grid are tried with the reader itself, so that a hit reads
back by construction.
-/

namespace SearchFilter.Decimal

structure Numeral where
  digits : Nat
  exponent : Int
deriving DecidableEq

inductive Tie where
  | toEven
  | upward
deriving DecidableEq

namespace Numeral

def normalized (decimal : Numeral) : Numeral :=
  if decimal.digits ≠ 0 ∧ decimal.digits % 10 = 0 then
    normalized ⟨decimal.digits / 10, decimal.exponent + 1⟩
  else decimal
termination_by decimal.digits
decreasing_by
  rename_i divisible
  exact Nat.div_lt_self (Nat.pos_of_ne_zero divisible.1) (by decide)

def leading (decimal : Numeral) : Int :=
  decimal.exponent + Double.digitCount decimal.digits - 1

def read? (decimal : Numeral) (negative : Bool) : Option Double :=
  Double.ofDecimal? negative decimal.digits decimal.exponent

end Numeral

namespace Double

/-- All digits of a double: `multiple * 5 ^ 1074 * 10 ^ (-1074)`. -/
def exactDecimal (double : Double) : Numeral := ⟨double.multiple * Nat.pow 5 1074, -1074⟩

def leading (double : Double) : Int :=
  let one := 1 <<< 1074
  if one ≤ double.multiple then (digitCount (double.multiple / one) : Int) - 1
  else -(digitCount ((one - 1) / double.multiple) : Int)

def ratio (double : Double) (exponent : Int) : Nat × Nat :=
  if 0 ≤ exponent then (double.multiple, powerOfTen exponent.toNat <<< 1074)
  else (double.multiple * powerOfTen (-exponent).toNat, 1 <<< 1074)

def neighbours (double : Double) (tie : Tie) (exponent : Int) : List Numeral :=
  let (numerator, denominator) := double.ratio exponent
  let below := numerator / denominator
  let rest := 2 * (numerator % denominator)
  let downFirst := rest < denominator ||
    (rest == denominator && tie == .toEven && below % 2 == 0)
  if downFirst then [⟨below, exponent⟩, ⟨below + 1, exponent⟩]
  else [⟨below + 1, exponent⟩, ⟨below, exponent⟩]

def onGrid? (double : Double) (tie : Tie) (exponent : Int) : Option Numeral :=
  (double.neighbours tie exponent).find? fun decimal =>
    decimal.read? double.negative == some double

/-- The shortest decimal that reads back, of those the nearest. Seventeen digits always suffice;
the exact decimal stands behind them. -/
def shortest (double : Double) (tie : Tie) : Numeral :=
  if double.bits = 0 then ⟨0, 0⟩
  else
    let found := (List.range 17).findSome? fun (count : Nat) =>
      double.onGrid? tie (double.leading - count)
    (found.getD double.exactDecimal).normalized

theorem onGrid?_reads_back (double : Double) (tie : Tie) (exponent : Int) (decimal : Numeral)
    (found : double.onGrid? tie exponent = some decimal) :
    decimal.read? double.negative = some double := by
  simpa using List.find?_some found

end Double

end SearchFilter.Decimal
