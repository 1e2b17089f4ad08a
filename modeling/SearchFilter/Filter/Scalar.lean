import SearchFilter.Json.Basic
import SearchFilter.Text.Blank
import SearchFilter.Text.DecimalDigit

/-!
Single values of predicates. Text that spells a number becomes that number, unless its field is
matched exactly or the number would not keep all digits.
-/

namespace SearchFilter

open Text Decimal

inductive Scalar where
  | number (value : Number)
  | text (value : String)
  | bool (value : Bool)
deriving DecidableEq

namespace Scalar

def toJson : Scalar → Json
  | number value => .number value
  | text value => .text value
  | bool value => .bool value

def boolText (value : Bool) : String := if value then "true" else "false"

def toText : Scalar → String
  | number value => value.toText
  | text value => value
  | bool value => boolText value

def isNumber : Scalar → Bool
  | number _ => true
  | _ => false

end Scalar

namespace Number

def unsigned : List Char → Bool × List Char
  | '-' :: digits => (true, digits)
  | digits => (false, digits)

/-- A decimal as a plain number prints it: without leading zeros before the point and trailing
zeros after it, and without a point before nothing. -/
def plainForm (chars : List Char) : List Char :=
  let (negative, digits) := unsigned chars
  let whole := (digits.takeWhile (· ≠ '.')).dropWhile (· == '0')
  let places := (((digits.dropWhile (· ≠ '.')).drop 1).reverse.dropWhile (· == '0')).reverse
  let magnitude :=
    (if whole.isEmpty then ['0'] else whole) ++ if places.isEmpty then [] else '.' :: places
  if negative then '-' :: magnitude else magnitude

def integerOf? (chars : List Char) : Option Number :=
  let (negative, digits) := unsigned chars
  if digits.all Char.isDigit then
    let magnitude : Int := Nat.ofDigitChars 10 digits 0
    ofInt? (if negative then -magnitude else magnitude)
  else none

def doubleOf? (chars : List Char) : Option Number :=
  let (negative, digits) := unsigned chars
  let whole := digits.takeWhile (· ≠ '.')
  let places := (digits.dropWhile (· ≠ '.')).drop 1
  if whole.all Char.isDigit && places.all Char.isDigit then
    match Double.ofDecimal? negative (Nat.ofDigitChars 10 (whole ++ places) 0) (-places.length) with
    | some found => if found.chars .plain = plainForm chars then some (.double found) else none
    | none => none
  else none

def spelled? (chars : List Char) : Option Number :=
  if chars.contains '.' then doubleOf? chars else integerOf? chars

end Number

namespace Scalar

def coerced (chars : List Char) : Scalar :=
  match if looksNumeric chars then Number.spelled? chars else none with
  | some value => number value
  | none => text (String.ofList chars)

/-- The scalar that a document holds, if any. For exact fields numbers become text and texts stay
texts. Blank text is no value. -/
def ofJson? (exact : Bool) : Json → Option Scalar
  | .bool value => some (bool value)
  | .number value => some (if exact then text value.toText else number value)
  | .text value =>
    let chars := trim value.toList
    if chars.isEmpty then none
    else some (if exact then text (String.ofList chars) else coerced chars)
  | _ => none

def patternOf? : Json → Option String
  | .text value => if allBlank value then none else some value
  | .number value => some value.toText
  | .bool value => some (boolText value)
  | _ => none

def looksNumeric : Json → Bool
  | .number _ => true
  | .text value => Text.looksNumeric (trim value.toList)
  | _ => false

theorem ofJson?_exact_not_number (json : Json) (scalar : Scalar)
    (found : ofJson? true json = some scalar) : scalar.isNumber = false := by
  cases json with
  | bool value => simp [ofJson?] at found; subst found; rfl
  | number value => simp [ofJson?] at found; subst found; rfl
  | text value =>
    simp [ofJson?] at found
    rw [← found.2]
    rfl
  | _ => simp [ofJson?] at found

end Scalar

end SearchFilter
