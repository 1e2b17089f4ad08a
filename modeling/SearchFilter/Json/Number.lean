import SearchFilter.Decimal.Layout

/-!
JSON numbers. An integer of at most 64 bits stays an integer; every other number is a finite double.
-/

namespace SearchFilter

open Decimal

def FitsWord (value : Int) : Prop := -0x8000000000000000 ≤ value ∧ value < 0x10000000000000000

instance (value : Int) : Decidable (FitsWord value) :=
  inferInstanceAs (Decidable (-0x8000000000000000 ≤ value ∧ value < 0x10000000000000000))

inductive Number where
  | integer (value : Int) (fits : FitsWord value)
  | double (value : Double)
deriving DecidableEq

namespace Number

def ofInt? (value : Int) : Option Number :=
  if fits : FitsWord value then some (integer value fits) else none

def ofNat? (value : Nat) : Option Number :=
  (ofInt? value).or ((Double.ofDecimal? false value 0).map double)

def integerChars (value : Int) : List Char :=
  if value < 0 then '-' :: Nat.toDigits 10 value.natAbs else Nat.toDigits 10 value.natAbs

def chars : Number → List Char
  | integer value _ => integerChars value
  | double value => value.chars .json

def toText (number : Number) : String := String.ofList number.chars

def ofInteger? (negative : Bool) (magnitude : Nat) : Option Number :=
  let value : Int := if negative then -magnitude else magnitude
  (ofInt? value).or ((Double.ofDecimal? negative magnitude 0).map double)

theorem ofInt?_eq_some_iff (value : Int) (number : Number) :
    ofInt? value = some number ↔ ∃ fits, number = integer value fits := by
  simp only [ofInt?]
  split
  · next fits => exact ⟨fun same => ⟨fits, (Option.some.inj same).symm⟩, fun ⟨_, same⟩ => by rw [same]⟩
  · next beyond => exact ⟨fun none => by simp at none, fun ⟨fits, _⟩ => absurd fits beyond⟩

end Number

end SearchFilter
