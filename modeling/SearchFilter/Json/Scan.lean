/-! Scanning of characters that several text formats share. -/

namespace SearchFilter.Scan

def hexDigit? (char : Char) : Option Nat :=
  if '0' ≤ char ∧ char ≤ '9' then some (char.toNat - '0'.toNat)
  else if 'a' ≤ char ∧ char ≤ 'f' then some (char.toNat - 'a'.toNat + 10)
  else if 'A' ≤ char ∧ char ≤ 'F' then some (char.toNat - 'A'.toNat + 10)
  else none

def hexValue? (digits : List Char) : Option Nat :=
  digits.foldlM (fun value digit => (hexDigit? digit).map (16 * value + ·)) 0

def charOf? (code : Nat) : Option Char :=
  if code.isValidChar then some (Char.ofNat code) else none

def isHighSurrogate (code : Nat) : Bool := 0xD800 ≤ code && code < 0xDC00

def isLowSurrogate (code : Nat) : Bool := 0xDC00 ≤ code && code < 0xE000

def pairedChar (high low : Nat) : Char :=
  Char.ofNat (0x10000 + (high - 0xD800) * 0x400 + (low - 0xDC00))

def after? : List Char → List Char → Option (List Char)
  | [], chars => some chars
  | _ :: _, [] => none
  | expected :: word, char :: chars => if expected = char then after? word chars else none

def prepend (char : Char) (read : Option (List Char × List Char)) :
    Option (List Char × List Char) :=
  read.map fun (chars, rest) => (char :: chars, rest)

theorem after?_append (word rest : List Char) : after? word (word ++ rest) = some rest := by
  induction word with
  | nil => rfl
  | cons head tail ih => simp [after?, ih]

theorem after?_eq_some_iff (word chars rest : List Char) :
    after? word chars = some rest ↔ chars = word ++ rest := by
  induction word generalizing chars with
  | nil => simp [after?]
  | cons head tail ih =>
    cases chars with
    | nil => simp [after?]
    | cons char chars =>
      simp only [after?, List.cons_append, List.cons.injEq]
      split
      · next same => simp [ih, same]
      · next different => simp [Ne.symm different]

end SearchFilter.Scan
