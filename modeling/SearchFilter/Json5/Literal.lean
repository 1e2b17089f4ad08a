import SearchFilter.Json.Basic
import SearchFilter.Json.Scan
import SearchFilter.Json5.Space
import SearchFilter.Text.Identifier

/-! The strings, names and numbers of JSON5. -/

namespace SearchFilter.Json5

open Scan Decimal Text

def escaped (char : Char) : Char :=
  if char == 'b' then '\x08'
  else if char == 't' then '\t'
  else if char == 'n' then '\n'
  else if char == 'v' then '\x0B'
  else if char == 'f' then '\x0C'
  else if char == 'r' then '\r'
  else char

def string? (quote : Char) : List Char → Option (List Char × List Char)
  | [] => none
  | '\\' :: 'u' :: a :: b :: c :: d :: rest =>
    match hexValue? [a, b, c, d] with
    | none => none
    | some high =>
      if isHighSurrogate high then
        match rest with
        | '\\' :: 'u' :: e :: f :: g :: h :: rest =>
          match hexValue? [e, f, g, h] with
          | none => none
          | some low =>
            if isLowSurrogate low then prepend (pairedChar high low) (string? quote rest) else none
        | _ => none
      else
        match charOf? high with
        | some char => prepend char (string? quote rest)
        | none => none
  | '\\' :: 'x' :: a :: b :: rest =>
    match hexValue? [a, b] with
    | some code => prepend (Char.ofNat code) (string? quote rest)
    | none => none
  | '\\' :: '\r' :: '\n' :: rest => string? quote rest
  | '\\' :: '0' :: rest =>
    if (rest.head?.map Char.isDigit).getD false then none else prepend '\x00' (string? quote rest)
  | '\\' :: char :: rest =>
    if endsLine char then string? quote rest
    else if char.isDigit || char == 'u' || char == 'x' then none
    else prepend (escaped char) (string? quote rest)
  | char :: rest =>
    if char = quote then some ([], rest)
    else if char == '\n' || char == '\r' || char == '\\' then none
    else prepend char (string? quote rest)

/-- The characters of a name that is not quoted; an escape, or a pair of escapes for the halves of a
surrogate pair, has to stand for a character that may stand in its place. -/
def name? (allowed : Char → Bool) : List Char → Option (List Char × List Char)
  | '\\' :: 'u' :: a :: b :: c :: d :: rest =>
    match hexValue? [a, b, c, d] with
    | none => none
    | some high =>
      if isHighSurrogate high then
        match rest with
        | '\\' :: 'u' :: e :: f :: g :: h :: rest =>
          match hexValue? [e, f, g, h] with
          | none => none
          | some low =>
            if isLowSurrogate low && allowed (pairedChar high low) then
              prepend (pairedChar high low) (name? continuesName rest)
            else none
        | _ => none
      else
        match charOf? high with
        | some char => if allowed char then prepend char (name? continuesName rest) else none
        | none => none
  | '\\' :: _ => none
  | char :: rest =>
    if allowed char then prepend char (name? continuesName rest) else some ([], char :: rest)
  | [] => some ([], [])

def identifier? (chars : List Char) : Option (List Char × List Char) :=
  match name? startsName chars with
  | some ([], _) => none
  | other => other

def inLiteral (char : Char) : Bool :=
  char.isDigit || char == '+' || char == '-' || char == '.' || char == 'e' || char == 'E'

def exponent? : List Char → Option Int
  | [] => some 0
  | mark :: rest =>
    let (negative, digits) := match rest with
      | '-' :: digits => (true, digits)
      | '+' :: digits => (false, digits)
      | digits => (false, digits)
    if (mark == 'e' || mark == 'E') && !digits.isEmpty && digits.all Char.isDigit then
      let value : Int := Nat.ofDigitChars 10 digits 0
      some (if negative then -value else value)
    else none

/-- The number of a whole decimal literal. Digits stand on at least one side of the point. Without a
point and an exponent the literal is an integer. -/
def decimal? (negative : Bool) (literal : List Char) : Option Json :=
  let whole := literal.takeWhile Char.isDigit
  let after := literal.dropWhile Char.isDigit
  let (places, rest) := match after with
    | '.' :: rest => (rest.takeWhile Char.isDigit, rest.dropWhile Char.isDigit)
    | rest => ([], rest)
  let digits := Nat.ofDigitChars 10 (whole ++ places) 0
  if whole.isEmpty && places.isEmpty || whole.length ≠ 1 && whole.head? == some '0' then none
  else
    (exponent? rest).map fun exponent =>
      let number :=
        if after.isEmpty then Number.ofInteger? negative digits
        else (Double.ofDecimal? negative digits (exponent - places.length)).map Number.double
      (number.map Json.number).getD .unrepresentable

def hexadecimal? (negative : Bool) (digits : List Char) : Option Json := do
  let magnitude ← if digits.isEmpty then none else hexValue? digits
  let most :=
    if negative then 0x80000000000000000000000000000000 else 0xFFFFFFFFFFFFFFFFFFFFFFFFFFFFFFFF
  let number ← if magnitude ≤ most then Number.ofInteger? negative magnitude else none
  some (.number number)

def unsigned? (negative : Bool) (chars : List Char) : Option (Json × List Char) :=
  match after? ['I', 'n', 'f', 'i', 'n', 'i', 't', 'y'] chars with
  | some rest => some (.unrepresentable, rest)
  | none =>
    match chars with
    | 'N' :: 'a' :: 'N' :: rest => some (.unrepresentable, rest)
    | '0' :: 'x' :: rest | '0' :: 'X' :: rest =>
      let isHex := fun char => (hexDigit? char).isSome
      (hexadecimal? negative (rest.takeWhile isHex)).map fun json => (json, rest.dropWhile isHex)
    | _ =>
      if (chars.head?.map fun char => char.isDigit || char == '.').getD false then
        (decimal? negative (chars.takeWhile inLiteral)).map fun json =>
          (json, chars.dropWhile inLiteral)
      else none

def number? : List Char → Option (Json × List Char)
  | '-' :: rest => unsigned? true rest
  | '+' :: rest => unsigned? false rest
  | chars => unsigned? false chars

end SearchFilter.Json5
