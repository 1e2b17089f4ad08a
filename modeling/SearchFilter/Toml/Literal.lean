import SearchFilter.Json.Basic
import SearchFilter.Json.Scan

/-!
The strings, numbers and dates of TOML. The ends of lines are single line feeds here; no other
control character but the tab may occur.
-/

namespace SearchFilter.Toml

open Scan Decimal

def isBlank (char : Char) : Bool := char == ' ' || char == '\t'

def skipBlank (chars : List Char) : List Char := chars.dropWhile isBlank

def isText (char : Char) : Bool :=
  char == '\t' || (0x20 ≤ char.toNat && char.toNat != 0x7F)

def skipLines (inComment : Bool) : List Char → List Char
  | [] => []
  | char :: rest =>
    if char == '\n' then skipLines false rest
    else if inComment then if isText char then skipLines true rest else char :: rest
    else if isBlank char then skipLines false rest
    else if char == '#' then skipLines true rest
    else char :: rest

def escape? (char : Char) : Option Char :=
  if char == '"' || char == '\\' then some char
  else if char == 'b' then some '\x08'
  else if char == 't' then some '\t'
  else if char == 'n' then some '\n'
  else if char == 'f' then some '\x0C'
  else if char == 'r' then some '\r'
  else none

def prependCode (digits : List Char) (read : Option (List Char × List Char)) :
    Option (List Char × List Char) :=
  ((hexValue? digits).bind charOf?).bind fun char => prepend char read

def basic? : List Char → Option (List Char × List Char)
  | [] => none
  | '"' :: rest => some ([], rest)
  | '\\' :: 'u' :: a :: b :: c :: d :: rest => prependCode [a, b, c, d] (basic? rest)
  | '\\' :: 'U' :: a :: b :: c :: d :: e :: f :: g :: h :: rest =>
    prependCode [a, b, c, d, e, f, g, h] (basic? rest)
  | '\\' :: char :: rest => (escape? char).bind fun meant => prepend meant (basic? rest)
  | char :: rest => if isText char && char != '\\' then prepend char (basic? rest) else none

def literal? (chars : List Char) : Option (List Char × List Char) :=
  let inside := fun char => isText char && char != '\''
  match chars.dropWhile inside with
  | '\'' :: rest => some (chars.takeWhile inside, rest)
  | _ => none

/-- What follows three closing marks. Up to two further marks belong to the string. -/
def closing (mark : Char) (chars : List Char) : List Char × List Char :=
  let further := (chars.take 2).takeWhile (· == mark)
  (further, chars.drop further.length)

inductive Place where
  | inside
  | beforeBreak
  | afterBreak
deriving DecidableEq

def longBasic? : Place → List Char → Option (List Char × List Char)
  | _, [] => none
  | .beforeBreak, char :: rest =>
    if isBlank char then longBasic? .beforeBreak rest
    else if char == '\n' then longBasic? .afterBreak rest
    else none
  | _, '"' :: '"' :: '"' :: rest => some (closing '"' rest)
  | _, '\\' :: 'u' :: a :: b :: c :: d :: rest =>
    prependCode [a, b, c, d] (longBasic? .inside rest)
  | _, '\\' :: 'U' :: a :: b :: c :: d :: e :: f :: g :: h :: rest =>
    prependCode [a, b, c, d, e, f, g, h] (longBasic? .inside rest)
  | _, '\\' :: char :: rest =>
    match escape? char with
    | some meant => prepend meant (longBasic? .inside rest)
    | none => longBasic? .beforeBreak (char :: rest)
  | place, char :: rest =>
    if place = .afterBreak ∧ (isBlank char || char == '\n') then longBasic? .afterBreak rest
    else if char != '\\' && (isText char || char == '\n') then
      prepend char (longBasic? .inside rest)
    else none

def longLiteral? : List Char → Option (List Char × List Char)
  | [] => none
  | '\'' :: '\'' :: '\'' :: rest => some (closing '\'' rest)
  | char :: rest =>
    if isText char || char == '\n' then prepend char (longLiteral? rest) else none

def dropBreak : List Char → List Char
  | '\n' :: rest => rest
  | chars => chars

def digits? (isDigit : Char → Bool) (chars : List Char) : Option (List Char × List Char) :=
  let inside := fun char => isDigit char || char == '_'
  let parts := (chars.takeWhile inside).splitOn '_'
  if parts.all (!·.isEmpty) then some (parts.flatten, chars.dropWhile inside) else none

def integer? (value : Int) : Option Json :=
  if -0x8000000000000000 ≤ value ∧ value < 0x8000000000000000 then
    (Number.ofInt? value).map Json.number
  else none

def based? (base : Nat) (chars : List Char) : Option (Json × List Char) := do
  let isDigit := fun char => ((hexDigit? char).map (decide <| · < base)).getD false
  let (digits, rest) ← digits? isDigit chars
  let value := digits.foldl (fun value digit => base * value + (hexDigit? digit).getD 0) 0
  some (← integer? value, rest)

def exponent? : List Char → Option (Option Int × List Char)
  | mark :: rest =>
    if mark == 'e' || mark == 'E' then
      let (negative, unsigned) := match rest with
        | '-' :: rest => (true, rest)
        | '+' :: rest => (false, rest)
        | rest => (false, rest)
      (digits? Char.isDigit unsigned).map fun (digits, rest) =>
        let value : Int := Nat.ofDigitChars 10 digits 0
        (some (if negative then -value else value), rest)
    else some (none, mark :: rest)
  | [] => some (none, [])

def fraction? : List Char → Option (Option (List Char) × List Char)
  | '.' :: rest => (digits? Char.isDigit rest).map fun (digits, rest) => (some digits, rest)
  | rest => some (none, rest)

/-- A number in base 10 after its sign. The whole part has no leading zero. A number that is too
large is an error, unless it is negative. -/
def decimal? (negative : Bool) (chars : List Char) : Option (Json × List Char) := do
  let (whole, rest) ← digits? Char.isDigit chars
  let (fraction, rest) ← fraction? rest
  let (exponent, rest) ← exponent? rest
  let places := fraction.getD []
  let digits := Nat.ofDigitChars 10 (whole ++ places) 0
  if whole.length ≠ 1 ∧ whole.head? = some '0' then none
  else if fraction.isNone && exponent.isNone then
    some (← integer? (if negative then -digits else digits), rest)
  else
    match Double.ofDecimal? negative digits (exponent.getD 0 - places.length) with
    | some double => some (.number (.double double), rest)
    | none => if negative then some (.unrepresentable, rest) else none

def signed? (negative : Bool) : List Char → Option (Json × List Char)
  | 'i' :: 'n' :: 'f' :: rest => some (.unrepresentable, rest)
  | 'n' :: 'a' :: 'n' :: rest => some (.unrepresentable, rest)
  | chars => decimal? negative chars

def number? : List Char → Option (Json × List Char)
  | '0' :: 'x' :: rest => based? 16 rest
  | '0' :: 'o' :: rest => based? 8 rest
  | '0' :: 'b' :: rest => based? 2 rest
  | '-' :: rest => signed? true rest
  | '+' :: rest => signed? false rest
  | chars => signed? false chars

def part? (count low high : Nat) (chars : List Char) : Option (Nat × List Char) :=
  let digits := chars.take count
  let value := Nat.ofDigitChars 10 digits 0
  if digits.length = count ∧ digits.all Char.isDigit ∧ low ≤ value ∧ value ≤ high then
    some (value, chars.drop count)
  else none

def daysIn (year month : Nat) : Nat :=
  if month = 2 then
    if year % 4 = 0 ∧ (year % 100 ≠ 0 ∨ year % 400 = 0) then 29 else 28
  else if month = 4 ∨ month = 6 ∨ month = 9 ∨ month = 11 then 30
  else 31

def afterDate? (chars : List Char) : Option (List Char) := do
  let (year, rest) ← part? 4 0 9999 chars
  let (month, rest) ← part? 2 1 12 (← after? ['-'] rest)
  let (_, rest) ← part? 2 1 (daysIn year month) (← after? ['-'] rest)
  some rest

def afterTime? (chars : List Char) : Option (List Char) := do
  let (_, rest) ← part? 2 0 23 chars
  let (_, rest) ← part? 2 0 59 (← after? [':'] rest)
  let (_, rest) ← part? 2 0 60 (← after? [':'] rest)
  match rest with
  | '.' :: digit :: after =>
    if digit.isDigit then some (after.dropWhile Char.isDigit) else some rest
  | _ => some rest

def afterOffset? : List Char → Option (List Char)
  | 'Z' :: rest | 'z' :: rest => some rest
  | '+' :: rest | '-' :: rest => do
    let (_, rest) ← part? 2 0 23 rest
    let (_, rest) ← part? 2 0 59 (← after? [':'] rest)
    some rest
  | _ => none

def afterMoment? (chars : List Char) : Option (List Char) :=
  match afterDate? chars with
  | none => afterTime? chars
  | some rest =>
    let time := match rest with
      | 'T' :: time | 't' :: time | ' ' :: time => afterTime? time
      | _ => none
    match time with
    | some after => (afterOffset? after).or (some after)
    | none => some rest

/-- A date or a time, as a record of its own kind that has none of the known fields. -/
def moment? (chars : List Char) : Option (Json × List Char) :=
  (afterMoment? chars).map fun rest =>
    let written := String.ofList (chars.take (chars.length - rest.length))
    (.object [("datetime", .text written)], rest)

end SearchFilter.Toml
