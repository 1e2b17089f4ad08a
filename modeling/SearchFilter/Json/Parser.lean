import SearchFilter.Decimal.Scaling
import SearchFilter.Json.Basic
import SearchFilter.Json.Scan

/-! Reading documents in the strict JSON grammar. -/

namespace SearchFilter.Json.Parser

open Scan Decimal

def isSpace (char : Char) : Bool := char == ' ' || char == '\t' || char == '\n' || char == '\r'

def skipSpace (chars : List Char) : List Char := chars.dropWhile isSpace

def escape? (char : Char) : Option Char :=
  if char == '"' || char == '\\' || char == '/' then some char
  else if char == 'b' then some '\x08'
  else if char == 'f' then some '\x0C'
  else if char == 'n' then some '\n'
  else if char == 'r' then some '\r'
  else if char == 't' then some '\t'
  else none

/-- One more character in front of a string, and the string still read from the rest. Half of a
surrogate pair makes the whole string unrepresentable. -/
def extend (char : Option Char) :
    Option (Option (List Char) × List Char) → Option (Option (List Char) × List Char)
  | some (some chars, rest) => some (char.map (· :: chars), rest)
  | other => other

def string? : List Char → Option (Option (List Char) × List Char)
  | [] => none
  | '"' :: rest => some (some [], rest)
  | '\\' :: 'u' :: a :: b :: c :: d :: '\\' :: 'u' :: e :: f :: g :: h :: rest =>
    match hexValue? [a, b, c, d], hexValue? [e, f, g, h] with
    | some high, some low =>
      if isHighSurrogate high && isLowSurrogate low then
        extend (some (pairedChar high low)) (string? rest)
      else extend (charOf? high) (string? ('\\' :: 'u' :: e :: f :: g :: h :: rest))
    | _, _ => none
  | '\\' :: 'u' :: a :: b :: c :: d :: rest => do
    let code ← hexValue? [a, b, c, d]
    extend (charOf? code) (string? rest)
  | '\\' :: char :: rest => do
    let meant ← escape? char
    extend (some meant) (string? rest)
  | char :: rest => if char.toNat < 0x20 then none else extend (some char) (string? rest)

def digits? (chars : List Char) : Option (List Char × List Char) :=
  let digits := chars.takeWhile Char.isDigit
  if digits.isEmpty then none else some (digits, chars.dropWhile Char.isDigit)

def exponent? : List Char → Option (Option Int × List Char)
  | mark :: rest =>
    if mark == 'e' || mark == 'E' then
      match rest with
      | '-' :: after => (digits? after).map fun read =>
        (some (-(Nat.ofDigitChars 10 read.1 0 : Int)), read.2)
      | '+' :: after => (digits? after).map fun read =>
        (some (Nat.ofDigitChars 10 read.1 0 : Int), read.2)
      | after => (digits? after).map fun read =>
        (some (Nat.ofDigitChars 10 read.1 0 : Int), read.2)
    else some (none, mark :: rest)
  | [] => some (none, [])

def fraction? : List Char → Option (Option (List Char) × List Char)
  | '.' :: rest => (digits? rest).map fun read => (some read.1, read.2)
  | rest => some (none, rest)

/-- The document of a number literal. Without a point and an exponent it is an integer when it fits
a word, except that a negative zero is a double. -/
def numberOf (negative : Bool) (whole : List Char) (fraction : Option (List Char))
    (exponent : Option Int) : Json :=
  let magnitude := Nat.ofDigitChars 10 whole 0
  let integer :=
    if fraction.isNone && exponent.isNone && !(negative && magnitude == 0) then
      Number.ofInt? (if negative then -magnitude else magnitude)
    else none
  let number := integer.or
    ((Double.ofDigits? negative whole (fraction.getD []) (exponent.getD 0)).map Number.double)
  (number.map Json.number).getD unrepresentable

def number? (chars : List Char) : Option (Json × List Char) := do
  let (negative, unsigned) := match chars with
    | '-' :: rest => (true, rest)
    | rest => (false, rest)
  let (whole, rest) ← digits? unsigned
  if whole.length ≠ 1 ∧ whole.head? = some '0' then none
  else
    let (fraction, rest) ← fraction? rest
    let (exponent, rest) ← exponent? rest
    some (numberOf negative whole fraction exponent, rest)

def word? (chars : List Char) : Option (Json × List Char) :=
  ((after? ['n', 'u', 'l', 'l'] chars).map fun rest => (null, rest)).or
    (((after? ['t', 'r', 'u', 'e'] chars).map fun rest => (bool true, rest)).or
      ((after? ['f', 'a', 'l', 's', 'e'] chars).map fun rest => (bool false, rest)))

def textOf : Option (List Char) → Json
  | some chars => text (String.ofList chars)
  | none => unrepresentable

abbrev Field := Option (List Char) × Json

def objectOf (fields : List Field) : Json :=
  match fields.mapM fun (key, value) => key.map fun chars => (String.ofList chars, value) with
  | some fields => object fields
  | none => unrepresentable

def key? (chars : List Char) : Option (Option (List Char) × List Char) :=
  match skipSpace chars with
  | '"' :: rest =>
    match string? rest with
    | some (key, rest) =>
      match skipSpace rest with
      | ':' :: rest => some (key, rest)
      | _ => none
    | none => none
  | _ => none

mutual

/-- A value at the start of a text. Each step takes a character, so the length of the text bounds
the number of steps. -/
def value? : Nat → List Char → Option (Json × List Char)
  | 0, _ => none
  | fuel + 1, chars =>
    match skipSpace chars with
    | '"' :: rest => (string? rest).map fun read => (textOf read.1, read.2)
    | '[' :: rest =>
      match skipSpace rest with
      | ']' :: rest => some (list [], rest)
      | inside => do
        let (item, rest) ← value? fuel inside
        let (items, rest) ← items? fuel rest
        some (list (item :: items), rest)
    | '{' :: rest =>
      match skipSpace rest with
      | '}' :: rest => some (object [], rest)
      | inside => do
        let (key, rest) ← key? inside
        let (value, rest) ← value? fuel rest
        let (fields, rest) ← fields? fuel rest
        some (objectOf ((key, value) :: fields), rest)
    | other => (word? other).or (number? other)

def items? : Nat → List Char → Option (List Json × List Char)
  | 0, _ => none
  | fuel + 1, chars =>
    match skipSpace chars with
    | ']' :: rest => some ([], rest)
    | ',' :: rest => do
      let (item, rest) ← value? fuel rest
      let (items, rest) ← items? fuel rest
      some (item :: items, rest)
    | _ => none

def fields? : Nat → List Char → Option (List Field × List Char)
  | 0, _ => none
  | fuel + 1, chars =>
    match skipSpace chars with
    | '}' :: rest => some ([], rest)
    | ',' :: rest => do
      let (key, rest) ← key? rest
      let (value, rest) ← value? fuel rest
      let (fields, rest) ← fields? fuel rest
      some ((key, value) :: fields, rest)
    | _ => none

end

end Parser

def parse? (source : String) : Option Json :=
  let chars := source.toList
  match Parser.value? (chars.length + 1) chars with
  | some (json, rest) => if (Parser.skipSpace rest).isEmpty then some json else none
  | none => none

end SearchFilter.Json
