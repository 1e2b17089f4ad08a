import SearchFilter.Json5.Literal

/-! Reading documents in the JSON5 grammar. -/

namespace SearchFilter.Json5

open Scan

def word? (chars : List Char) : Option (Json × List Char) :=
  ((after? ['n', 'u', 'l', 'l'] chars).map fun rest => (Json.null, rest)).or
    (((after? ['t', 'r', 'u', 'e'] chars).map fun rest => (Json.bool true, rest)).or
      ((after? ['f', 'a', 'l', 's', 'e'] chars).map fun rest => (Json.bool false, rest)))

def key? (chars : List Char) : Option (String × List Char) := do
  let (key, rest) ← match chars with
    | '"' :: rest => string? '"' rest
    | '\'' :: rest => string? '\'' rest
    | chars => identifier? chars
  match ← skipBlank? rest with
  | ':' :: rest => some (String.ofList key, rest)
  | _ => none

mutual

def value? : Nat → List Char → Option (Json × List Char)
  | 0, _ => none
  | fuel + 1, chars => do
    match ← skipBlank? chars with
    | '"' :: rest => (string? '"' rest).map fun read => (.text (String.ofList read.1), read.2)
    | '\'' :: rest => (string? '\'' rest).map fun read => (.text (String.ofList read.1), read.2)
    | '[' :: rest => (items? fuel rest).map fun read => (.list read.1, read.2)
    | '{' :: rest => (fields? fuel rest).map fun read => (.object read.1, read.2)
    | other => (word? other).or (number? other)

def items? : Nat → List Char → Option (List Json × List Char)
  | 0, _ => none
  | fuel + 1, chars => do
    match ← skipBlank? chars with
    | ']' :: rest => some ([], rest)
    | inside =>
      let (item, rest) ← value? fuel inside
      match ← skipBlank? rest with
      | ']' :: rest => some ([item], rest)
      | ',' :: rest =>
        let (items, rest) ← items? fuel rest
        some (item :: items, rest)
      | _ => none

def fields? : Nat → List Char → Option (List (String × Json) × List Char)
  | 0, _ => none
  | fuel + 1, chars => do
    match ← skipBlank? chars with
    | '}' :: rest => some ([], rest)
    | inside =>
      let (key, rest) ← key? inside
      let (value, rest) ← value? fuel rest
      match ← skipBlank? rest with
      | '}' :: rest => some ([(key, value)], rest)
      | ',' :: rest =>
        let (fields, rest) ← fields? fuel rest
        some ((key, value) :: fields, rest)
      | _ => none

end

def parse? (source : String) : Option Json := do
  let chars := source.toList
  let (json, rest) ← value? (chars.length + 1) chars
  if (← skipBlank? rest).isEmpty then some json else none

end SearchFilter.Json5
