import SearchFilter.Toml.Literal
import SearchFilter.Toml.Table

/-! Reading documents in the TOML grammar. -/

namespace SearchFilter.Toml

open Scan

/-- Dotted keys have fewer parts than this, and lists and tables are nested less deeply. -/
def nestingLimit : Nat := 80

def inBareKey (char : Char) : Bool := char.isAlphanum || char == '_' || char == '-'

def keyPart? : List Char → Option (String × List Char)
  | '"' :: rest => (basic? rest).map fun (name, rest) => (String.ofList name, rest)
  | '\'' :: rest => (literal? rest).map fun (name, rest) => (String.ofList name, rest)
  | chars =>
    let name := chars.takeWhile inBareKey
    if name.isEmpty then none else some (String.ofList name, chars.dropWhile inBareKey)

def key? : Nat → List Char → Option (Key × List Char)
  | 0, _ => none
  | limit + 1, chars => do
    let (name, rest) ← keyPart? (skipBlank chars)
    match skipBlank rest with
    | '.' :: rest =>
      let (key, rest) ← key? limit rest
      some (⟨name :: key.path, key.name⟩, rest)
    | rest => some (⟨[], name⟩, rest)

def target? (chars : List Char) : Option (Key × List Char) := do
  let (key, rest) ← key? (nestingLimit - 1) chars
  let rest ← after? ['='] rest
  some (key, skipBlank rest)

def word? (chars : List Char) : Option (Json × List Char) :=
  ((after? ['t', 'r', 'u', 'e'] chars).map fun rest => (.bool true, rest)).or
    ((after? ['f', 'a', 'l', 's', 'e'] chars).map fun rest => (.bool false, rest))

def string? : List Char → Option (List Char × List Char)
  | '"' :: '"' :: '"' :: rest => longBasic? .inside (dropBreak rest)
  | '"' :: rest => basic? rest
  | '\'' :: '\'' :: '\'' :: rest => longLiteral? (dropBreak rest)
  | '\'' :: rest => literal? rest
  | _ => none

def scalar? (chars : List Char) : Option (Json × List Char) :=
  ((string? chars).map fun (text, rest) => (.text (String.ofList text), rest)).or
    ((word? chars).or ((moment? chars).or (number? chars)))

mutual

/-- A value inside so many lists and tables. Each step takes a character, so the length of the text
bounds the number of steps. -/
def value? : Nat → Nat → List Char → Option (Json × List Char)
  | 0, _, _ => none
  | fuel + 1, depth, chars =>
    match chars with
    | '[' :: rest =>
      if depth + 1 < nestingLimit then
        (items? fuel (depth + 1) rest).map fun (items, rest) => (.list items, rest)
      else none
    | '{' :: rest =>
      if depth + 1 < nestingLimit then
        match skipBlank rest with
        | '}' :: rest => some (.object [], rest)
        | inside =>
          (fields? fuel (depth + 1) [] inside).map fun (entries, rest) =>
            (.object (entriesToJson entries), rest)
      else none
    | _ => scalar? chars

def items? : Nat → Nat → List Char → Option (List Json × List Char)
  | 0, _, _ => none
  | fuel + 1, depth, chars =>
    match skipLines false chars with
    | ']' :: rest => some ([], rest)
    | inside => do
      let (item, rest) ← value? fuel depth inside
      match skipLines false rest with
      | ']' :: rest => some ([item], rest)
      | ',' :: rest =>
        let (items, rest) ← items? fuel depth rest
        some (item :: items, rest)
      | _ => none

def fields? : Nat → Nat → List (String × Entry) → List Char →
    Option (List (String × Entry) × List Char)
  | 0, _, _, _ => none
  | fuel + 1, depth, entries, chars => do
    let (key, rest) ← target? chars
    let (value, rest) ← value? fuel depth rest
    let entries ← Entry.assign? key value entries
    match skipBlank rest with
    | '}' :: rest => some (entries, rest)
    | ',' :: rest => fields? fuel depth entries rest
    | _ => none

end

inductive Statement where
  | table (key : Key)
  | element (key : Key)
  | assignment (key : Key) (value : Json)

def afterLine? (chars : List Char) : Option (List Char) :=
  let rest := match skipBlank chars with
    | '#' :: comment => comment.dropWhile isText
    | rest => rest
  match rest with
  | [] => some []
  | '\n' :: rest => some rest
  | _ => none

def statement? (chars : List Char) : Option (Statement × List Char) :=
  let headerKey := key? (nestingLimit - 1)
  match chars with
  | '[' :: '[' :: rest => do
    let (key, rest) ← headerKey rest
    some (.element key, ← after? [']', ']'] rest)
  | '[' :: rest => do
    let (key, rest) ← headerKey rest
    some (.table key, ← after? [']'] rest)
  | _ => do
    let (key, rest) ← target? chars
    let (value, rest) ← value? (rest.length + 1) 0 rest
    some (.assignment key value, rest)

def statements? : Nat → List Char → Option (List Statement)
  | 0, _ => none
  | fuel + 1, chars =>
    match skipBlank chars with
    | [] => some []
    | '\n' :: rest => statements? fuel rest
    | '#' :: rest => (afterLine? ('#' :: rest)).bind (statements? fuel)
    | inside => do
      let (statement, rest) ← statement? inside
      let statements ← statements? fuel (← afterLine? rest)
      some (statement :: statements)

structure Sheet where
  entries : List (String × Entry)
  path : List String

namespace Sheet

def after? (sheet : Sheet) : Statement → Option Sheet
  | .table key =>
    (Entry.openTable? key sheet.entries).map fun entries => ⟨entries, key.path ++ [key.name]⟩
  | .element key =>
    (Entry.openElement? key sheet.entries).map fun entries => ⟨entries, key.path ++ [key.name]⟩
  | .assignment key value =>
    (Entry.within? .path (fun _ => Entry.assign? key value) sheet.path .header sheet.entries).map
      fun entries => ⟨entries, sheet.path⟩

end Sheet

def unixLines : List Char → List Char
  | '\r' :: '\n' :: rest => '\n' :: unixLines rest
  | char :: rest => char :: unixLines rest
  | [] => []

def parse? (source : String) : Option Json := do
  let chars := unixLines (match source.toList with
    | '\uFEFF' :: rest => rest
    | chars => chars)
  let statements ← statements? (chars.length + 1) chars
  let sheet ← statements.foldlM Sheet.after? ⟨[], []⟩
  some (.object (entriesToJson sheet.entries))

end SearchFilter.Toml
