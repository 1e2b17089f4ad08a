import SearchFilter.Json.Basic

/-! The written forms of a document: on one line without blanks, or with one item per line. -/

namespace SearchFilter.Json

def escaped (char : Char) : List Char :=
  if char == '"' then ['\\', '"']
  else if char == '\\' then ['\\', '\\']
  else if char == '\x08' then ['\\', 'b']
  else if char == '\x0C' then ['\\', 'f']
  else if char == '\n' then ['\\', 'n']
  else if char == '\r' then ['\\', 'r']
  else if char == '\t' then ['\\', 't']
  else if char.toNat < 0x20 then
    ['\\', 'u', '0', '0', Nat.digitChar (char.toNat / 16), Nat.digitChar (char.toNat % 16)]
  else [char]

def quoted (text : String) : List Char :=
  '"' :: (text.toList.flatMap escaped ++ ['"'])

mutual

def compactChars : Json → List Char
  | null => ['n', 'u', 'l', 'l']
  | bool true => ['t', 'r', 'u', 'e']
  | bool false => ['f', 'a', 'l', 's', 'e']
  | number value => value.chars
  | text value => quoted value
  | list [] => ['[', ']']
  | list (item :: items) => '[' :: (item.compactChars ++ compactItems items)
  | object [] => ['{', '}']
  | object ((key, value) :: fields) =>
    '{' :: (quoted key ++ ':' :: (value.compactChars ++ compactFields fields))
  | unrepresentable => ['n', 'u', 'l', 'l']

def compactItems : List Json → List Char
  | [] => [']']
  | item :: items => ',' :: (item.compactChars ++ compactItems items)

def compactFields : List (String × Json) → List Char
  | [] => ['}']
  | (key, value) :: fields =>
    ',' :: (quoted key ++ ':' :: (value.compactChars ++ compactFields fields))

end

def compact (json : Json) : String := String.ofList json.compactChars

def lineBreak (depth : Nat) : List Char := '\n' :: List.replicate (2 * depth) ' '

mutual

def prettyChars (depth : Nat) : Json → List Char
  | list (item :: items) =>
    '[' :: (lineBreak (depth + 1) ++ item.prettyChars (depth + 1) ++ prettyItems depth items)
  | object ((key, value) :: fields) =>
    '{' :: (lineBreak (depth + 1) ++ quoted key ++ ':' :: ' ' ::
      (value.prettyChars (depth + 1) ++ prettyFields depth fields))
  | plain => plain.compactChars

def prettyItems (depth : Nat) : List Json → List Char
  | [] => lineBreak depth ++ [']']
  | item :: items =>
    ',' :: (lineBreak (depth + 1) ++ item.prettyChars (depth + 1) ++ prettyItems depth items)

def prettyFields (depth : Nat) : List (String × Json) → List Char
  | [] => lineBreak depth ++ ['}']
  | (key, value) :: fields =>
    ',' :: (lineBreak (depth + 1) ++ quoted key ++ ':' :: ' ' ::
      (value.prettyChars (depth + 1) ++ prettyFields depth fields))

end

def pretty (json : Json) : String := String.ofList (json.prettyChars 0)

def texts (items : List String) : Json := list (items.map text)

def nat (value : Nat) : Json := ((Number.ofNat? value).map number).getD unrepresentable

def optional (key : String) (value : Option Json) : List (String × Json) :=
  match value with
  | some value => [(key, value)]
  | none => []

def flag (key : String) (up : Bool) : List (String × Json) :=
  if up then [(key, bool true)] else []

end SearchFilter.Json
