import SearchFilter.Text.CodePoints

/-! What may stand between the tokens of a JSON5 text: blanks and comments. -/

namespace SearchFilter.Json5

open Text

/-- The blanks of JSON5: the ASCII ones, the two line separators, the byte order mark, and the
characters of the general category Zs. -/
def blanks : CodePoints :=
  [(0x9, 0xD), (0x20, 0x20), (0xA0, 0xA0), (0x1680, 0x1680), (0x2000, 0x200A), (0x2028, 0x2029),
    (0x202F, 0x202F), (0x205F, 0x205F), (0x3000, 0x3000), (0xFEFF, 0xFEFF)]

def isBlank (char : Char) : Bool := blanks.has char

def endsLine (char : Char) : Bool :=
  char == '\n' || char == '\r' || char == '\u2028' || char == '\u2029'

inductive Place where
  | between
  | lineComment
  | blockComment
deriving DecidableEq

def skip? : Place → List Char → Option (List Char)
  | .between, '/' :: '/' :: rest => skip? .lineComment rest
  | .between, '/' :: '*' :: rest => skip? .blockComment rest
  | .between, char :: rest => if isBlank char then skip? .between rest else some (char :: rest)
  | .lineComment, char :: rest =>
    if endsLine char then skip? .between rest else skip? .lineComment rest
  | .blockComment, '*' :: '/' :: rest => skip? .between rest
  | .blockComment, _ :: rest => skip? .blockComment rest
  | .blockComment, [] => none
  | _, [] => some []

def skipBlank? (chars : List Char) : Option (List Char) := skip? .between chars

theorem skipBlank?_nil : skipBlank? [] = some [] := rfl

end SearchFilter.Json5
