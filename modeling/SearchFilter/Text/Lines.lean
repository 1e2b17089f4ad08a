/-! Texts of several lines. -/

namespace SearchFilter.Text

def lines : List String → String
  | [] => ""
  | first :: rest => first ++ "\n" ++ lines rest

def indentation (depth : Nat) : String := String.ofList (List.replicate (2 * depth) ' ')

def withoutReturn (line : List Char) : List Char :=
  if line.getLast? = some '\r' then line.dropLast else line

/-- The lines of a text, each without its end. Nothing after the last end of a line is no line. -/
def linesOf (text : String) : List String :=
  let parts := text.toList.splitOn '\n'
  let rest := parts.getLast?.toList.filter (!·.isEmpty)
  (parts.dropLast.map withoutReturn ++ rest).map String.ofList

end SearchFilter.Text
