/-! Numbers inside messages. -/

namespace SearchFilter.Text

def digits (number : Nat) : String := String.ofList (Nat.toDigits 10 number)

def bracketed (numbers : List Nat) : String :=
  "[" ++ String.intercalate ", " (numbers.map digits) ++ "]"

end SearchFilter.Text
