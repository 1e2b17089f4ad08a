/-! Colours of reports on a terminal, switched on by escape sequences. -/

namespace SearchFilter.Report

inductive Style where
  | bold
  | cyan
  | grey
  | boldYellow
deriving DecidableEq

namespace Style

def switchOn : Style → List Char
  | bold => ['\x1B', '[', '1', 'm']
  | cyan => ['\x1B', '[', '3', '6', 'm']
  | grey => ['\x1B', '[', '9', '0', 'm']
  | boldYellow => ['\x1B', '[', '1', ';', '3', '3', 'm']

def switchOff : List Char := ['\x1B', '[', '0', 'm']

/-- The text in which a style is switched on again wherever something inside switched it off. -/
def restored (on : List Char) : List Char → List Char
  | '\x1B' :: '[' :: '0' :: 'm' :: rest => switchOff ++ on ++ restored on rest
  | char :: rest => char :: restored on rest
  | [] => []

def paint (style : Style) (colored : Bool) (text : String) : String :=
  if colored then
    String.ofList (style.switchOn ++ restored style.switchOn text.toList ++ switchOff)
  else text

theorem paint_plain (style : Style) (text : String) : style.paint false text = text := rfl

end Style

end SearchFilter.Report
