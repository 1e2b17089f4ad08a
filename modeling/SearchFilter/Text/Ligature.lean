import SearchFilter.Text.CharWidth

/-!
Letters of one script that are drawn as one. They are read from the last one to the first, so that
what is kept of them is the part that has been read.
-/

namespace SearchFilter.Text

def zeroWidthJoiner : Char := '\u200D'

def alefs : CodePoints :=
  [(0x622, 0x623), (0x625, 0x625), (0x627, 0x627), (0x671, 0x673), (0x675, 0x675), (0x773, 0x774),
    (0x870, 0x882)]

def lams : CodePoints :=
  [(0x644, 0x644), (0x6B5, 0x6B8), (0x76A, 0x76A), (0x8A6, 0x8A6), (0x8C7, 0x8C7)]

def khmerLetters : CodePoints :=
  [(0x1780, 0x1782), (0x1784, 0x1787), (0x1789, 0x178C), (0x178E, 0x1793), (0x1795, 0x1798),
    (0x179B, 0x179D), (0x17A0, 0x17A0), (0x17A2, 0x17A2), (0x17A7, 0x17A7), (0x17AB, 0x17AC),
    (0x17AF, 0x17AF)]

/-- Characters without width that part the letters at their sides. -/
def joinBreakers : CodePoints :=
  [(0x605, 0x605), (0x890, 0x891), (0x8E2, 0x8E2), (0x9BE, 0x9BE), (0x9D7, 0x9D7), (0xB3E, 0xB3E),
    (0xB57, 0xB57), (0xBBE, 0xBBE), (0xBD7, 0xBD7), (0xCC0, 0xCC0), (0xCC2, 0xCC2), (0xCC7, 0xCC8),
    (0xCCA, 0xCCB), (0xCD5, 0xCD6), (0xD3E, 0xD3E), (0xD4E, 0xD4E), (0xD57, 0xD57), (0xDCF, 0xDCF),
    (0xDDF, 0xDDF), (0x1160, 0x11FF), (0x1715, 0x1715), (0x1734, 0x1734), (0x180E, 0x180E),
    (0x1B35, 0x1B35), (0x1B3B, 0x1B3B), (0x1B3D, 0x1B3D), (0x1B43, 0x1B44), (0x1BAA, 0x1BAA),
    (0x1BF2, 0x1BF3), (0x200C, 0x200D), (0x2065, 0x2069), (0x302E, 0x302F), (0x3164, 0x3164),
    (0xA8FA, 0xA8FA), (0xA953, 0xA953), (0xA9C0, 0xA9C0), (0xD7B0, 0xD7C6), (0xD7CB, 0xD7FB),
    (0xFFA0, 0xFFA0), (0xFFF0, 0xFFF8), (0x111C0, 0x111C0), (0x111C2, 0x111C3), (0x11235, 0x11235),
    (0x1133E, 0x1133E), (0x1134D, 0x1134D), (0x11357, 0x11357), (0x113B8, 0x113B8),
    (0x113C2, 0x113C2), (0x113C5, 0x113C5), (0x113C7, 0x113C9), (0x113CF, 0x113CF),
    (0x113D1, 0x113D1), (0x114B0, 0x114B0), (0x114BD, 0x114BD), (0x115AF, 0x115AF),
    (0x116B6, 0x116B6), (0x11930, 0x11930), (0x1193D, 0x1193D), (0x1193F, 0x1193F),
    (0x11941, 0x11941), (0x11A84, 0x11A89), (0x11D46, 0x11D46), (0x11F02, 0x11F02),
    (0x11F41, 0x11F41), (0x16FF0, 0x16FF1), (0x1D127, 0x1D128), (0x1D165, 0x1D166),
    (0x1D16D, 0x1D172), (0xE0000, 0xE0000), (0xE0002, 0xE001F), (0xE0080, 0xE00FF),
    (0xE01F0, 0xE0FFF)]

def ignorableMarks : CodePoints :=
  [(0x34F, 0x34F), (0x17B4, 0x17B5), (0x180B, 0x180D), (0x180F, 0x180F), (0xFE00, 0xFE0F),
    (0xE0100, 0xE01EF)]

def isTifinaghConsonant (char : Char) : Bool :=
  '\u2D31' ≤ char && char ≤ '\u2D65' || char == '\u2D6F'

def letsLettersJoin (char : Char) : Bool := charWidth char == 0 && !joinBreakers.has char

inductive Ending where
  | hebrewLamed
  | bugineseYa
  | bugineseVowelYa
  | tifinaghConsonant
  | tifinaghJoined
  | lisuTone
  | oldTurkicI
  | khmerLetter
  | kiratRaiE
  | kiratRaiAi
deriving DecidableEq

namespace Ending

def ofChar? (char : Char) : Option Ending :=
  if char == '\u05DC' then some hebrewLamed
  else if char == '\u1A10' then some bugineseYa
  else if isTifinaghConsonant char then some tifinaghConsonant
  else if char == '\uA4FC' || char == '\uA4FD' then some lisuTone
  else if char.toNat == 0x10C03 then some oldTurkicI
  else if char.toNat == 0x16D67 then some kiratRaiE
  else if char.toNat == 0x16D68 then some kiratRaiAi
  else if khmerLetters.has char then some khmerLetter
  else none

/-- The columns that a character adds to a ligature that goes on after it, and what has then been
read of the ligature; nothing when it is complete. Some letters join only when a zero width joiner
stands between. -/
def join? (ending : Ending) (joined : Bool) (char : Char) : Option (Int × Option Ending) :=
  match ending with
  | hebrewLamed => if joined && char == '\u05D0' then some (0, none) else none
  | bugineseYa => if joined && char == '\u1A17' then some (0, some bugineseVowelYa) else none
  | bugineseVowelYa => if char == '\u1A15' then some (0, none) else none
  | tifinaghConsonant =>
    if char == '\u2D7F' then some (1, some tifinaghJoined)
    else if joined && isTifinaghConsonant char then some (0, none)
    else none
  | tifinaghJoined => if isTifinaghConsonant char then some (-1, none) else none
  | lisuTone => if '\uA4F8' ≤ char && char ≤ '\uA4FB' then some (0, none) else none
  | oldTurkicI => if joined && char.toNat == 0x10C32 then some (0, none) else none
  | khmerLetter => if char == '\u17D2' then some (-1, none) else none
  | kiratRaiE =>
    if char.toNat == 0x16D63 || char.toNat == 0x16D69 then some (0, none)
    else if char.toNat == 0x16D67 then some (0, some kiratRaiAi)
    else if char.toNat == 0x16D68 then some (1, some kiratRaiE)
    else none
  | kiratRaiAi => if char.toNat == 0x16D63 then some (0, none) else none

end Ending

end SearchFilter.Text
