import SearchFilter.Text.Ligature
import SearchFilter.Text.Pictograph

/-!
The number of terminal columns that a line of text takes. The line is read from its end, because
what a character adds hangs on the characters after it. Main statement: a line of ASCII takes as
many columns as it has characters.
-/

namespace SearchFilter.Text

inductive Follower where
  | other
  | arabicAlef
  | ligature (ending : Ending) (behindJoiner : Bool)
  | skinTone
  | pictograph
  | flagLetter
  | flagLetters
  | joined
  | joinedKeycap
  | joinedFlagLetter
  | joinedFlag
  | joinedFlags
  /-- The end of a flag that is spelled in tags, with the letters and digits read of it. -/
  | joinedTags (letters digits : Nat)
deriving DecidableEq

namespace Follower

def ofChar (char : Char) : Follower :=
  if alefs.has char then arabicAlef
  else if isSkinTone char then skinTone
  else if isFlagLetter char then flagLetter
  else if isPictograph char then pictograph
  else match Ending.ofChar? char with
    | some ending => ligature ending false
    | none => other

def isLigature : Follower → Bool
  | arabicAlef => true
  | ligature _ _ => true
  | _ => false

def isJoined : Follower → Bool
  | joined => true
  | joinedKeycap => true
  | _ => false

/-- The columns of a character in front of the tags of a flag, if it goes with them. A flag has
three to six letters or three digits at its end, and begins with a black flag. -/
def joinTags? (letters digits : Nat) (char : Char) : Option (Int × Follower) :=
  let code := char.toNat
  if 0xE0061 ≤ code ∧ code ≤ 0xE007A ∧ digits = 0 ∧ letters < 6 then
    some (0, joinedTags (letters + 1) 0)
  else if 0xE0030 ≤ code ∧ code ≤ 0xE0039 ∧ digits < 3 ∧ letters ≤ 4 then
    some (0, joinedTags 0 (digits + 1))
  else if code = 0x1F3F4 ∧ (3 ≤ letters ∨ digits = 3) then some (0, pictograph)
  else none

def join? (follower : Follower) (char : Char) : Option (Int × Follower) :=
  let pictographJoiner := if char = zeroWidthJoiner then some (0, joined) else none
  match follower with
  | other => none
  | arabicAlef =>
    if lams.has char then some (0, other)
    else if letsLettersJoin char then some (0, arabicAlef)
    else none
  | ligature ending behindJoiner =>
    if char = zeroWidthJoiner then some (0, ligature ending true)
    else if ignorableMarks.has char then some (0, ligature ending behindJoiner)
    else (ending.join? behindJoiner char).map fun (columns, read) =>
      (columns, (read.map fun ending => ligature ending false).getD other)
  | skinTone => if skinToneBases.has char then some (0, pictograph) else pictographJoiner
  | pictograph => pictographJoiner
  | flagLetter => if isFlagLetter char then some (1, flagLetters) else none
  | flagLetters => if isFlagLetter char then some (1, flagLetters) else pictographJoiner
  | joined =>
    if char == '\u20E3' then some (0, joinedKeycap)
    else if isFlagLetter char then some (1, joinedFlagLetter)
    else if isSkinTone char then some (0, skinTone)
    else if char.toNat == 0xE007F then some (0, joinedTags 0 0)
    else if isPictograph char then some (0, pictograph)
    else none
  | joinedKeycap => none
  | joinedFlagLetter => if isFlagLetter char then some (-1, joinedFlag) else none
  | joinedFlag => if isFlagLetter char then some (3, joinedFlags) else pictographJoiner
  | joinedFlags => if isFlagLetter char then some (-1, joinedFlag) else pictographJoiner
  | joinedTags letters digits => joinTags? letters digits char

end Follower

structure Ahead where
  follower : Follower
  selector : Option Selector
deriving DecidableEq

namespace Ahead

def only (follower : Follower) : Ahead := ⟨follower, none⟩

/-- What remains for a character to which a pictograph selector does not apply: selectors do not
part letters, but they part pictographs. -/
def settled (ahead : Ahead) : Follower :=
  if ahead.selector = some .pictograph && !ahead.follower.isLigature then .other
  else ahead.follower

def select (follower : Follower) (selector : Selector) : Ahead :=
  if follower.isLigature || (selector = .pictograph && follower.isJoined) then
    ⟨follower, some selector⟩
  else ⟨.other, some selector⟩

def step (ahead : Ahead) (char : Char) : Int × Ahead :=
  if ahead.selector = some .pictograph && selectable.has char then
    (if ahead.follower.isJoined then 0 else 2, only .pictograph)
  else if char ≤ '\u00A0' then (1, only .other)
  else match Selector.ofChar? char with
    | some selector => (0, select ahead.settled selector)
    | none =>
      if ahead.selector = some .text && narrowsAsText char then (1, only .other)
      else if ahead.selector = some .fullwidth && isQuotationMark char then (2, only .other)
      else match ahead.settled.join? char with
        | some (columns, follower) => (columns, only follower)
        | none => (charWidth char, only (.ofChar char))

end Ahead

def measure : List Char → Int × Ahead
  | [] => (0, .only .other)
  | char :: rest =>
    let (columns, ahead) := measure rest
    let (added, before) := ahead.step char
    (columns + added, before)

def width (line : List Char) : Nat := (measure line).1.toNat

theorem measure_ascii (line : List Char) (ascii : ∀ char ∈ line, char ≤ '\u00A0') :
    measure line = ((line.length : Int), .only .other) := by
  induction line with
  | nil => rfl
  | cons char rest ih =>
    have first := ascii char List.mem_cons_self
    rw [measure, ih fun other member => ascii other (List.mem_cons_of_mem _ member)]
    simp [Ahead.step, Ahead.only, first]

theorem width_ascii (line : List Char) (ascii : ∀ char ∈ line, char ≤ '\u00A0') :
    width line = line.length := by
  simp [width, measure_ascii line ascii]

end SearchFilter.Text
