import Mathlib.Algebra.Order.Field.Rat
import Mathlib.Data.List.TakeWhile
import Mathlib.Tactic.FieldSimp
import Mathlib.Tactic.Ring
import SearchFilter.Filter.Scalar
import SearchFilter.Proofs.Json5.Numbers

/-!
Decimals as they are spelled, and the rationals that they denote. The plain form of a decimal
denotes the same rational.
-/

namespace SearchFilter.Decimal

open Json5 (takeWhile_append dropWhile_append)

def joined (whole places : List Char) : List Char :=
  whole ++ if places.isEmpty then [] else '.' :: places

def signed (negative : Bool) (chars : List Char) : List Char :=
  if negative then '-' :: chars else chars

structure Spells (digit : Char → Bool) (whole places : List Char) : Prop where
  nonempty : whole ≠ []
  digits : ∀ char ∈ whole ++ places, digit char = true

def magnitude (whole places : List Char) : ℚ :=
  Nat.ofDigitChars 10 (whole ++ places) 0 / 10 ^ places.length

def rational (negative : Bool) (whole places : List Char) : ℚ :=
  if negative then -magnitude whole places else magnitude whole places

/-- An optional minus, ASCII digits, and optionally a point and more digits denote a rational. -/
inductive Denotes : List Char → ℚ → Prop
  | spelled (negative : Bool) {whole places : List Char}
      (spells : Spells Char.isDigit whole places) :
      Denotes (signed negative (joined whole places)) (rational negative whole places)

/-! Parts of a spelled decimal. -/

section Parts

variable {digit : Char → Bool} {whole places : List Char}

theorem Spells.mono {other : Char → Bool} (spells : Spells digit whole places)
    (wider : ∀ char, digit char = true → other char = true) : Spells other whole places :=
  ⟨spells.nonempty, fun char member => wider char (spells.digits char member)⟩

theorem Spells.whole_digits (spells : Spells digit whole places) :
    ∀ char ∈ whole, digit char = true :=
  fun char member => spells.digits char (List.mem_append_left _ member)

theorem Spells.places_digits (spells : Spells digit whole places) :
    ∀ char ∈ places, digit char = true :=
  fun char member => spells.digits char (List.mem_append_right _ member)

theorem Spells.before_point (spells : Spells digit whole places) (point : digit '.' = false) :
    ∀ char ∈ whole, decide (char ≠ '.') = true := by
  intro char member
  have digit := spells.whole_digits char member
  refine decide_eq_true ?_
  rintro rfl
  rw [point] at digit
  cases digit

theorem head?_point (point : digit '.' = false) (places : List Char) :
    ∀ char ∈ (if places.isEmpty then [] else '.' :: places).head?, digit char = false := by
  cases places with
  | nil => simp
  | cons first rest => simpa using point

theorem takeWhile_joined (all : ∀ char ∈ whole, digit char = true) (point : digit '.' = false) :
    (joined whole places).takeWhile digit = whole :=
  takeWhile_append all (head?_point point places)

theorem dropWhile_joined (all : ∀ char ∈ whole, digit char = true) (point : digit '.' = false) :
    (joined whole places).dropWhile digit = if places.isEmpty then [] else '.' :: places :=
  dropWhile_append all (head?_point point places)

theorem drop_dropWhile_joined (all : ∀ char ∈ whole, digit char = true)
    (point : digit '.' = false) : ((joined whole places).dropWhile digit).drop 1 = places := by
  rw [dropWhile_joined all point]
  cases places <;> rfl

theorem Spells.head?_joined (spells : Spells digit whole places) {char : Char}
    (other : digit char = false) : (joined whole places).head? ≠ some char := by
  have first := spells.whole_digits
  cases whole with
  | nil => exact absurd rfl spells.nonempty
  | cons start rest =>
      intro same
      obtain rfl : start = char := by simpa [joined] using same
      have digit := first start List.mem_cons_self
      rw [other] at digit
      cases digit

theorem unsigned_signed (negative : Bool) {chars : List Char} (plain : chars.head? ≠ some '-') :
    Number.unsigned (signed negative chars) = (negative, chars) := by
  cases negative with
  | true => rfl
  | false =>
      rw [signed, if_neg Bool.false_ne_true, Number.unsigned.eq_def]
      split
      · simp at plain
      · rfl

theorem Spells.unsigned_signed (spells : Spells digit whole places) (minus : digit '-' = false)
    (negative : Bool) :
    Number.unsigned (signed negative (joined whole places)) = (negative, joined whole places) :=
  Decimal.unsigned_signed negative (spells.head?_joined minus)

theorem Spells.point_mem_iff (spells : Spells digit whole places) (point : digit '.' = false)
    (negative : Bool) : '.' ∈ signed negative (joined whole places) ↔ places ≠ [] := by
  have absent : '.' ∉ whole := fun member =>
    of_decide_eq_true (spells.before_point point '.' member) rfl
  have inJoined : '.' ∈ joined whole places ↔ places ≠ [] := by
    cases places <;> simp [joined, absent]
  cases negative <;> simp [signed, inJoined]

end Parts

theorem Denotes.unique {chars : List Char} {first second : ℚ} (denotes : Denotes chars first)
    (other : Denotes chars second) : first = second := by
  cases denotes with
  | @spelled negative whole places spells =>
      generalize same : signed negative (joined whole places) = chars at other
      cases other with
      | @spelled negative' whole' places' spells' =>
          have unsigned := congrArg Number.unsigned same
          rw [spells.unsigned_signed rfl, spells'.unsigned_signed rfl] at unsigned
          obtain ⟨rfl, joined⟩ := Prod.mk.inj unsigned
          have wholes := congrArg (List.takeWhile Char.isDigit) joined
          have fractions := congrArg (fun chars => (chars.dropWhile Char.isDigit).drop 1) joined
          rw [takeWhile_joined spells.whole_digits rfl, takeWhile_joined spells'.whole_digits rfl]
            at wholes
          rw [drop_dropWhile_joined spells.whole_digits rfl,
            drop_dropWhile_joined spells'.whole_digits rfl] at fractions
          rw [wholes, fractions]

/-! Plain forms. -/

def plainWhole (whole : List Char) : List Char :=
  if (whole.dropWhile (· == '0')).isEmpty then ['0'] else whole.dropWhile (· == '0')

def plainPlaces (places : List Char) : List Char := (places.reverse.dropWhile (· == '0')).reverse

section Plain

variable {whole places : List Char}

theorem plainForm_signed (spells : Spells Char.isDigit whole places) (negative : Bool) :
    Number.plainForm (signed negative (joined whole places)) =
      signed negative (joined (plainWhole whole) (plainPlaces places)) := by
  have before := spells.before_point rfl
  rw [Number.plainForm, spells.unsigned_signed rfl]
  dsimp only
  rw [takeWhile_joined before rfl, drop_dropWhile_joined before rfl]
  rfl

theorem ofDigitChars_dropWhile (whole : List Char) :
    Nat.ofDigitChars 10 (whole.dropWhile (· == '0')) 0 = Nat.ofDigitChars 10 whole 0 := by
  induction whole with
  | nil => rfl
  | cons first rest ih =>
      by_cases zero : first = '0'
      · subst zero
        rw [List.dropWhile_cons_of_pos rfl, ih]
        rfl
      · rw [List.dropWhile_cons_of_neg (by simpa using zero)]

theorem ofDigitChars_plainWhole (whole : List Char) :
    Nat.ofDigitChars 10 (plainWhole whole) 0 = Nat.ofDigitChars 10 whole 0 := by
  rw [← ofDigitChars_dropWhile whole, plainWhole]
  split
  · next none => rw [List.isEmpty_iff.mp none]; rfl
  · rfl

theorem exists_plainPlaces (places : List Char) :
    ∃ zeros, places = plainPlaces places ++ List.replicate zeros '0' := by
  refine ⟨(places.reverse.takeWhile (· == '0')).length, ?_⟩
  have zeros : places.reverse.takeWhile (· == '0') =
      List.replicate (places.reverse.takeWhile (· == '0')).length '0' := by
    refine List.eq_replicate_of_mem ?_
    intro char member
    simpa using List.mem_takeWhile_imp member
  have split := List.takeWhile_append_dropWhile (p := (· == '0')) (l := places.reverse)
  rw [zeros] at split
  have whole := congrArg List.reverse split
  rw [List.reverse_append, List.reverse_replicate, List.reverse_reverse] at whole
  exact whole.symm

theorem magnitude_plain (whole places : List Char) :
    magnitude (plainWhole whole) (plainPlaces places) = magnitude whole places := by
  obtain ⟨zeros, filled⟩ := exists_plainPlaces places
  have digits : Nat.ofDigitChars 10 (whole ++ places) 0 =
      10 ^ zeros * Nat.ofDigitChars 10 (plainWhole whole ++ plainPlaces places) 0 := by
    conv => lhs; rw [filled]
    rw [← List.append_assoc, Nat.ofDigitChars_append, Nat.ofDigitChars_replicate_zero,
      Nat.ofDigitChars_append, Nat.ofDigitChars_append, ofDigitChars_plainWhole]
  have length : places.length = (plainPlaces places).length + zeros := by
    conv => lhs; rw [filled]
    rw [List.length_append, List.length_replicate]
  rw [magnitude, magnitude, digits, length, pow_add]
  push_cast
  field_simp

theorem Spells.plain (spells : Spells Char.isDigit whole places) :
    Spells Char.isDigit (plainWhole whole) (plainPlaces places) := by
  refine ⟨?_, ?_⟩
  · rw [plainWhole]
    split
    · simp
    · next some => simpa using some
  · intro char member
    rcases List.mem_append.mp member with before | after
    · rw [plainWhole] at before
      split at before
      · rw [List.mem_singleton.mp before]
        rfl
      · exact spells.whole_digits char (List.dropWhile_sublist _ |>.subset before)
    · obtain ⟨zeros, filled⟩ := exists_plainPlaces places
      refine spells.places_digits char ?_
      rw [filled]
      exact List.mem_append_left _ after

end Plain

/-- Leaving out zeros does not change what a decimal denotes. -/
theorem Denotes.plainForm {chars : List Char} {value : ℚ} (denotes : Denotes chars value) :
    Denotes (Number.plainForm chars) value := by
  cases denotes with
  | @spelled negative whole places spells =>
      rw [plainForm_signed spells, rational, ← magnitude_plain whole places]
      exact .spelled negative spells.plain

end SearchFilter.Decimal
