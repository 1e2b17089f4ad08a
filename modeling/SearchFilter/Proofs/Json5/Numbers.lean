import SearchFilter.Json5.Literal
import SearchFilter.Proofs.Decimal.ReadBack

/-!
Written numbers read back. The literal of an integer has neither a point nor an exponent, and that
of a double has at least one of them.
-/

namespace SearchFilter.Json5

open Decimal

def Closes (rest : List Char) : Prop :=
  ∀ char ∈ rest.head?, char = ',' ∨ char = ']' ∨ char = '}'

/-! Scans. -/

theorem takeWhile_append {test : Char → Bool} {chars rest : List Char}
    (all : ∀ char ∈ chars, test char = true) (stops : ∀ char ∈ rest.head?, test char = false) :
    (chars ++ rest).takeWhile test = chars := by
  rw [List.takeWhile_append_of_pos all]
  cases rest with
  | nil => simp
  | cons char rest => simp [stops char rfl]

theorem dropWhile_append {test : Char → Bool} {chars rest : List Char}
    (all : ∀ char ∈ chars, test char = true) (stops : ∀ char ∈ rest.head?, test char = false) :
    (chars ++ rest).dropWhile test = rest := by
  rw [List.dropWhile_append_of_pos all]
  cases rest with
  | nil => rfl
  | cons char rest => simp [stops char rfl]

theorem isDigit_toDigits {value : Nat} : ∀ char ∈ Nat.toDigits 10 value, char.isDigit = true :=
  fun _ member => Nat.isDigit_of_mem_toDigits (by decide) (by decide) member

theorem head?_toDigits_append {value : Nat} (positive : 0 < value) (rest : List Char) :
    (Nat.toDigits 10 value ++ rest).head? ≠ some '0' := by
  induction value using Nat.strongRecOn generalizing rest with
  | ind value ih =>
      by_cases short : value < 10
      · rw [Nat.toDigits_of_lt_base short]
        simp [Nat.digitChar_eq_zero, Nat.ne_of_gt positive]
      · have base : 1 < 10 := by decide
        rw [Nat.toDigits_of_base_le base (Nat.le_of_not_lt short), List.append_assoc]
        exact ih (value / 10) (by omega) (by omega) _

theorem ofDigitChars_toDigits (value : Nat) :
    Nat.ofDigitChars 10 (Nat.toDigits 10 value) 0 = value :=
  Nat.ofDigitChars_toDigits (by decide) (by decide)

/-! The number of a literal. -/

def doubleJson (negative : Bool) (digits : Nat) (exponent : Int) : Json :=
  (((Double.ofDecimal? negative digits exponent).map Number.double).map Json.number).getD
    .unrepresentable

structure Whole (chars : List Char) : Prop where
  digits : ∀ char ∈ chars, char.isDigit = true
  nonempty : chars ≠ []
  plain : chars.length = 1 ∨ chars.head? ≠ some '0'

section

variable {whole places rest : List Char} {exponent : Int}

theorem Whole.toDigits (value : Nat) : Whole (Nat.toDigits 10 value) := by
  refine ⟨isDigit_toDigits, Nat.toDigits_ne_nil, ?_⟩
  rcases Nat.eq_zero_or_pos value with rfl | positive
  · exact .inl rfl
  · have first := head?_toDigits_append positive []
    rw [List.append_nil] at first
    exact .inr first

theorem Whole.accepted (form : Whole whole) (places : List Char) :
    ¬ (whole.isEmpty && places.isEmpty || whole.length ≠ 1 && whole.head? == some '0') = true := by
  have nonempty := form.nonempty
  rcases form.plain with single | plain
  · simp [nonempty, single]
  · simp [nonempty, plain]

theorem decimal?_point (negative : Bool) (form : Whole whole)
    (fraction : ∀ char ∈ places, char.isDigit = true)
    (ends : ∀ char ∈ rest.head?, char.isDigit = false) (read : exponent? rest = some exponent) :
    decimal? negative (whole ++ '.' :: (places ++ rest)) =
      some (doubleJson negative (Nat.ofDigitChars 10 (whole ++ places) 0)
        (exponent - places.length)) := by
  have point : ∀ char ∈ ('.' :: (places ++ rest)).head?, char.isDigit = false := by simp
  rw [decimal?, takeWhile_append form.digits point, dropWhile_append form.digits point]
  simp only [takeWhile_append fraction ends, dropWhile_append fraction ends]
  rw [if_neg (form.accepted places), read]
  rfl

theorem decimal?_mark (negative : Bool) (form : Whole whole)
    (read : exponent? ('e' :: rest) = some exponent) :
    decimal? negative (whole ++ 'e' :: rest) =
      some (doubleJson negative (Nat.ofDigitChars 10 whole 0) exponent) := by
  have mark : ∀ char ∈ ('e' :: rest).head?, char.isDigit = false := by simp
  rw [decimal?, takeWhile_append form.digits mark, dropWhile_append form.digits mark]
  refine (if_neg (form.accepted [])).trans ?_
  change (exponent? ('e' :: rest)).map
    (fun exponent => doubleJson negative (Nat.ofDigitChars 10 (whole ++ []) 0) (exponent - 0)) = _
  rw [read, List.append_nil, Option.map_some, Int.sub_zero]

theorem decimal?_toDigits (negative : Bool) (value : Nat) :
    decimal? negative (Nat.toDigits 10 value) =
      some (((Number.ofInteger? negative value).map Json.number).getD .unrepresentable) := by
  have form := Whole.toDigits value
  have left : (Nat.toDigits 10 value ++ []).takeWhile Char.isDigit = Nat.toDigits 10 value :=
    takeWhile_append form.digits (by simp)
  have after : (Nat.toDigits 10 value ++ []).dropWhile Char.isDigit = [] :=
    dropWhile_append form.digits (by simp)
  rw [List.append_nil] at left after
  rw [decimal?, left, after]
  dsimp only
  rw [if_neg (form.accepted []), List.append_nil, ofDigitChars_toDigits]
  rfl

end

/-! Literals in a text. -/

/-- A literal that begins with a digit, and the document that it stands for. -/
structure Literal (negative : Bool) (chars : List Char) (json : Json) : Prop where
  all : ∀ char ∈ chars, inLiteral char = true
  digit : ∃ first more, chars = first :: more ∧ first.isDigit = true
  read : decimal? negative chars = some json

theorem inLiteral_of_isDigit {char : Char} (digit : char.isDigit = true) :
    inLiteral char = true := by
  simp [inLiteral, digit]

theorem Literal.unsigned? {negative : Bool} {chars rest : List Char} {json : Json}
    (literal : Literal negative chars json) (closes : Closes rest) :
    unsigned? negative (chars ++ rest) = some (json, rest) := by
  obtain ⟨all, ⟨first, more, rfl, digit⟩, read⟩ := literal
  have stops : ∀ char ∈ rest.head?, inLiteral char = false := by
    intro char last
    rcases closes char last with rfl | rfl | rfl <;> rfl
  have taken := takeWhile_append all stops
  have left := dropWhile_append all stops
  have follows : ∀ second tail, more ++ rest = second :: tail → second ≠ 'x' ∧ second ≠ 'X' := by
    intro second tail split
    have known : inLiteral second = true ∨ second = ',' ∨ second = ']' ∨ second = '}' := by
      cases more with
      | nil =>
          have same : rest = second :: tail := split
          exact .inr (closes second (by rw [same]; rfl))
      | cons next more =>
          obtain ⟨rfl, -⟩ := List.cons.inj split
          exact .inl (all next (by simp))
    constructor
    · rintro rfl
      revert known
      decide
    · rintro rfl
      revert known
      decide
  have word :
      Scan.after? ['I', 'n', 'f', 'i', 'n', 'i', 't', 'y'] (first :: more ++ rest) = none := by
    refine if_neg ?_
    rintro rfl
    revert digit
    decide
  rw [Json5.unsigned?.eq_def, word]
  dsimp only
  split
  · rename_i after same
    obtain ⟨rfl, -⟩ := List.cons.inj same
    exact absurd digit (by decide)
  · rename_i after same
    exact absurd rfl (follows 'x' after (List.cons.inj same).2).1
  · rename_i after same
    exact absurd rfl (follows 'X' after (List.cons.inj same).2).2
  · rw [taken, left, read]
    simp [digit]

theorem Whole.literal {negative : Bool} {whole after : List Char} {json : Json}
    (form : Whole whole) (all : ∀ char ∈ after, inLiteral char = true)
    (read : decimal? negative (whole ++ after) = some json) :
    Literal negative (whole ++ after) json := by
  refine ⟨?_, ?_, read⟩
  · intro char member
    rcases List.mem_append.mp member with digit | later
    · exact inLiteral_of_isDigit (form.digits char digit)
    · exact all char later
  · cases whole with
    | nil => exact absurd rfl form.nonempty
    | cons first more => exact ⟨first, more ++ after, rfl, form.digits first List.mem_cons_self⟩

theorem literal_toDigits {negative : Bool} {value : Nat} {number : Number}
    (read : Number.ofInteger? negative value = some number) :
    Literal negative (Nat.toDigits 10 value) (.number number) := by
  have literal : decimal? negative (Nat.toDigits 10 value ++ []) = some (.number number) := by
    rw [List.append_nil, decimal?_toDigits, read]
    rfl
  have whole := (Whole.toDigits value).literal (by simp) literal
  rwa [List.append_nil] at whole

/-! Digits in their place. -/

theorem Whole.toDigits_zeros {digits zeros : Nat} (zero : digits = 0 → zeros = 0) :
    Whole (Nat.toDigits 10 digits ++ List.replicate zeros '0') := by
  refine ⟨?_, by simp [Nat.toDigits_ne_nil], ?_⟩
  · intro char member
    rcases List.mem_append.mp member with digit | filling
    · exact isDigit_toDigits char digit
    · rw [(List.mem_replicate.mp filling).2]
      rfl
  · rcases Nat.eq_zero_or_pos digits with rfl | positive
    · rw [zero rfl]
      exact .inl rfl
    · exact .inr (head?_toDigits_append positive _)

section Padded

variable {digits places : Nat} {padded : List Char}
  (filled : padded = List.replicate (places + 1 - (Nat.toDigits 10 digits).length) '0' ++
    Nat.toDigits 10 digits)

include filled

theorem isDigit_padded : ∀ char ∈ padded, char.isDigit = true := by
  intro char member
  rw [filled] at member
  rcases List.mem_append.mp member with filling | digit
  · rw [(List.mem_replicate.mp filling).2]
    rfl
  · exact isDigit_toDigits char digit

theorem ofDigitChars_padded : Nat.ofDigitChars 10 padded 0 = digits := by
  rw [filled, Nat.ofDigitChars_append, Nat.ofDigitChars_replicate_zero, Nat.mul_zero,
    ofDigitChars_toDigits]

theorem length_padded : padded.length =
    places + 1 - (Nat.toDigits 10 digits).length + (Nat.toDigits 10 digits).length := by
  rw [filled, List.length_append, List.length_replicate]

theorem length_drop_padded : (padded.drop (padded.length - places)).length = places := by
  have length := length_padded filled
  rw [List.length_drop]
  omega

theorem Whole.take_padded (positive : 0 < digits) :
    Whole (padded.take (padded.length - places)) := by
  have length := length_padded filled
  refine ⟨fun char member => isDigit_padded filled char (List.mem_of_mem_take member), ?_, ?_⟩
  · refine List.ne_nil_of_length_pos ?_
    rw [List.length_take]
    omega
  · by_cases long : places < (Nat.toDigits 10 digits).length
    · have none : places + 1 - (Nat.toDigits 10 digits).length = 0 := by omega
      rw [none] at filled
      rw [List.head?_take, if_neg (by omega), filled]
      have first := head?_toDigits_append positive []
      rw [List.append_nil] at first
      exact .inr first
    · refine .inl ?_
      rw [List.length_take]
      omega

end Padded

/-! The forms of a double. -/

theorem exponent?_signed (exponent : Int) :
    exponent? ('e' :: (if 0 ≤ exponent then '+' else '-') :: Nat.toDigits 10 exponent.natAbs) =
      some exponent := by
  have value := ofDigitChars_toDigits exponent.natAbs
  have digits : (Nat.toDigits 10 exponent.natAbs).all Char.isDigit = true :=
    List.all_eq_true.mpr isDigit_toDigits
  by_cases sign : 0 ≤ exponent
  · have same : (exponent.natAbs : Int) = exponent := by omega
    rw [if_pos sign]
    refine (if_pos (by simp [digits])).trans (congrArg some ?_)
    exact (congrArg Nat.cast value).trans same
  · have same : -(exponent.natAbs : Int) = exponent := by omega
    rw [if_neg sign]
    refine (if_pos (by simp [digits])).trans (congrArg some ?_)
    exact (congrArg (fun value : Nat => -(value : Int)) value).trans same

theorem inLiteral_exponent (exponent : Int) :
    ∀ char ∈ 'e' :: (if 0 ≤ exponent then '+' else '-') :: Nat.toDigits 10 exponent.natAbs,
      inLiteral char = true := by
  intro char member
  rcases List.mem_cons.mp member with rfl | member
  · rfl
  · rcases List.mem_cons.mp member with rfl | digit
    · split <;> rfl
    · exact inLiteral_of_isDigit (isDigit_toDigits char digit)

variable {decimal : Numeral} {negative : Bool} {double : Double}

theorem doubleJson_of_read? (read : decimal.read? negative = some double) :
    doubleJson negative decimal.digits decimal.exponent = .number (.double double) := by
  rw [Numeral.read?] at read
  rw [doubleJson, read]
  rfl

theorem doubleJson_mul_pow (negative : Bool) (digits zeros : Nat) (exponent : Int) :
    doubleJson negative (10 ^ zeros * digits) (exponent - zeros) =
      doubleJson negative digits exponent := by
  rw [doubleJson, doubleJson]
  rcases Nat.eq_zero_or_pos digits with rfl | positive
  · rw [Nat.mul_zero, Double.ofDecimal?_zero, Double.ofDecimal?_zero]
  · rw [Double.ofDecimal?_mul_pow negative positive]

theorem literal_integral (negative : Bool) (digits zeros : Nat) (zero : digits = 0 → zeros = 0) :
    Literal negative (Nat.toDigits 10 digits ++ List.replicate zeros '0' ++ ['.', '0'])
      (doubleJson negative digits zeros) := by
  have form := Whole.toDigits_zeros zero
  have literal : decimal? negative
      (Nat.toDigits 10 digits ++ List.replicate zeros '0' ++ '.' :: (['0'] ++ [])) = _ :=
    decimal?_point negative form (by simp) (by simp) rfl
  have value :
      Nat.ofDigitChars 10 (Nat.toDigits 10 digits ++ List.replicate zeros '0' ++ ['0']) 0 =
        10 ^ (zeros + 1) * digits := by
    rw [List.append_assoc, ← List.replicate_succ', Nat.ofDigitChars_append, ofDigitChars_toDigits,
      Nat.ofDigitChars_replicate_zero]
  have exponent : (0 : Int) - (1 : Nat) = zeros - (zeros + 1 : Nat) := by omega
  rw [value] at literal
  refine form.literal (by simp [inLiteral]) (literal.trans (congrArg some ?_))
  rw [← doubleJson_mul_pow negative digits (zeros + 1), ← exponent]
  rfl

theorem literal_fraction (negative : Bool) {digits : Nat} (places : Nat) (positive : 0 < digits)
    {padded : List Char}
    (filled : padded = List.replicate (places + 1 - (Nat.toDigits 10 digits).length) '0' ++
      Nat.toDigits 10 digits) :
    Literal negative
      (padded.take (padded.length - places) ++ '.' :: padded.drop (padded.length - places))
      (doubleJson negative digits (-places)) := by
  have all := isDigit_padded filled
  have form := Whole.take_padded filled positive
  have literal : decimal? negative (padded.take (padded.length - places) ++
      '.' :: (padded.drop (padded.length - places) ++ [])) = _ :=
    decimal?_point negative form (fun char member => all char (List.mem_of_mem_drop member))
      (by simp) rfl
  have exponent : (0 : Int) - ((padded.drop (padded.length - places)).length : Nat) = -places := by
    rw [length_drop_padded filled, Int.zero_sub]
  rw [List.take_append_drop, ofDigitChars_padded filled, exponent, List.append_nil] at literal
  refine form.literal ?_ literal
  intro char member
  rcases List.mem_cons.mp member with rfl | digit
  · rfl
  · exact inLiteral_of_isDigit (all char (List.mem_of_mem_drop digit))

theorem literal_positional (read : decimal.read? negative = some double)
    (zero : decimal.digits = 0 → decimal.exponent = 0) :
    Literal negative (decimal.positional ['.', '0']) (.number (.double double)) := by
  rw [← doubleJson_of_read? read, Numeral.positional]
  by_cases integral : 0 ≤ decimal.exponent
  · have exponent : (decimal.exponent.toNat : Int) = decimal.exponent := by omega
    have literal := literal_integral negative decimal.digits decimal.exponent.toNat
      (fun none => by rw [zero none]; rfl)
    rw [exponent] at literal
    rw [if_pos integral]
    exact literal
  · have exponent : -((-decimal.exponent).toNat : Int) = decimal.exponent := by omega
    have positive : 0 < decimal.digits := by
      refine Nat.pos_of_ne_zero fun none => integral ?_
      exact Int.le_of_eq (zero none).symm
    have literal := literal_fraction negative (-decimal.exponent).toNat positive rfl
    rw [exponent] at literal
    rw [if_neg integral]
    exact literal

theorem literal_scientific (read : decimal.read? negative = some double) :
    Literal negative decimal.scientific (.number (.double double)) := by
  have value := ofDigitChars_toDigits decimal.digits
  have digits : ∀ char ∈ Nat.toDigits 10 decimal.digits, char.isDigit = true := isDigit_toDigits
  have signed := exponent?_signed decimal.leading
  have leading : decimal.leading =
      decimal.exponent + (Nat.toDigits 10 decimal.digits).length - 1 := rfl
  have nonempty : Nat.toDigits 10 decimal.digits ≠ [] := Nat.toDigits_ne_nil
  have exponent := inLiteral_exponent decimal.leading
  rw [← doubleJson_of_read? read, Numeral.scientific]
  generalize Nat.toDigits 10 decimal.digits = chars at value digits leading nonempty
  match chars with
  | [] => exact absurd rfl nonempty
  | [first] =>
      have form : Whole [first] := ⟨digits, by simp, .inl rfl⟩
      have same : decimal.leading = decimal.exponent := by simpa using leading
      have literal := form.literal exponent (decimal?_mark negative form signed)
      rw [value] at literal
      rw [← same]
      exact literal
  | first :: second :: rest =>
      have single : ∀ char ∈ [first], char.isDigit = true := by
        intro char member
        exact digits char (List.mem_singleton.mp member ▸ List.mem_cons_self)
      have form : Whole [first] := ⟨single, by simp, .inl rfl⟩
      have fraction : ∀ char ∈ second :: rest, char.isDigit = true :=
        fun char member => digits char (List.mem_cons_of_mem first member)
      have same : decimal.leading - (second :: rest).length = decimal.exponent := by
        rw [List.length_cons, List.length_cons] at leading
        rw [List.length_cons]
        omega
      have read := decimal?_point negative form fraction (by simp) signed
      rw [same] at read
      rw [← value]
      refine form.literal ?_ read
      intro char member
      rcases List.mem_cons.mp member with rfl | member
      · rfl
      · rcases List.mem_append.mp member with digit | later
        · exact inLiteral_of_isDigit (fraction char digit)
        · exact exponent char later

/-! Numbers in a text. -/

theorem shortest_zero (tie : Tie) (none : (double.shortest tie).digits = 0) :
    (double.shortest tie).exponent = 0 := by
  have read := double.shortest_reads_back tie
  rw [Numeral.read?, none, Double.ofDecimal?_zero] at read
  have bits : double.bits = 0 := (congrArg Double.bits (Option.some.inj read)).symm
  rw [Double.shortest, if_pos bits]

theorem Literal.number? {chars rest : List Char} {json : Json}
    (literal : Literal negative chars json) (closes : Closes rest) :
    number? ((if negative then '-' :: chars else chars) ++ rest) = some (json, rest) := by
  have read := literal.unsigned? closes
  cases negative with
  | true => exact read
  | false =>
      obtain ⟨first, more, rfl, digit⟩ := literal.digit
      simp only [Bool.false_eq_true, if_false]
      rw [Json5.number?.eq_def]
      split
      · rename_i after same
        obtain ⟨rfl, -⟩ := List.cons.inj same
        exact absurd digit (by decide)
      · rename_i after same
        obtain ⟨rfl, -⟩ := List.cons.inj same
        exact absurd digit (by decide)
      · exact read

theorem literal_chars (number : Number) :
    ∃ negative chars, number.chars = (if negative then '-' :: chars else chars) ∧
      Literal negative chars (.number number) := by
  cases number with
  | integer value fits =>
      have same : (if decide (value < 0) then -(value.natAbs : Int) else value.natAbs) = value := by
        simp only [decide_eq_true_eq]
        split <;> omega
      have read : Number.ofInteger? (value < 0) value.natAbs = some (.integer value fits) := by
        rw [Number.ofInteger?, same, Number.ofInt?, dif_pos fits]
        rfl
      refine ⟨_, _, ?_, literal_toDigits read⟩
      simp only [decide_eq_true_eq]
      rfl
  | double double =>
      have read := double.shortest_reads_back .toEven
      have literal : Literal double.negative
          (if Layout.json.inPlace (double.shortest .toEven).leading then
            (double.shortest .toEven).positional ['.', '0']
          else (double.shortest .toEven).scientific) (.number (.double double)) := by
        split
        · exact literal_positional read (shortest_zero .toEven)
        · exact literal_scientific read
      exact ⟨_, _, rfl, literal⟩

theorem number?_chars (number : Number) {rest : List Char} (closes : Closes rest) :
    number? (number.chars ++ rest) = some (.number number, rest) := by
  obtain ⟨negative, chars, same, literal⟩ := literal_chars number
  rw [same]
  exact literal.number? closes

theorem head_chars (number : Number) :
    ∃ first more, number.chars = first :: more ∧ (first.isDigit = true ∨ first = '-') := by
  obtain ⟨negative, chars, same, literal⟩ := literal_chars number
  obtain ⟨first, more, rfl, digit⟩ := literal.digit
  cases negative with
  | true => exact ⟨_, _, same, .inr rfl⟩
  | false => exact ⟨_, _, same, .inl digit⟩

/-- What holds of digits and of five other characters holds of all that a number is written with. -/
theorem forall_mem_chars {holds : Char → Prop} (digits : ∀ char, char.isDigit = true → holds char)
    (others : holds '+' ∧ holds '-' ∧ holds '.' ∧ holds 'e' ∧ holds 'E') (number : Number) :
    ∀ char ∈ number.chars, holds char := by
  obtain ⟨plus, minus, point, small, large⟩ := others
  obtain ⟨negative, chars, same, literal⟩ := literal_chars number
  have unsigned : ∀ char ∈ chars, holds char := by
    intro char member
    have known := literal.all char member
    simp only [inLiteral, Bool.or_eq_true, beq_iff_eq] at known
    rcases known with ((((digit | rfl) | rfl) | rfl) | rfl) | rfl
    · exact digits char digit
    all_goals assumption
  rw [same]
  cases negative with
  | true => exact List.forall_mem_cons.mpr ⟨minus, unsigned⟩
  | false => exact unsigned

end SearchFilter.Json5
