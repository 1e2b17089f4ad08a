import Mathlib.Algebra.Group.Nat.Defs
import Mathlib.Data.List.Perm.Basic
import SearchFilter.Bar.Basic

/-!
Numbers in the ids of groups. The id of a number spells that number, so a number above all that are
spelled gives an id that no group has. The counter is above them until it overflows, and then it is
zero.
-/

namespace SearchFilter.Bar

theorem spelled?_idOf (number : UInt64) : spelled? (idOf number) = some number.toNat := by
  have digits : (idOf number).toList = idStem.toList ++ Nat.toDigits 10 number.toNat := by
    rw [idOf, String.toList_append, Text.digits, String.toList_ofList]
  have numeric : ∀ char ∈ Nat.toDigits 10 number.toNat, char.isDigit :=
    fun char member => Nat.isDigit_of_mem_toDigits (by decide) (by decide) member
  have nonempty : Nat.toDigits 10 number.toNat ≠ [] := Nat.toDigits_ne_nil
  have value := Nat.ofDigitChars_ten_toDigits (n := number.toNat)
  rw [spelled?, digits, Scan.after?_append]
  generalize Nat.toDigits 10 number.toNat = chars at numeric nonempty value ⊢
  have read : (!chars.isEmpty && chars.all Char.isDigit) = true := by
    simpa [nonempty] using numeric
  change (if _ then some _ else none) = _
  split
  · rename_i signed
    exact absurd (numeric '+' List.mem_cons_self) (by decide)
  · rw [if_pos read, value]

theorem numberOf?_idOf (number : UInt64) : numberOf? (idOf number) = some number.toNat := by
  have small : number.toNat < 0x10000000000000000 := number.toNat_lt
  rw [numberOf?, spelled?_idOf, Option.filter_some, if_pos (decide_eq_true small)]

variable {groups : List Group} {group : Group} {number : Nat}

theorem le_largestNumber (member : group ∈ groups) (spelled : numberOf? group.id = some number) :
    number ≤ largestNumber groups := by
  have listed : number ∈ groups.filterMap fun group => numberOf? group.id :=
    List.mem_filterMap.mpr ⟨group, member, spelled⟩
  have below := List.le_max?_getD_of_mem (k := 0) listed
  rw [largestNumber, List.foldl_max]
  omega

theorem largestNumber_eq_zero_or (groups : List Group) :
    largestNumber groups = 0 ∨
      ∃ group ∈ groups, numberOf? group.id = some (largestNumber groups) := by
  rw [largestNumber, List.foldl_max, Nat.zero_max]
  cases largest : (groups.filterMap fun group => numberOf? group.id).max? with
  | none => exact .inl rfl
  | some number => exact .inr (List.mem_filterMap.mp (List.max?_mem largest))

theorem freshNumber_perm {first second : List Group} (same : first.Perm second) :
    freshNumber first = freshNumber second := by
  rw [freshNumber, freshNumber, largestNumber, largestNumber, (same.filterMap _).foldl_op_eq]

theorem largestNumber_lt (groups : List Group) : largestNumber groups < 2 ^ 64 := by
  rcases largestNumber_eq_zero_or groups with none | ⟨group, -, spelled⟩
  · rw [none]
    exact Nat.two_pow_pos 64
  · exact of_decide_eq_true (Option.filter_eq_some_iff.mp spelled).2

theorem toNat_add_one {counter : UInt64} (whole : counter + 1 ≠ 0) :
    (counter + 1).toNat = counter.toNat + 1 := by
  have bound := counter.toNat_lt
  have sum : (counter + 1).toNat = (counter.toNat + 1) % 2 ^ 64 := UInt64.toNat_add counter 1
  have nonzero : (counter + 1).toNat ≠ 0 := fun zero => whole (UInt64.toNat_inj.mp zero)
  omega

theorem toNat_freshNumber (whole : freshNumber groups ≠ 0) :
    (freshNumber groups).toNat = largestNumber groups + 1 := by
  rw [freshNumber, toNat_add_one whole, UInt64.toNat_ofNat_of_lt' (largestNumber_lt groups)]

/-- The counter overflows behind the largest number of 64 bits, and there alone. -/
theorem freshNumber_eq_zero_iff :
    freshNumber groups = 0 ↔ ∃ group ∈ groups, numberOf? group.id = some (2 ^ 64 - 1) := by
  have bound := largestNumber_lt groups
  have sum : (freshNumber groups).toNat = (largestNumber groups + 1) % 2 ^ 64 := by
    rw [freshNumber, UInt64.toNat_add, UInt64.toNat_ofNat_of_lt' bound]
    rfl
  rw [← UInt64.toNat_inj, sum]
  constructor
  · intro zero
    rcases largestNumber_eq_zero_or groups with none | ⟨group, member, spelled⟩
    · rw [none] at zero
      exact absurd zero (by decide)
    · refine ⟨group, member, spelled.trans (congrArg some ?_)⟩
      change (largestNumber groups + 1) % 2 ^ 64 = 0 at zero
      omega
  · rintro ⟨group, member, spelled⟩
    have largest := le_largestNumber member spelled
    change (largestNumber groups + 1) % 2 ^ 64 = 0
    omega

end SearchFilter.Bar
