import SearchFilter.Json.Printer
import SearchFilter.Proofs.Json5.Numbers

/-!
Documents that are written on one line. Whatever their texts and keys are, the compact form has no
control characters, and so no line ends inside it.
-/

namespace SearchFilter

def Text.Visible (chars : List Char) : Prop := ∀ char ∈ chars, 0x20 ≤ char.toNat

instance (chars : List Char) : Decidable (Text.Visible chars) :=
  List.decidableBAll _ chars

namespace Text.Visible

variable {chars rest : List Char} {char : Char}

theorem cons_iff : Visible (char :: chars) ↔ 0x20 ≤ char.toNat ∧ Visible chars :=
  List.forall_mem_cons

theorem append_iff : Visible (chars ++ rest) ↔ Visible chars ∧ Visible rest :=
  List.forall_mem_append

theorem feed_not_mem (visible : Visible chars) : '\n' ∉ chars :=
  fun member => absurd (visible '\n' member) (by decide)

end Text.Visible

open Text (Visible)

theorem Number.visible_chars (number : Number) : Visible number.chars := by
  refine Json5.forall_mem_chars ?_ (by decide) number
  intro char digit
  have least : '0'.toNat ≤ char.toNat := (Char.isDigit_iff_toNat.mp digit).1
  exact Nat.le_trans (by decide) least

namespace Json

theorem visible_hex : ∀ code < 0x20,
    0x20 ≤ (Nat.digitChar (code / 16)).toNat ∧ 0x20 ≤ (Nat.digitChar (code % 16)).toNat := by
  decide

theorem visible_escaped (char : Char) : Visible (escaped char) := by
  simp only [escaped, beq_iff_eq]
  iterate 7
    split
    · decide
  split
  · next control =>
    obtain ⟨high, low⟩ := visible_hex char.toNat control
    simp only [Visible.cons_iff, high, low]
    decide
  · next control =>
    exact Visible.cons_iff.mpr ⟨Nat.not_lt.mp control, by decide⟩

theorem visible_quoted (text : String) : Visible (quoted text) := by
  have inside : Visible (text.toList.flatMap escaped) := by
    intro char member
    obtain ⟨source, -, made⟩ := List.mem_flatMap.mp member
    exact visible_escaped source char made
  rw [quoted, Visible.cons_iff, Visible.append_iff]
  exact ⟨by decide, inside, by decide⟩

mutual

theorem visible_compactChars : (json : Json) → Visible json.compactChars
  | null => by decide
  | bool true => by decide
  | bool false => by decide
  | unrepresentable => by decide
  | number value => value.visible_chars
  | text value => visible_quoted value
  | list [] => by decide
  | list (item :: items) => by
      rw [compactChars, Visible.cons_iff, Visible.append_iff]
      exact ⟨by decide, visible_compactChars item, visible_compactItems items⟩
  | object [] => by decide
  | object ((key, value) :: fields) => by
      rw [compactChars, Visible.cons_iff, Visible.append_iff, Visible.cons_iff, Visible.append_iff]
      exact ⟨by decide, visible_quoted key, by decide, visible_compactChars value,
        visible_compactFields fields⟩

theorem visible_compactItems : (items : List Json) → Visible (compactItems items)
  | [] => by decide
  | item :: items => by
      rw [compactItems, Visible.cons_iff, Visible.append_iff]
      exact ⟨by decide, visible_compactChars item, visible_compactItems items⟩

theorem visible_compactFields : (fields : List (String × Json)) → Visible (compactFields fields)
  | [] => by decide
  | (key, value) :: fields => by
      rw [compactFields, Visible.cons_iff, Visible.append_iff, Visible.cons_iff, Visible.append_iff]
      exact ⟨by decide, visible_quoted key, by decide, visible_compactChars value,
        visible_compactFields fields⟩

end

end Json

end SearchFilter
