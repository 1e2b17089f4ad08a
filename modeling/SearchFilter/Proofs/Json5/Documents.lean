import SearchFilter.Json5.Parser
import SearchFilter.Proofs.Json.Canonical
import SearchFilter.Proofs.Json5.Numbers
import SearchFilter.Proofs.Json5.Texts

/-!
Written documents read back. The compact form has no blanks, so between its parts the reader has
nothing to skip.
-/

namespace SearchFilter.Json5

open Scan

/-! First characters. -/

def isSolid (char : Char) : Bool := !isBlank char && char != '/'

theorem skipBlank?_of_solid {char : Char} {rest : List Char} (solid : isSolid char = true) :
    skipBlank? (char :: rest) = some (char :: rest) := by
  simp only [isSolid, Bool.and_eq_true, Bool.not_eq_true', bne_iff_ne] at solid
  simp [skipBlank?, skip?, solid]

theorem isSolid_of_isDigit {char : Char} (digit : char.isDigit = true) : isSolid char = true := by
  have range : 48 ≤ char.toNat ∧ char.toNat ≤ 57 := by
    simpa [Char.isDigit, UInt32.le_iff_toNat_le] using digit
  have slash : char ≠ '/' := by
    rintro rfl
    exact absurd digit (by decide)
  have visible : ¬ isBlank char = true := by
    rw [isBlank, Text.CodePoints.has_iff]
    simp only [blanks, List.mem_cons, List.not_mem_nil, or_false]
    rintro ⟨span, (rfl | rfl | rfl | rfl | rfl | rfl | rfl | rfl | rfl | rfl), low, high⟩ <;>
      simp only at low high <;> omega
  simp [isSolid, slash, visible]

theorem head_compactChars (json : Json) :
    ∃ first more, json.compactChars = first :: more ∧ isSolid first = true ∧ first ≠ ']' := by
  cases json with
  | null => exact ⟨_, _, rfl, rfl, by decide⟩
  | bool value => cases value <;> exact ⟨_, _, rfl, rfl, by decide⟩
  | number value =>
      obtain ⟨first, more, same, digit | sign⟩ := head_chars value
      · refine ⟨first, more, same, isSolid_of_isDigit digit, ?_⟩
        rintro rfl
        exact absurd digit (by decide)
      · subst sign
        exact ⟨_, _, same, rfl, by decide⟩
  | text value => exact ⟨_, _, rfl, rfl, by decide⟩
  | list items => cases items <;> exact ⟨_, _, rfl, rfl, by decide⟩
  | object fields => cases fields <;> exact ⟨_, _, rfl, rfl, by decide⟩
  | unrepresentable => exact ⟨_, _, rfl, rfl, by decide⟩

theorem length_compactChars_pos (json : Json) : 0 < json.compactChars.length := by
  obtain ⟨first, more, same, -⟩ := head_compactChars json
  rw [same]
  exact Nat.succ_pos _

theorem Closes.compactItems (items : List Json) (rest : List Char) :
    Closes (Json.compactItems items ++ rest) := by
  cases items <;> simp [Json.compactItems, Closes]

theorem Closes.compactFields (fields : List (String × Json)) (rest : List Char) :
    Closes (Json.compactFields fields ++ rest) := by
  cases fields <;> simp [Json.compactFields, Closes]

/-! Steps of the reader. -/

section

variable {fuel : Nat} {first : Char} {more after rest : List Char} {item value : Json}
  {key : String}

theorem value?_quoted (fuel : Nat) (text : String) (rest : List Char) :
    value? (fuel + 1) (Json.quoted text ++ rest) = some (.text text, rest) := by
  have quote {more : List Char} : skipBlank? ('"' :: more) = _ := skipBlank?_of_solid rfl
  simp [value?, Json.quoted, quote, string?_quoted]

theorem value?_bracket (fuel : Nat) (chars : List Char) :
    value? (fuel + 1) ('[' :: chars) =
      (items? fuel chars).map fun read => (.list read.1, read.2) := by
  rw [value?, skipBlank?_of_solid rfl]
  rfl

theorem value?_brace (fuel : Nat) (chars : List Char) :
    value? (fuel + 1) ('{' :: chars) =
      (fields? fuel chars).map fun read => (.object read.1, read.2) := by
  rw [value?, skipBlank?_of_solid rfl]
  rfl

theorem value?_other (solid : isSolid first = true)
    (other : first ≠ '"' ∧ first ≠ '\'' ∧ first ≠ '[' ∧ first ≠ '{') :
    value? (fuel + 1) (first :: more) = (word? (first :: more)).or (number? (first :: more)) := by
  obtain ⟨double, single, bracket, brace⟩ := other
  simp [value?, skipBlank?_of_solid solid, double, single, bracket, brace]

theorem value?_number (fuel : Nat) (number : Number) (closes : Closes rest) :
    value? (fuel + 1) (number.chars ++ rest) = some (.number number, rest) := by
  obtain ⟨first, more, same, head⟩ := head_chars number
  have read := number?_chars number closes
  have other : (first ≠ '"' ∧ first ≠ '\'' ∧ first ≠ '[' ∧ first ≠ '{') ∧
      first ≠ 'n' ∧ first ≠ 't' ∧ first ≠ 'f' := by
    refine ⟨⟨?_, ?_, ?_, ?_⟩, ?_, ?_, ?_⟩ <;> rintro rfl <;> revert head <;> decide
  have solid : isSolid first = true := by
    rcases head with digit | rfl
    · exact isSolid_of_isDigit digit
    · rfl
  obtain ⟨other, null, yes, no⟩ := other
  have word : word? (first :: (more ++ rest)) = none := by
    simp [word?, after?, Ne.symm null, Ne.symm yes, Ne.symm no]
  rw [same, List.cons_append] at read ⊢
  rw [value?_other solid other, word, read]
  rfl

theorem items?_last (solid : isSolid first = true) (bracket : first ≠ ']')
    (read : value? fuel (first :: more) = some (item, ']' :: rest)) :
    items? (fuel + 1) (first :: more) = some ([item], rest) := by
  have closing : skipBlank? (']' :: rest) = _ := skipBlank?_of_solid rfl
  simp [items?, skipBlank?_of_solid solid, bracket, read, closing]

theorem items?_more {items : List Json} (solid : isSolid first = true) (bracket : first ≠ ']')
    (read : value? fuel (first :: more) = some (item, ',' :: after))
    (later : items? fuel after = some (items, rest)) :
    items? (fuel + 1) (first :: more) = some (item :: items, rest) := by
  have comma : skipBlank? (',' :: after) = _ := skipBlank?_of_solid rfl
  simp [items?, skipBlank?_of_solid solid, bracket, read, comma, later]

theorem key?_quoted (key : String) (rest : List Char) :
    key? (Json.quoted key ++ ':' :: rest) = some (key, rest) := by
  have colon : skipBlank? (':' :: rest) = _ := skipBlank?_of_solid rfl
  simp [key?, Json.quoted, string?_quoted, colon]

theorem fields?_last (read : value? fuel more = some (value, '}' :: rest)) :
    fields? (fuel + 1) (Json.quoted key ++ ':' :: more) = some ([(key, value)], rest) := by
  have named := key?_quoted key more
  have closing : skipBlank? ('}' :: rest) = _ := skipBlank?_of_solid rfl
  obtain ⟨chars, quoted⟩ : ∃ chars, Json.quoted key ++ ':' :: more = '"' :: chars := ⟨_, rfl⟩
  have quote : skipBlank? ('"' :: chars) = _ := skipBlank?_of_solid rfl
  rw [quoted] at named ⊢
  simp [fields?, quote, named, read, closing]

theorem fields?_more {fields : List (String × Json)}
    (read : value? fuel more = some (value, ',' :: after))
    (later : fields? fuel after = some (fields, rest)) :
    fields? (fuel + 1) (Json.quoted key ++ ':' :: more) =
      some ((key, value) :: fields, rest) := by
  have named := key?_quoted key more
  have comma : skipBlank? (',' :: after) = _ := skipBlank?_of_solid rfl
  obtain ⟨chars, quoted⟩ : ∃ chars, Json.quoted key ++ ':' :: more = '"' :: chars := ⟨_, rfl⟩
  have quote : skipBlank? ('"' :: chars) = _ := skipBlank?_of_solid rfl
  rw [quoted] at named ⊢
  simp [fields?, quote, named, read, comma, later]

end

/-! Values. -/

/-- With so much fuel the reader reads what it has fuel for. Each of its steps takes a character, so
it needs no more than there are characters. -/
structure Reads (fuel : Nat) : Prop where
  value : ∀ (json : Json) (rest : List Char), json.isPlain = true →
    json.compactChars.length ≤ fuel → Closes rest →
    value? fuel (json.compactChars ++ rest) = some (json, rest)
  items : ∀ (item : Json) (items : List Json) (rest : List Char),
    Json.itemsPlain (item :: items) = true →
    (item.compactChars ++ Json.compactItems items).length ≤ fuel →
    items? fuel (item.compactChars ++ (Json.compactItems items ++ rest)) =
      some (item :: items, rest)
  fields : ∀ (key : String) (value : Json) (fields : List (String × Json)) (rest : List Char),
    Json.fieldsPlain ((key, value) :: fields) = true →
    (Json.quoted key ++ ':' :: (value.compactChars ++ Json.compactFields fields)).length ≤ fuel →
    fields? fuel (Json.quoted key ++ ':' :: (value.compactChars ++
      (Json.compactFields fields ++ rest))) = some ((key, value) :: fields, rest)

variable {fuel : Nat}

theorem Reads.value_succ (reads : Reads fuel) (json : Json) (rest : List Char)
    (plain : json.isPlain = true) (enough : json.compactChars.length ≤ fuel + 1)
    (closes : Closes rest) : value? (fuel + 1) (json.compactChars ++ rest) = some (json, rest) := by
  match json with
  | .null => exact value?_other rfl (by decide)
  | .bool true => exact value?_other rfl (by decide)
  | .bool false => exact value?_other rfl (by decide)
  | .number number => exact value?_number fuel number closes
  | .text text => exact value?_quoted fuel text rest
  | .list [] =>
      have step : 1 ≤ fuel := Nat.le_of_succ_le_succ enough
      obtain ⟨steps, rfl⟩ : ∃ steps, fuel = steps + 1 := ⟨fuel - 1, by omega⟩
      rw [Json.compactChars, List.cons_append, value?_bracket, items?]
      rfl
  | .list (item :: items) =>
      have read := reads.items item items rest plain (Nat.le_of_succ_le_succ enough)
      rw [Json.compactChars, List.cons_append, List.append_assoc, value?_bracket, read]
      rfl
  | .object [] =>
      have step : 1 ≤ fuel := Nat.le_of_succ_le_succ enough
      obtain ⟨steps, rfl⟩ : ∃ steps, fuel = steps + 1 := ⟨fuel - 1, by omega⟩
      rw [Json.compactChars, List.cons_append, value?_brace, fields?]
      rfl
  | .object ((key, value) :: fields) =>
      have read := reads.fields key value fields rest plain (Nat.le_of_succ_le_succ enough)
      rw [Json.compactChars, List.cons_append, List.append_assoc, List.cons_append,
        List.append_assoc, value?_brace, read]
      rfl

theorem Reads.items_succ (reads : Reads fuel) (item : Json) (items : List Json) (rest : List Char)
    (plain : Json.itemsPlain (item :: items) = true)
    (enough : (item.compactChars ++ Json.compactItems items).length ≤ fuel + 1) :
    items? (fuel + 1) (item.compactChars ++ (Json.compactItems items ++ rest)) =
      some (item :: items, rest) := by
  obtain ⟨plainItem, plainItems⟩ := Bool.and_eq_true_iff.mp plain
  obtain ⟨first, more, same, solid, bracket⟩ := head_compactChars item
  have nonempty := length_compactChars_pos item
  have read := reads.value item (Json.compactItems items ++ rest) plainItem
  rw [List.length_append] at enough
  match items with
  | [] =>
      have read := read (Nat.le_of_succ_le_succ enough) (.compactItems [] rest)
      rw [same] at read ⊢
      exact items?_last solid bracket read
  | next :: items =>
      rw [Json.compactItems, List.length_cons] at enough
      have read := read (by omega) (.compactItems (next :: items) rest)
      have later := reads.items next items rest plainItems (by omega)
      rw [← List.append_assoc] at later
      rw [same] at read ⊢
      exact items?_more solid bracket read later

theorem Reads.fields_succ (reads : Reads fuel) (key : String) (value : Json)
    (fields : List (String × Json)) (rest : List Char)
    (plain : Json.fieldsPlain ((key, value) :: fields) = true)
    (enough : (Json.quoted key ++ ':' :: (value.compactChars ++ Json.compactFields fields)).length ≤
      fuel + 1) :
    fields? (fuel + 1) (Json.quoted key ++ ':' :: (value.compactChars ++
      (Json.compactFields fields ++ rest))) = some ((key, value) :: fields, rest) := by
  obtain ⟨plainValue, plainFields⟩ := Bool.and_eq_true_iff.mp plain
  have read := reads.value value (Json.compactFields fields ++ rest) plainValue
  rw [List.length_append, List.length_cons, List.length_append] at enough
  match fields with
  | [] => exact fields?_last (read (by omega) (.compactFields [] rest))
  | (next, held) :: fields =>
      rw [Json.compactFields, List.length_cons] at enough
      have read := read (by omega) (.compactFields ((next, held) :: fields) rest)
      have later := reads.fields next held fields rest plainFields (by omega)
      have text : Json.compactFields ((next, held) :: fields) ++ rest =
          ',' :: (Json.quoted next ++ ':' :: (held.compactChars ++
            (Json.compactFields fields ++ rest))) := by
        simp [Json.compactFields]
      rw [text] at read ⊢
      exact fields?_more read later

theorem reads (fuel : Nat) : Reads fuel := by
  induction fuel with
  | zero =>
      refine ⟨?_, ?_, ?_⟩
      · intro json rest _ enough
        have nonempty := length_compactChars_pos json
        omega
      · intro item items rest _ enough
        have nonempty := length_compactChars_pos item
        rw [List.length_append] at enough
        omega
      · intro key value fields rest _ enough
        rw [List.length_append, List.length_cons] at enough
        omega
  | succ fuel ih => exact ⟨ih.value_succ, ih.items_succ, ih.fields_succ⟩

/-- The compact text of a document is read as that document. -/
theorem parse?_compact {json : Json} (plain : json.isPlain = true) :
    parse? json.compact = some json := by
  have closes : Closes [] := by simp [Closes]
  have read := (reads (json.compactChars.length + 1)).value json [] plain (Nat.le_succ _) closes
  rw [List.append_nil] at read
  simp [parse?, Json.compact, read, skipBlank?_nil]

end SearchFilter.Json5
