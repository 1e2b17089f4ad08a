import Mathlib.Algebra.GroupWithZero.Nat
import Mathlib.Data.List.Basic
import SearchFilter.Text.Lines

/-!
Texts that are written as lines and cut into lines again. A line feed inside one of them makes two
lines of it.
-/

namespace SearchFilter.Text

section

variable {mark : Char}

theorem length_splitOn (chars : List Char) :
    (chars.splitOn mark).length = 1 + chars.count mark := by
  induction chars with
  | nil => rfl
  | cons char chars ih =>
      rw [List.splitOn_cons_eq_if_modifyHead, List.count_cons]
      split
      · rw [List.length_cons, ih]
        omega
      · rw [List.length_modifyHead, ih]
        omega

theorem length_flatMap_splitOn (mark : Char) (texts : List (List Char)) :
    (texts.flatMap (List.splitOn mark)).length =
      texts.length + (texts.map (List.count mark)).sum := by
  induction texts with
  | nil => rfl
  | cons text texts ih =>
      rw [List.flatMap_cons, List.length_append, length_splitOn, ih, List.length_cons, List.map_cons,
        List.sum_cons]
      omega

theorem sum_count_eq_zero_iff {texts : List (List Char)} :
    (texts.map (List.count mark)).sum = 0 ↔ ∀ text ∈ texts, mark ∉ text := by
  simp only [List.sum_eq_zero_iff_forall_eq_nat, List.forall_mem_map, List.count_eq_zero]

theorem flatMap_splitOn_eq_self_iff {texts : List (List Char)} :
    texts.flatMap (List.splitOn mark) = texts ↔ ∀ text ∈ texts, mark ∉ text := by
  constructor
  · intro same
    have length := length_flatMap_splitOn mark texts
    rw [same] at length
    exact sum_count_eq_zero_iff.mp (by omega)
  · intro absent
    have each : ∀ text ∈ texts, text.splitOn mark = [text] :=
      fun text member => List.splitOn_eq_singleton (absent text member)
    rw [List.flatMap_congr each, List.flatMap_singleton']

theorem not_mem_of_mem_splitOn {chars piece : List Char} (member : piece ∈ chars.splitOn mark) :
    mark ∉ piece := by
  induction chars generalizing piece with
  | nil =>
      rw [List.mem_singleton.mp member]
      exact List.not_mem_nil
  | cons char chars ih =>
      rw [List.splitOn_cons_eq_if_modifyHead] at member
      split at member
      · rcases List.mem_cons.mp member with rfl | later
        · exact List.not_mem_nil
        · exact ih later
      · next other =>
        cases pieces : chars.splitOn mark with
        | nil => simp [pieces] at member
        | cons first rest =>
            rw [pieces] at ih member
            rcases List.mem_cons.mp member with rfl | later
            · rw [List.mem_cons, not_or]
              exact ⟨fun same => other (by simp [same]), ih List.mem_cons_self⟩
            · exact ih (List.mem_cons_of_mem first later)

end

theorem toList_lines (texts : List String) :
    (lines texts).toList = texts.flatMap fun text => text.toList ++ ['\n'] := by
  induction texts with
  | nil => rfl
  | cons text texts ih => simp [lines, ih]

theorem splitOn_lines (texts : List String) : (lines texts).toList.splitOn '\n' =
    (texts.map String.toList).flatMap (List.splitOn '\n') ++ [[]] := by
  rw [toList_lines]
  induction texts with
  | nil => rfl
  | cons text texts ih =>
      rw [List.flatMap_cons, List.append_assoc, List.singleton_append,
        List.splitOn_append_cons_self, ih, List.map_cons, List.flatMap_cons, List.append_assoc]

theorem linesOf_lines (texts : List String) : linesOf (lines texts) =
    ((texts.map String.toList).flatMap (List.splitOn '\n')).map fun line =>
      String.ofList (withoutReturn line) := by
  rw [linesOf, splitOn_lines]
  simp [Function.comp_def]

theorem linesOf_lines_append (before after : List String) :
    linesOf (lines (before ++ after)) = linesOf (lines before) ++ linesOf (lines after) := by
  simp only [linesOf_lines, List.map_append, List.flatMap_append]

theorem length_linesOf_lines (texts : List String) : (linesOf (lines texts)).length =
    texts.length + ((texts.map String.toList).map (List.count '\n')).sum := by
  rw [linesOf_lines, List.length_map, length_flatMap_splitOn, List.length_map]

theorem feed_not_mem_withoutReturn {line : List Char} (absent : '\n' ∉ line) :
    '\n' ∉ withoutReturn line := by
  rw [withoutReturn]
  split
  · exact fun member => absent (List.dropLast_subset _ member)
  · exact absent

theorem feed_not_mem_linesOf {text line : String} (member : line ∈ linesOf text) :
    '\n' ∉ line.toList := by
  obtain ⟨chars, charsMember, rfl⟩ := List.mem_map.mp member
  rw [String.toList_ofList]
  rcases List.mem_append.mp charsMember with ended | last
  · obtain ⟨piece, pieceMember, rfl⟩ := List.mem_map.mp ended
    have part := List.dropLast_subset _ pieceMember
    exact feed_not_mem_withoutReturn (not_mem_of_mem_splitOn part)
  · have piece := Option.mem_toList.mp (List.mem_filter.mp last).1
    exact not_mem_of_mem_splitOn (List.mem_of_getLast? piece)

end SearchFilter.Text
