import SearchFilter.Proofs.Filter.NormalForm
import SearchFilter.Proofs.Json.Visible
import SearchFilter.Proofs.Text.Lines
import SearchFilter.Report.Explanation

/-!
The outline of a tree and the part of a report that shows it. The outline has an entry for each
node, which is one line unless a line feed was typed into the field or the operator of a clause: the
line feeds of values are escaped, and those are not.
-/

namespace SearchFilter

namespace Clause

/-- The line feeds of a clause that are shown as they were typed. -/
def feeds (clause : Clause) : Nat :=
  clause.field.toList.count '\n' + clause.operator.toList.count '\n'

def IsOneLine (clause : Clause) : Prop :=
  '\n' ∉ clause.field.toList ∧ '\n' ∉ clause.operator.toList

theorem feeds_eq_zero_iff {clause : Clause} : clause.feeds = 0 ↔ clause.IsOneLine := by
  rw [feeds, Nat.add_eq_zero_iff, List.count_eq_zero, List.count_eq_zero, IsOneLine]

end Clause

namespace Tree

mutual

def nodes : Tree → List (Nat × Tree)
  | leaf clause => [(0, leaf clause)]
  | node connector children =>
    (0, node connector children) :: (nodesOf children).map fun place => (place.1 + 1, place.2)

def nodesOf : List Tree → List (Nat × Tree)
  | [] => []
  | tree :: trees => tree.nodes ++ nodesOf trees

end

def label : Tree → String
  | leaf clause => clauseLine clause
  | node connector _ => connector.name

def line (place : Nat × Tree) : List Char :=
  List.replicate (2 * place.1) ' ' ++ place.2.label.toList

/-! Entries. -/

theorem nodesOf_eq_flatMap (trees : List Tree) : nodesOf trees = trees.flatMap nodes := by
  induction trees with
  | nil => rfl
  | cons tree trees ih => rw [nodesOf, ih, List.flatMap_cons]

theorem entriesOf_eq_flatMap (depth : Nat) (trees : List Tree) :
    entriesOf depth trees = trees.flatMap (entries depth) := by
  induction trees with
  | nil => rfl
  | cons tree trees ih => rw [entriesOf, ih, List.flatMap_cons]

theorem toList_entry (depth : Nat) (text : String) :
    (Text.indentation depth ++ text).toList = List.replicate (2 * depth) ' ' ++ text.toList := by
  rw [String.toList_append, Text.indentation, String.toList_ofList]

theorem entries_eq (depth : Nat) (tree : Tree) : (tree.entries depth).map String.toList =
    tree.nodes.map fun place => line (depth + place.1, place.2) := by
  induction tree generalizing depth with
  | leaf clause =>
      rw [entries, List.map_singleton, toList_entry]
      rfl
  | node connector children ih =>
      rw [entries, List.map_cons, toList_entry, nodes, List.map_cons, List.map_map,
        entriesOf_eq_flatMap, nodesOf_eq_flatMap, List.map_flatMap, List.map_flatMap]
      refine congrArg _ (List.flatMap_congr ?_)
      intro child member
      rw [ih child member]
      refine List.map_congr_left fun place _ => ?_
      rw [Function.comp_apply, Nat.add_assoc, Nat.add_comm 1]

/-! Line feeds. -/

theorem count_clauseLine (clause : Clause) :
    (clauseLine clause).toList.count '\n' = clause.feeds := by
  cases given : clause.value with
  | none => simp [clauseLine, given, Clause.feeds]
  | some value =>
      have escaped : value.json.compactChars.count '\n' = 0 :=
        List.count_eq_zero.mpr value.json.visible_compactChars.feed_not_mem
      simp [clauseLine, given, Clause.feeds, Json.compact, escaped]

theorem count_entry (depth : Nat) (text : String) :
    (Text.indentation depth ++ text).toList.count '\n' = text.toList.count '\n' := by
  rw [toList_entry, List.count_append, List.count_replicate]
  simp

mutual

theorem sum_feeds_entries (depth : Nat) : (tree : Tree) →
    (((tree.entries depth).map String.toList).map (List.count '\n')).sum =
      (tree.leaves.map Clause.feeds).sum
  | leaf clause => by
      simp only [entries, leaves, List.map_singleton, count_entry, count_clauseLine]
  | node connector children => by
      have title : connector.name.toList.count '\n' = 0 := by cases connector <;> rfl
      rw [entries, leaves, List.map_cons, List.map_cons, List.sum_cons, count_entry, title,
        Nat.zero_add, sum_feeds_entriesOf]

theorem sum_feeds_entriesOf (depth : Nat) : (trees : List Tree) →
    (((entriesOf depth trees).map String.toList).map (List.count '\n')).sum =
      ((leavesOf trees).map Clause.feeds).sum
  | [] => rfl
  | tree :: trees => by
      simp only [entriesOf, leavesOf, List.map_append, List.sum_append_nat, sum_feeds_entries,
        sum_feeds_entriesOf]

end

/-! The outline. -/

theorem entries_root (tree : Tree) : (tree.entries 0).map String.toList = tree.nodes.map line := by
  simpa only [Nat.zero_add] using tree.entries_eq 0

theorem sum_feeds_nodes (tree : Tree) : ((tree.nodes.map line).map (List.count '\n')).sum =
    (tree.leaves.map Clause.feeds).sum := by
  rw [← entries_root, sum_feeds_entries]

theorem sum_feeds_eq_zero_iff {tree : Tree} :
    (tree.leaves.map Clause.feeds).sum = 0 ↔ ∀ clause ∈ tree.leaves, clause.IsOneLine := by
  simp only [List.sum_eq_zero_iff_forall_eq_nat, List.forall_mem_map, Clause.feeds_eq_zero_iff]

theorem toList_outline (tree : Tree) :
    tree.outline.toList = (tree.nodes.map line).flatMap fun shown => shown ++ ['\n'] := by
  rw [outline, Text.toList_lines, ← entries_root, List.flatMap_map]

theorem length_linesOf_outline (tree : Tree) : (Text.linesOf tree.outline).length =
    tree.nodes.length + (tree.leaves.map Clause.feeds).sum := by
  have entries := congrArg List.length tree.entries_root
  rw [List.length_map, List.length_map] at entries
  rw [outline, Text.length_linesOf_lines, sum_feeds_entries, entries]

theorem splitOn_outline_iff {tree : Tree} :
    tree.outline.toList.splitOn '\n' = tree.nodes.map line ++ [[]] ↔
      ∀ clause ∈ tree.leaves, clause.IsOneLine := by
  rw [outline, Text.splitOn_lines, entries_root, List.append_left_inj,
    Text.flatMap_splitOn_eq_self_iff, ← Text.sum_count_eq_zero_iff, sum_feeds_nodes,
    sum_feeds_eq_zero_iff]

end Tree

/-! The report. -/

namespace Report.Explanation

variable {explanation : Explanation} {colored : Bool}

def above (colored : Bool) (explanation : Explanation) : List String :=
  [Style.bold.paint colored "PREVIEW", item (previewLine colored explanation.preview), "",
    Style.bold.paint colored "TREE"]

def below (colored : Bool) (explanation : Explanation) : List String :=
  (if explanation.separators.isEmpty then []
    else ["", Style.bold.paint colored "SEPARATORS", (separatorGrid explanation.separators).draw]) ++
  (if explanation.compilation.issues.isEmpty then []
    else ["", Style.bold.paint colored "SKIPPED CLAUSES"] ++
      explanation.compilation.issues.map (item ∘ issueLine colored))

def shown (colored : Bool) (explanation : Explanation) : List String :=
  Text.linesOf (Text.lines ((treeLines colored explanation.tree).map item))

theorem linesOf_text (colored : Bool) (explanation : Explanation) :
    Text.linesOf (explanation.text colored) =
      Text.linesOf (Text.lines (explanation.above colored)) ++ explanation.shown colored ++
        Text.linesOf (Text.lines (explanation.below colored)) := by
  rw [shown, ← Text.linesOf_lines_append, ← Text.linesOf_lines_append, text, above, below]
  simp only [List.append_assoc, List.cons_append, List.nil_append]

theorem length_shown {tree : Tree} (drawn : explanation.tree = some tree) :
    (explanation.shown colored).length = (Text.linesOf tree.outline).length := by
  have whole : ∀ line ∈ ((Text.linesOf tree.outline).map item).map String.toList, '\n' ∉ line := by
    rw [List.map_map]
    refine List.forall_mem_map.mpr fun line member => ?_
    have inside := Text.feed_not_mem_linesOf member
    simpa [item] using inside
  rw [shown, drawn, treeLines, Text.length_linesOf_lines, Text.sum_count_eq_zero_iff.mpr whole,
    List.length_map, Nat.add_zero]

end Report.Explanation

/-- The outline has the entries of all nodes in pre-order, each with two blanks for each step from
the root and a line feed behind it. They are its lines exactly when no field and no operator in the
tree has a line feed, whatever the values are. A report has one line more under the title of the
tree for each line feed in a field or an operator. -/
theorem outline_lines (tree : Tree) (explanation : Report.Explanation) (colored : Bool) :
    let report := { explanation with tree := some tree }
    let typed := (tree.leaves.map Clause.feeds).sum
    tree.outline.toList = (tree.nodes.map Tree.line).flatMap (fun shown => shown ++ ['\n']) ∧
    (tree.outline.toList.splitOn '\n' = tree.nodes.map Tree.line ++ [[]] ↔
      ∀ clause ∈ tree.leaves, clause.IsOneLine) ∧
    Text.linesOf (report.text colored) =
      Text.linesOf (Text.lines (report.above colored)) ++ report.shown colored ++
        Text.linesOf (Text.lines (report.below colored)) ∧
    (report.shown colored).length = tree.nodes.length + typed ∧
    ((report.shown colored).length = tree.nodes.length ↔
      ∀ clause ∈ tree.leaves, clause.IsOneLine) := by
  intro report typed
  have length : (report.shown colored).length = tree.nodes.length + typed :=
    (Report.Explanation.length_shown rfl).trans tree.length_linesOf_outline
  refine ⟨tree.toList_outline, Tree.splitOn_outline_iff, Report.Explanation.linesOf_text _ _, length,
    ?_⟩
  rw [length, Nat.add_eq_left]
  exact Tree.sum_feeds_eq_zero_iff

theorem outline_lines_of_broken_field :
    let tree := Tree.leaf { field := "a\nb", operator := "exists" }
    let report : Report.Explanation := ⟨"", some tree, [], [], ⟨none, []⟩⟩
    tree.nodes.length = 1 ∧ tree.outline = "a\nb exists\n" ∧
      report.shown false = ["  a", "  b exists"] := by
  decide +kernel

end SearchFilter
