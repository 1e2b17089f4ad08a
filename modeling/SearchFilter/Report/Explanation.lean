import SearchFilter.Bar.Action
import SearchFilter.Json.Printer
import SearchFilter.Report.Grid
import SearchFilter.Report.Style

/-! The report on what a filter bar means and on which of its clauses are left out. -/

namespace SearchFilter.Report

structure Explanation where
  preview : String
  tree : Option Tree
  separators : List Separator
  groups : List Group
  compilation : Compilation

def Explanation.of (compiler : Compiler) (bar : Bar) : Explanation :=
  let tree := bar.tree?
  ⟨compiler.rules.preview tree, tree, bar.separators, bar.groups,
    compiler.compileWithIssues tree⟩

namespace Explanation

def item (text : String) : String := "  " ++ text

def previewLine (colored : Bool) (preview : String) : String :=
  if preview = "" then Style.grey.paint colored "(matches everything)"
  else Style.cyan.paint colored preview

def treeLines (colored : Bool) : Option Tree → List String
  | some tree => Text.linesOf tree.outline
  | none => [Style.grey.paint colored "(empty)"]

def separatorGrid (separators : List Separator) : Grid where
  header := ["Between", "Connector", "Group boundary", "Group"]
  rows := separators.mapIdx fun index separator =>
    [Text.digits index ++ " - " ++ Text.digits (index + 1), separator.connector.name,
      if separator.isBoundary then "yes" else "", separator.group.getD ""]

def issueLine (colored : Bool) (issue : ClauseError) : String :=
  let label :=
    if issue.isWarning then Style.boldYellow.paint colored "warning"
    else Style.grey.paint colored "not ready"
  label ++ ": " ++ issue.message

def text (colored : Bool) (explanation : Explanation) : String :=
  let title := Style.bold.paint colored
  let separators := explanation.separators
  let issues := explanation.compilation.issues
  Text.lines (
    [title "PREVIEW", item (previewLine colored explanation.preview)] ++
    ["", title "TREE"] ++ (treeLines colored explanation.tree).map item ++
    (if separators.isEmpty then []
      else ["", title "SEPARATORS", (separatorGrid separators).draw]) ++
    (if issues.isEmpty then []
      else ["", title "SKIPPED CLAUSES"] ++ issues.map (item ∘ issueLine colored)))

def issueJson (issue : ClauseError) : Json :=
  .object [("message", .text issue.message), ("warning", .bool issue.isWarning)]

def json (explanation : Explanation) : Json :=
  (Json.object [("groups", .list (explanation.groups.map Group.toJson)),
    ("issues", .list (explanation.compilation.issues.map issueJson)),
    ("preview", .text explanation.preview),
    ("query", Query.searchDocument explanation.compilation.query),
    ("separators", .list (explanation.separators.map Separator.toJson))]).canonical

end Explanation

end SearchFilter.Report
