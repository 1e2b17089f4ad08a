import SearchFilter.Bar.Action
import SearchFilter.Bar.Basic
import SearchFilter.Bar.Error
import SearchFilter.Bar.InPlace
import SearchFilter.Bar.Selection
import SearchFilter.Bar.Separator
import SearchFilter.Bar.Session
import SearchFilter.Bar.State
import SearchFilter.Catalog
import SearchFilter.CommandLine.Arguments
import SearchFilter.CommandLine.Run
import SearchFilter.CommandLine.Setting
import SearchFilter.Decimal.Double
import SearchFilter.Decimal.Layout
import SearchFilter.Decimal.Scaling
import SearchFilter.Decimal.Shortest
import SearchFilter.Filter.Clause
import SearchFilter.Filter.Compile
import SearchFilter.Filter.Diagnosis
import SearchFilter.Filter.Document
import SearchFilter.Filter.Grouped
import SearchFilter.Filter.Indices
import SearchFilter.Filter.Operator
import SearchFilter.Filter.Predicate
import SearchFilter.Filter.Preview
import SearchFilter.Filter.Query
import SearchFilter.Filter.Rendering
import SearchFilter.Filter.Scalar
import SearchFilter.Filter.Tree
import SearchFilter.Json.Basic
import SearchFilter.Json.Number
import SearchFilter.Json.Parser
import SearchFilter.Json.Printer
import SearchFilter.Json.Record
import SearchFilter.Json.Scan
import SearchFilter.Json5.Literal
import SearchFilter.Json5.Parser
import SearchFilter.Json5.Space
import SearchFilter.Main
import SearchFilter.Proofs.Bar.Acceptance
import SearchFilter.Proofs.Bar.Arranged
import SearchFilter.Proofs.Bar.Composites
import SearchFilter.Proofs.Bar.Connectors
import SearchFilter.Proofs.Bar.Faults
import SearchFilter.Proofs.Bar.Ids
import SearchFilter.Proofs.Bar.InPlace
import SearchFilter.Proofs.Bar.Insertion
import SearchFilter.Proofs.Bar.Invariant
import SearchFilter.Proofs.Bar.Loaded
import SearchFilter.Proofs.Bar.Marks
import SearchFilter.Proofs.Bar.Membership
import SearchFilter.Proofs.Bar.Numbers
import SearchFilter.Proofs.Bar.Regrouping
import SearchFilter.Proofs.Bar.Removal
import SearchFilter.Proofs.Bar.Retagging
import SearchFilter.Proofs.Bar.Runs
import SearchFilter.Proofs.Bar.Separators
import SearchFilter.Proofs.Bar.Session
import SearchFilter.Proofs.Bar.Steps
import SearchFilter.Proofs.Bar.Stored
import SearchFilter.Proofs.Bar.Stretches
import SearchFilter.Proofs.Bar.Surroundings
import SearchFilter.Proofs.Bar.Validity
import SearchFilter.Proofs.Decimal.PlainText
import SearchFilter.Proofs.Decimal.ReadBack
import SearchFilter.Proofs.Decimal.Spelling
import SearchFilter.Proofs.Filter.Bounds
import SearchFilter.Proofs.Filter.Canonical
import SearchFilter.Proofs.Filter.Coercion
import SearchFilter.Proofs.Filter.Comb
import SearchFilter.Proofs.Filter.Conditions
import SearchFilter.Proofs.Filter.Diagnostics
import SearchFilter.Proofs.Filter.Exact
import SearchFilter.Proofs.Filter.Formula
import SearchFilter.Proofs.Filter.GroupedMeaning
import SearchFilter.Proofs.Filter.Grouping
import SearchFilter.Proofs.Filter.Indices
import SearchFilter.Proofs.Filter.Joints
import SearchFilter.Proofs.Filter.Links
import SearchFilter.Proofs.Filter.Meaning
import SearchFilter.Proofs.Filter.Operands
import SearchFilter.Proofs.Filter.Reading
import SearchFilter.Proofs.Filter.Ready
import SearchFilter.Proofs.Filter.Rebuilt
import SearchFilter.Proofs.Filter.Requirements
import SearchFilter.Proofs.Filter.Segments
import SearchFilter.Proofs.Filter.Shape
import SearchFilter.Proofs.Filter.Stored
import SearchFilter.Proofs.Filter.Tiling
import SearchFilter.Proofs.Filter.Uniform
import SearchFilter.Proofs.Filter.ValueLists
import SearchFilter.Proofs.Json.Visible
import SearchFilter.Proofs.Json5.Documents
import SearchFilter.Proofs.Json5.Numbers
import SearchFilter.Proofs.Report.Outline
import SearchFilter.Proofs.Text.Lines
import SearchFilter.Proofs.Text.Trimming
import SearchFilter.Report.Explanation
import SearchFilter.Report.Grid
import SearchFilter.Report.Offer
import SearchFilter.Report.Style
import SearchFilter.Settings
import SearchFilter.Text.Blank
import SearchFilter.Text.CharWidth
import SearchFilter.Text.CodePoints
import SearchFilter.Text.DecimalDigit
import SearchFilter.Text.Digits
import SearchFilter.Text.Identifier
import SearchFilter.Text.Ligature
import SearchFilter.Text.Lines
import SearchFilter.Text.Pictograph
import SearchFilter.Text.Width
import SearchFilter.Toml.Literal
import SearchFilter.Toml.Parser
import SearchFilter.Toml.Table
