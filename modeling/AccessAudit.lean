import AccessAudit.Audit.Analyzer
import AccessAudit.Audit.Conflict
import AccessAudit.Audit.Context
import AccessAudit.Audit.Criterion
import AccessAudit.Audit.Engine
import AccessAudit.Audit.Integrity
import AccessAudit.Audit.Issue
import AccessAudit.Audit.Job
import AccessAudit.Audit.Pattern
import AccessAudit.Audit.Widget
import AccessAudit.Behavior.Action
import AccessAudit.Behavior.Keyboard
import AccessAudit.Carrier
import AccessAudit.Config
import AccessAudit.Document.Address
import AccessAudit.Document.Basic
import AccessAudit.Document.Context
import AccessAudit.Document.Merge
import AccessAudit.Document.Visibility
import AccessAudit.Entries
import AccessAudit.Failure
import AccessAudit.Json
import AccessAudit.Json.Reader
import AccessAudit.Json.Writer
import AccessAudit.Location
import AccessAudit.Logging
import AccessAudit.Markup.CharacterNames
import AccessAudit.Markup.Element
import AccessAudit.Markup.Fragment
import AccessAudit.Markup.FromText
import AccessAudit.Markup.Graph
import AccessAudit.Markup.Node
import AccessAudit.Markup.Reading
import AccessAudit.Markup.Reference
import AccessAudit.Markup.Role
import AccessAudit.Markup.StartTag
import AccessAudit.Markup.Token
import AccessAudit.Number.Binary
import AccessAudit.Number.Fixed
import AccessAudit.Number.Reading
import AccessAudit.Number.Scale
import AccessAudit.Number.Shortest
import AccessAudit.Number.Significant
import AccessAudit.Proofs.Audit.Catalogue
import AccessAudit.Proofs.Audit.Checks
import AccessAudit.Proofs.Audit.Crossing
import AccessAudit.Proofs.Audit.Dispatch
import AccessAudit.Proofs.Audit.FileScope
import AccessAudit.Proofs.Audit.Keyboard
import AccessAudit.Proofs.Audit.Order
import AccessAudit.Proofs.Audit.Ownership
import AccessAudit.Proofs.Audit.Pointer
import AccessAudit.Proofs.Audit.Provenance
import AccessAudit.Proofs.Audit.Repair
import AccessAudit.Proofs.Audit.Resending
import AccessAudit.Proofs.Audit.Retarget
import AccessAudit.Proofs.Audit.Suggestion
import AccessAudit.Proofs.Behavior.Rereading
import AccessAudit.Proofs.Behavior.Scanning
import AccessAudit.Proofs.Document.Actions
import AccessAudit.Proofs.Document.Appending
import AccessAudit.Proofs.Document.Attachment
import AccessAudit.Proofs.Document.Breakdown
import AccessAudit.Proofs.Document.Candidates
import AccessAudit.Proofs.Document.Completeness
import AccessAudit.Proofs.Document.Computed
import AccessAudit.Proofs.Document.Dependence
import AccessAudit.Proofs.Document.Gating
import AccessAudit.Proofs.Document.Hiding
import AccessAudit.Proofs.Document.Ids
import AccessAudit.Proofs.Document.Inline
import AccessAudit.Proofs.Document.Insertion
import AccessAudit.Proofs.Document.Markup
import AccessAudit.Proofs.Document.Overtaking
import AccessAudit.Proofs.Document.Owned
import AccessAudit.Proofs.Document.Owners
import AccessAudit.Proofs.Document.Roles
import AccessAudit.Proofs.Document.Slots
import AccessAudit.Proofs.Document.Splitting
import AccessAudit.Proofs.Document.Styles
import AccessAudit.Proofs.Document.Writing
import AccessAudit.Proofs.Markup.Fault
import AccessAudit.Proofs.Markup.Index
import AccessAudit.Proofs.Markup.Path
import AccessAudit.Proofs.Markup.Rereading
import AccessAudit.Proofs.Markup.Walk
import AccessAudit.Proofs.Number.Exact
import AccessAudit.Proofs.Number.Numerals
import AccessAudit.Proofs.Report.Conservation
import AccessAudit.Proofs.Schema.Rereading
import AccessAudit.Proofs.Selector.Canonical
import AccessAudit.Proofs.Selector.Chain
import AccessAudit.Proofs.Selector.Nth
import AccessAudit.Proofs.Selector.Positions
import AccessAudit.Proofs.Selector.Shape
import AccessAudit.Proofs.Selector.Siblings
import AccessAudit.Proofs.Selector.States
import AccessAudit.Proofs.Selector.Steps
import AccessAudit.Proofs.Selector.Totality
import AccessAudit.Proofs.Settings.Update
import AccessAudit.Proofs.Similarity.Edits
import AccessAudit.Proofs.Similarity.Ranking
import AccessAudit.Proofs.Style.Block
import AccessAudit.Proofs.Style.Rereading
import AccessAudit.Proofs.Style.Resolution
import AccessAudit.Proofs.Style.Transfer
import AccessAudit.Proofs.Table
import AccessAudit.Proofs.Text.Normal
import AccessAudit.Proofs.Text.Words
import AccessAudit.Report.Basic
import AccessAudit.Report.Csv
import AccessAudit.Report.Records
import AccessAudit.Report.Workbook
import AccessAudit.Schema
import AccessAudit.Selector.Basic
import AccessAudit.Selector.Error
import AccessAudit.Selector.Matching
import AccessAudit.Selector.Nesting
import AccessAudit.Selector.Nth
import AccessAudit.Selector.Parser
import AccessAudit.Selector.Printer
import AccessAudit.Selector.Specificity
import AccessAudit.Settings
import AccessAudit.Settings.Cast
import AccessAudit.Settings.Tree
import AccessAudit.Similarity.Distance
import AccessAudit.Similarity.Ranking
import AccessAudit.Similarity.Ratio
import AccessAudit.Style.Cascade
import AccessAudit.Style.Declaration
import AccessAudit.Style.Rule
import AccessAudit.Table
import AccessAudit.Text.Blank
import AccessAudit.Text.CaseRanges
import AccessAudit.Text.Digit
import AccessAudit.Text.Lower
import AccessAudit.Text.PrintableRanges
import AccessAudit.Text.Quoted
import AccessAudit.Text.Ranges
import AccessAudit.Text.Word
import AccessAudit.Text.WordRanges
