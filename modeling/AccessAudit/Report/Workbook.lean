import AccessAudit.Number.Significant
import AccessAudit.Report.Csv

/-!
# Reports as a workbook

Three sheets: the kinds of issues, the table, and the success criteria. A column is as wide as its
longest cell, up to a limit. Cells cannot hold control characters other than tabs and line ends.

What a workbook holds is what is read back from its file: numbers have been kept with sixteen
digits, and lines end with a line feed.
-/

namespace AccessAudit

/-- A cell of a sheet. -/
inductive SheetCell where
  /-- A text. -/
  | text (value : String)
  /-- A whole number. -/
  | whole (value : Int)
  /-- A decimal. -/
  | decimal (value : Float)
  /-- A truth value. -/
  | truth (value : Bool)
  deriving Repr

/-- Why there is no workbook. -/
inductive SheetError where
  /-- A text has a character that cells cannot hold. -/
  | forbidden
  /-- A whole number is beyond all decimals. -/
  | overflow
  /-- A text has a character that cannot be read back. -/
  | unreadable
  deriving DecidableEq, Repr

/-- The class of an error. -/
def SheetError.kind : SheetError → String
  | forbidden => "IllegalCharacterError"
  | overflow => "OverflowError"
  | unreadable => "ParseError"

/-- A sheet of a workbook: its name, its rows, the header first, and the widths of its columns. -/
structure Sheet where
  /-- The name. -/
  name : String
  /-- The rows, the header first. -/
  rows : List (List SheetCell)
  /-- The widths of the columns. -/
  widths : List Nat
  deriving Repr

namespace SheetCell

/-- The longest text that a cell holds. -/
def maxLength : Nat := 32767

/-- Whether cells cannot hold a character. -/
def isForbidden (c : Char) : Bool :=
  c.toNat < 0x20 && c != '\t' && c != '\n' && c != '\r'

/-- A text as a cell, cut off at the longest length. -/
def ofText (s : String) : Except SheetError SheetCell :=
  let chars := s.toList.take maxLength
  if chars.any isForbidden then .error .forbidden else .ok (.text (String.ofList chars))

/-- A value that is no list and no object as a cell. -/
def ofValue : Json → Except SheetError SheetCell
  | .bool value => .ok (.truth value)
  | .int value => .ok (.whole value)
  | .float value => .ok (.decimal value)
  | .str value => ofText value
  | _ => .ok (.text "")

/-- The length of a cell's text. -/
def length : SheetCell → Nat
  | text value => value.length
  | whole value => (toString value).length
  | decimal value => (Number.display value).length
  | truth value => (Json.bool value).text.length

/-! ## What is read back -/

/-- How many digits of a number are kept. -/
def keptDigits : Nat := 16

/-- A number as it is kept: whole, unless it is written with a fraction or an exponent. -/
def ofKept (x : Float) : SheetCell :=
  match Number.exact x with
  | .finite negative significand exponent =>
    if significand == 0 then whole 0
    else
      let (num, den) := Number.ratio significand exponent
      let kept := Number.significant keptDigits num den
      match kept.whole? keptDigits with
      | some n => whole (if negative then -n else n)
      | none =>
        let magnitude := kept.nearest keptDigits
        decimal (if negative then -magnitude else magnitude)
  | _ => text ""

/-- A text with every line end as a line feed. -/
def unifyLineEnds : List Char → List Char
  | [] => []
  | '\r' :: '\n' :: rest => '\n' :: unifyLineEnds rest
  | c :: rest => (if c == '\r' then '\n' else c) :: unifyLineEnds rest

/-- Whether a number is beyond all decimals. -/
def overflows : SheetCell → Bool
  | whole value => (Number.wholeValue? (Number.ofInt value)).isNone
  | _ => false

/-- Whether a text has a character that cannot be read back. -/
def isUnreadable : SheetCell → Bool
  | text value => value.toList.any fun c => c == '\ufffe' || c == '\uffff'
  | _ => false

/-- A cell as it is read back. -/
def stored : SheetCell → SheetCell
  | text value => text (String.ofList (unifyLineEnds value.toList))
  | whole value => ofKept (Number.ofInt value)
  | decimal value => ofKept value
  | truth value => truth value

end SheetCell

namespace Sheet

/-- The greatest width of a column. -/
def maxWidth : Nat := 100

/-- The width of a column with some cells. -/
def width (cells : List SheetCell) : Nat :=
  min (cells.foldl (fun n c => max n c.length) 0 + 2) maxWidth

/-- The widths of all columns; the header tells how many there are. -/
def widthsOf (rows : List (List SheetCell)) : List Nat :=
  (List.range ((rows.head?.map List.length).getD 0)).map fun i => width (rows.filterMap (·[i]?))

/-- The sheet with a name, a header and rows. -/
def make (name : String) (header : List String) (rows : List (List SheetCell)) : Sheet :=
  let rows := header.map .text :: rows
  ⟨name, rows, widthsOf rows⟩

/-- A sheet as it is read back. The widths stay. -/
def stored (s : Sheet) : Sheet := { s with rows := s.rows.map (·.map SheetCell.stored) }

/-- Whether a cell has a property. -/
def anyCell (s : Sheet) (has : SheetCell → Bool) : Bool := s.rows.any (·.any has)

end Sheet

/-- The cells of a row. -/
def Row.cells (r : Row) : Except SheetError (List SheetCell) := do
  let job ← SheetCell.ofValue r.job
  let file ← SheetCell.ofText r.file
  let about ← [r.element, r.kind, r.severity.name, r.criteriaText, r.analyzer,
    r.confidence.name].mapM SheetCell.ofText
  let outcome ← [r.message, r.fix].mapM SheetCell.ofText
  pure ([job, file, .whole r.line, .whole r.column] ++ about ++ [.decimal r.score] ++ outcome)

namespace Report

/-- The cells for a kind. -/
def KindCount.cells (k : KindCount) : Except SheetError (List SheetCell) := do
  let kind ← SheetCell.ofText k.kind
  pure [kind, .text k.severity.name, .whole k.count]

/-- The cells for a criterion. -/
def CriterionCount.cells (c : CriterionCount) : Except SheetError (List SheetCell) := do
  let criterion ← SheetCell.ofText c.criterion
  pure [criterion, .text c.level, .whole c.count]

/-- The sheets of a report as they are written. -/
def sheets (r : Report) : Except SheetError (List Sheet) := do
  let kinds ← r.kindSummary.mapM KindCount.cells
  let rows ← r.table.mapM Row.cells
  let criteria ← r.criterionSummary.mapM CriterionCount.cells
  pure [.make "Summary" ["kind", "severity", "count"] kinds,
    .make "Action List" columns rows,
    .make "WCAG Criteria" ["criterion", "level", "count"] criteria]

/-- The workbook of a report: its sheets as they are read back. -/
def workbook (r : Report) : Except SheetError (List Sheet) := do
  let sheets ← r.sheets
  if sheets.any (·.anyCell SheetCell.overflows) then .error .overflow
  else if sheets.any (·.anyCell SheetCell.isUnreadable) then .error .unreadable
  else pure (sheets.map Sheet.stored)

end Report

end AccessAudit
