import AccessAudit.Report.Basic

/-!
# Reports as comma-separated values

A header and one line for each row. A field is put between quotes only when it needs them, and a
quote inside it is written twice.
-/

namespace AccessAudit

namespace Report

/-- The names of the columns. -/
def columns : List String :=
  ["job", "file", "line", "column", "element", "kind", "severity", "wcag", "analyzer",
    "confidence", "score", "message", "fix"]

end Report

namespace Csv

/-- Whether a character calls for quotes around the field. -/
def needsQuotes (c : Char) : Bool := c == ',' || c == '"' || c == '\n'

/-- A character inside quotes. -/
def quotedChar (c : Char) : List Char := if c == '"' then ['"', '"'] else [c]

/-- A field. -/
def field (s : String) : String :=
  if s.toList.any needsQuotes then
    String.ofList ('"' :: s.toList.flatMap quotedChar ++ ['"'])
  else s

/-- A line. -/
def line (fields : List String) : String := ",".intercalate (fields.map field) ++ "\n"

/-- A number; what is no number leaves the field empty. -/
def number (x : Float) : String := if x.isNaN then "" else Number.display x

end Csv

/-- The criteria of a row as one text. -/
def Row.criteriaText (r : Row) : String := ", ".intercalate r.criteria

/-- The job of a row as a text; nothing when there is none. -/
def Row.jobText (r : Row) : String :=
  match r.job with
  | .null => ""
  | job => job.text

/-- The fields of a row. -/
def Row.csvFields (r : Row) : List String :=
  [r.jobText, r.file, toString r.line, toString r.column, r.element, r.kind, r.severity.name,
    r.criteriaText, r.analyzer, r.confidence.name, Csv.number r.score, r.message, r.fix]

/-- The whole text. -/
def Report.csv (r : Report) : String :=
  String.join ((columns :: r.table.map Row.csvFields).map Csv.line)

end AccessAudit
