import AccessAudit.Schema

/-!
# Source locations

Where a node, an action or a rule comes from: a file, a line and a column, and possibly the end of
the range.
-/

namespace AccessAudit

/-- A place in a source file. -/
structure Location where
  /-- The file. -/
  file : String := ""
  /-- The line, from one. -/
  line : Int := 0
  /-- The column, from one. -/
  column : Int := 0
  /-- The last line of the range. -/
  endLine : Option Int := none
  /-- The last column of the range. -/
  endColumn : Option Int := none
  deriving DecidableEq, Repr, Inhabited

namespace Location

/-- File, line and column. -/
def text (l : Location) : String := l.file ++ ":" ++ toString l.line ++ ":" ++ toString l.column

/-- The location that an object describes. -/
def read : Reader Location := Schema.model fun fields =>
  mk <$> Schema.field fields "file" "" Schema.text
    <*> Schema.field fields "line" 0 Schema.int
    <*> Schema.field fields "column" 0 Schema.int
    <*> Schema.field fields "end_line" none (Schema.optional Schema.int)
    <*> Schema.field fields "end_column" none (Schema.optional Schema.int)

/-- The object that describes a location. -/
def dump (l : Location) : Json :=
  .obj [("file", .str l.file), ("line", .int l.line), ("column", .int l.column),
    ("end_line", (l.endLine.map Json.int).getD .null),
    ("end_column", (l.endColumn.map Json.int).getD .null)]

end Location

end AccessAudit
