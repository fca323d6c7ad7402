import AccessAudit.Audit.Criterion
import AccessAudit.Schema

/-!
# Issues

What an analysis reports: the kind of problem, how grave it is, where it is, how sure the analysis
is, and possibly a fix. Lists of issues have one order, by place, kind, analyzer and message.
-/

namespace AccessAudit

/-! ## Parts of an issue -/

/-- How sure an analysis is, in broad terms. -/
inductive Level where
  | high
  | medium
  | low
  deriving DecidableEq, Repr

/-- The word for a level. -/
def Level.name : Level → String
  | high => "HIGH"
  | medium => "MEDIUM"
  | low => "LOW"

/-- How sure an analysis is, and why. -/
structure Confidence where
  /-- In broad terms. -/
  level : Level
  /-- As a number from zero to one. -/
  score : Float
  /-- Why. -/
  reason : String := ""
  /-- What the analysis covered. -/
  scope : String := "workspace"
  deriving Repr

/-- Where an issue is. -/
structure Spot where
  /-- The file. -/
  file : String := ""
  /-- The line. -/
  line : Int := 0
  /-- The column. -/
  column : Int := 0
  /-- The element, in words or as a selector. -/
  element : String := ""
  deriving DecidableEq, Repr

/-- A suggested correction. -/
structure Fix where
  /-- What to do. -/
  description : String
  /-- The attribute to change. -/
  name : Option String := none
  /-- The value to give it. -/
  value : Option String := none
  /-- The element to change. -/
  selector : Option String := none
  /-- Code to add. -/
  snippet : Option String := none
  deriving DecidableEq, Repr

/-- A single finding. -/
structure Issue where
  /-- The kind of problem. -/
  kind : String
  /-- How grave it is. -/
  severity : Severity
  /-- The success criteria that are missed. -/
  criteria : List String := []
  /-- Where it is. -/
  spot : Spot := {}
  /-- What is wrong. -/
  message : String
  /-- How sure the analysis is. -/
  confidence : Confidence
  /-- A suggested correction. -/
  fix : Option Fix := none
  /-- Which analyzer found it. -/
  analyzer : String := ""
  /-- Further places that have to do with it. -/
  related : List Spot := []
  deriving Repr

/-! ## Order -/

namespace Issue

/-- What decides the order of issues. -/
structure SortKey where
  file : String
  line : Int
  column : Int
  kind : String
  analyzer : String
  message : String
  deriving DecidableEq, Repr

/-- What decides the place of an issue. -/
def sortKey (i : Issue) : SortKey :=
  ⟨i.spot.file, i.spot.line, i.spot.column, i.kind, i.analyzer, i.message⟩

/-- The order of sort keys, field by field. -/
def SortKey.compare (a b : SortKey) : Ordering :=
  (Ord.compare a.file b.file).then <| (Ord.compare a.line b.line).then <|
    (Ord.compare a.column b.column).then <| (Ord.compare a.kind b.kind).then <|
      (Ord.compare a.analyzer b.analyzer).then (Ord.compare a.message b.message)

/-- Whether an issue comes no later than another. -/
def le (a b : Issue) : Bool := (a.sortKey.compare b.sortKey).isLE

/-- Issues in order; those with the same sort key stay as they are. -/
def sort (issues : List Issue) : List Issue := issues.mergeSort le

end Issue

/-! ## Reading and writing -/

/-- The level that a word names. -/
def Level.read : Reader Level
  | .str "HIGH" => .ok high
  | .str "MEDIUM" => .ok medium
  | .str "LOW" => .ok low
  | _ => .fault .literal

/-- The severity that a word names, in any case and with blanks around it. -/
def Severity.read : Reader Severity := fun v =>
  match Text.normalize v.text with
  | "error" => .ok error
  | "warning" => .ok warning
  | "info" => .ok info
  | _ => .fault .literal

/-- The confidence that an object describes. -/
def Confidence.read : Reader Confidence := Schema.model fun fields =>
  mk <$> Schema.required fields "level" Level.read
    <*> Schema.required fields "score" Schema.unitInterval
    <*> Schema.field fields "reason" "" Schema.text
    <*> Schema.field fields "scope" "workspace" Schema.text

/-- The place that an object describes. -/
def Spot.read : Reader Spot := Schema.model fun fields =>
  mk <$> Schema.field fields "file" "" Schema.text
    <*> Schema.field fields "line" 0 Schema.int
    <*> Schema.field fields "column" 0 Schema.int
    <*> Schema.field fields "element" "" Schema.text

/-- The fix that an object describes. -/
def Fix.read : Reader Fix := Schema.model fun fields =>
  mk <$> Schema.required fields "description" Schema.text
    <*> Schema.field fields "attribute" none (Schema.optional Schema.text)
    <*> Schema.field fields "value" none (Schema.optional Schema.text)
    <*> Schema.field fields "selector" none (Schema.optional Schema.text)
    <*> Schema.field fields "snippet" none (Schema.optional Schema.text)

/-- The issue that an object describes. -/
def Issue.read : Reader Issue := Schema.model fun fields =>
  mk <$> Schema.required fields "kind" Schema.text
    <*> Schema.required fields "severity" Severity.read
    <*> Schema.field fields "wcag_criteria" [] (Schema.list Schema.text)
    <*> Schema.field fields "location" {} Spot.read
    <*> Schema.required fields "message" Schema.text
    <*> Schema.required fields "confidence" Confidence.read
    <*> Schema.field fields "fix" none (Schema.optional Fix.read)
    <*> Schema.field fields "analyzer" "" Schema.text
    <*> Schema.field fields "related_locations" [] (Schema.list Spot.read)

end AccessAudit
