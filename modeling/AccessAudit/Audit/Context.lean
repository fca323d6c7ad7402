import AccessAudit.Audit.Issue
import AccessAudit.Config
import AccessAudit.Document.Basic

/-!
# The context of an analysis

What an analysis knows about how complete its input is. From it follows how sure the analysis is of
what it finds, and with it a finding becomes an issue.
-/

namespace AccessAudit

/-- What an analysis covers. -/
inductive Scope where
  /-- A single file. -/
  | file
  /-- All sources. -/
  | workspace
  /-- A page. -/
  | page
  deriving DecidableEq, Repr

/-- The word for a scope. -/
def Scope.name : Scope → String
  | file => "file"
  | workspace => "workspace"
  | page => "page"

/-- The scope that a word names. -/
def Scope.read : Reader Scope
  | .str "file" => .ok file
  | .str "workspace" => .ok workspace
  | .str "page" => .ok page
  | _ => .fault .literal

/-- What an analysis knows about its input. -/
structure AnalysisContext where
  /-- What it covers. -/
  scope : Scope := .workspace
  /-- How sure it is that the input is the whole picture. -/
  completeness : Float := 1.0
  /-- Whether there is any markup. -/
  hasStructure : Bool := true
  /-- How many fragments were left out. -/
  skippedFragments : Int := 0
  /-- The constants of the analysis. -/
  config : Config := {}

/-! ## Confidence -/

/-- What is said about findings of a level for want of a reason. -/
def Level.defaultReason : Level → String
  | high => "Document-scope analysis with structure, behavior and style merged"
  | medium => "Partial document context available"
  | low => "File-scope analysis only - the counterpart may live in another file"

namespace AnalysisContext

/-- The context that an object describes. -/
def read : Reader AnalysisContext := Schema.model fun fields =>
  mk <$> Schema.field fields "scope" .workspace Scope.read
    <*> Schema.field fields "completeness" 1.0 Schema.unitInterval
    <*> Schema.field fields "has_structure" true Schema.bool
    <*> Schema.field fields "skipped_fragments" 0 Schema.int
    <*> Schema.field fields "config" {} Config.read

/-- What an analysis asks of the document it runs on: a scope that is known, and a completeness from
zero to one. -/
def validate {α : Type} [Scale α] (scope : Json) (completeness : α) : Checked (Scope × α) :=
  Prod.mk <$> (Scope.read scope).under "scope"
    <*> (Schema.withinUnit (.ok completeness)).under "completeness"

/-- The context of the analysis of a document. -/
def ofDocument (d : Document) (config : Config) : Checked AnalysisContext :=
  (validate d.scope d.completeness).map fun (scope, completeness) =>
    { scope, completeness, hasStructure := d.hasStructure
      skippedFragments := d.skippedFragments, config }

/-- The context of an analysis of actions without any markup. -/
def ofActions (config : Config) : AnalysisContext :=
  { scope := .file, completeness := 0.0, hasStructure := false, config }

/-- Whether nothing is known to be missing. -/
def isFull (c : AnalysisContext) : Bool :=
  c.scope != .file && c.hasStructure && c.skippedFragments == 0

/-- The level of a finding that calls for none of its own. -/
def defaultLevel (c : AnalysisContext) : Level :=
  if c.isFull then .high else if c.hasStructure then .medium else .low

/-- The score of a finding of a level. -/
def score (c : AnalysisContext) : Level → Float
  | .high => 0.9 + 0.1 * c.completeness
  | .medium => 0.6 + 0.2 * c.completeness
  | .low => if c.hasStructure then 0.4 else 0.3

/-- The confidence of a finding. -/
def confidence (c : AnalysisContext) (level : Option Level) (reason : String) : Confidence :=
  let level := level.getD c.defaultLevel
  { level, score := Number.roundTo 4 (c.score level)
    reason := if reason.isEmpty then level.defaultReason else reason
    scope := c.scope.name }

/-- The confidence of a finding whose level and reason are values. A level that is none has no
reason of its own, so it is an error of its own for want of a reason. -/
def readConfidence (c : AnalysisContext) (level reason : Json) : Checked Confidence :=
  let given : Checked String :=
    if reason.isEmpty then .ok "" else (Schema.text reason).under "reason"
  match level with
  | .null => given.map (c.confidence none)
  | level =>
    match Level.read level, reason.isEmpty, level with
    | .ok known, _, _ => given.map (c.confidence (some known))
    | _, true, .arr _ => .broken (.unhashable level.kind)
    | _, true, .obj _ => .broken (.unhashable level.kind)
    | _, true, _ => .broken (.unknownName level.text)
    | unknown, false, _ => (fun _ reason => c.confidence none reason)
        <$> unknown.under "level" <*> given

end AnalysisContext

/-! ## Findings -/

/-- What an analyzer finds, before it is known by whom and in which context. -/
structure Finding where
  /-- The kind of problem. -/
  kind : String
  /-- What is wrong. -/
  message : String
  /-- The success criteria that are missed. -/
  criteria : List String
  /-- Where it is. -/
  spot : Spot
  /-- How grave it is; what the criteria say when it is left out. -/
  severity : Option Severity := none
  /-- How sure the analyzer is; what the context says when it is left out. -/
  level : Option Level := none
  /-- A suggested correction. -/
  fix : Option Fix := none
  /-- Further places that have to do with it. -/
  related : List Spot := []

/-- The issue that an analyzer makes of a finding. -/
def Finding.issue (f : Finding) (analyzer : String) (context : AnalysisContext) : Issue :=
  { kind := f.kind, severity := f.severity.getD (Criterion.severity f.criteria)
    criteria := f.criteria, spot := f.spot, message := f.message
    confidence := context.confidence f.level "", fix := f.fix, analyzer, related := f.related }

/-- The place of an element. -/
def Document.spotOf (d : Document) (key : Key) : Spot :=
  let location := d.locationOf key
  ⟨location.file, location.line, location.column, (d.element key).describe⟩

/-- The place of an action; `file` is where it is for want of a location. -/
def Action.spot (a : Action) (file : String) : Spot :=
  match a.location with
  | some l => ⟨if l.file.isEmpty then file else l.file, l.line, l.column, a.selector⟩
  | none => ⟨file, 0, 0, a.selector⟩

end AccessAudit
