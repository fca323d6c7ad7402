import AccessAudit.Audit.Conflict
import AccessAudit.Audit.Integrity
import AccessAudit.Audit.Widget

/-!
# The engine

The engine runs analyzers on a document and puts what they report in order. An analyzer that breaks
down costs its own issues only: one issue says so, and the others are reported all the same.
Fragments that were left out are reported as well. How many analyzers run at a time makes no
difference, as the issues are sorted in the end.
-/

namespace AccessAudit

/-! ## The analyzers -/

namespace Analyzer

/-- All analyzers, in the order in which they run. -/
def all : List Analyzer := [Widget.analyzer, Integrity.analyzer, Conflict.analyzer]

/-- The analyzer with a name. -/
def find? (name : String) : Option Analyzer := all.find? (·.name == name)

/-- The analyzers among those named; all of them when no names are given. -/
def enabled : Option (List String) → List Analyzer
  | none => all
  | some names => all.filter fun a => names.contains a.name

/-- The names that a value lists: none given for null, the characters of a text, the field names of
an object. -/
def readNames : Json → Except Failure (Option (List String))
  | .null => .ok none
  | .str s => .ok (some (s.toList.map Char.toString))
  | .obj fields => .ok (some (Entries.names fields))
  | .arr items => some <$> items.mapM itemName
  | other => .error (.notIterable other.kind)
where
  /-- The name that an item is; what is no text names nothing. -/
  itemName : Json → Except Failure String
    | .str s => .ok s
    | .arr _ => .error (.unhashable "list")
    | .obj _ => .error (.unhashable "dict")
    | _ => .ok ""

end Analyzer

/-! ## Issues of the engine -/

namespace Engine

/-- The kind of issue for an analyzer that broke down. -/
def failureKind : String := "analyzer-failure"

/-- The kinds of issues that no analyzer reports. -/
def kinds : List String := [failureKind, Diagnostic.kind]

/-- What is given as the analyzer of issues about fragments that were left out. -/
def resolutionName : String := "resolution"

/-- The issue for an analyzer that broke down. -/
def failureIssue (analyzer : String) (why : Failure) (context : AnalysisContext) : Issue :=
  { kind := failureKind
    severity := .info
    message := "Analyzer '" ++ analyzer ++ "' failed and was skipped: " ++ why.message
    confidence := {
      level := .low, score := 0.0, reason := "Analyzer raised an exception"
      scope := context.scope.name }
    analyzer }

/-- The issue for a fragment that was left out. -/
def diagnosticIssue (scope : String) (diagnostic : Diagnostic) : Issue :=
  { kind := Diagnostic.kind
    severity := .info
    message := "Fragment '" ++ diagnostic.source ++ "' was skipped: " ++ diagnostic.reason
    spot := { file := diagnostic.source }
    confidence := {
      level := .low, score := 0.3, reason := "Malformed input fragment excluded from the merge"
      scope }
    analyzer := resolutionName }

/-- The kinds of all issues. -/
def allKinds : List String := kinds ++ Analyzer.all.flatMap Analyzer.kinds

end Engine

/-! ## Running -/

/-- Analyzers with the constants they run with. -/
structure Engine where
  /-- The constants. -/
  config : Config := {}
  /-- The analyzers. -/
  analyzers : List Analyzer

namespace Engine

/-- The engine with the analyzers that are named, here or else in the configuration. -/
def ofConfig (config : Config) (names : Option (List String)) : Engine :=
  { config, analyzers := Analyzer.enabled (names.orElse fun _ => config.enabledAnalyzers) }

/-- What an analyzer reports, or that it broke down. -/
def guarded (context : AnalysisContext) (analyzer : Analyzer)
    (result : Except Failure (List Issue)) : List Issue :=
  match result with
  | .ok issues => issues
  | .error why => [failureIssue analyzer.name why context]

/-- What the analyzers report, each in turn. -/
def dispatch (e : Engine) (context : AnalysisContext)
    (call : Analyzer → Except Failure (List Issue)) : List Issue :=
  e.analyzers.flatMap fun a => guarded context a (call a)

/-- The issues for the fragments of a document that were left out. They name its scope, which then
has to be a text. -/
def diagnosticIssues (d : Document) : Checked (List Issue) :=
  if d.diagnostics.isEmpty then .ok []
  else ((Schema.text d.scope).under "scope").map fun scope =>
    d.diagnostics.map (diagnosticIssue scope)

/-- The issues of actions without any markup, unsorted. -/
def actionIssues (e : Engine) (actions : List Action) : List Issue :=
  let context := AnalysisContext.ofActions e.config
  e.dispatch context fun a => a.analyzeActions actions context

/-- The issues of actions without any markup. -/
def runActions (e : Engine) (actions : List Action) : List Issue :=
  Issue.sort (e.actionIssues actions)

/-- What the analyzers report on a document, unsorted. Without any markup, its actions are analyzed
alone. -/
def analyzerIssues (e : Engine) (d : Document) : Checked (List Issue) :=
  if d.hasStructure then
    (AnalysisContext.ofDocument d e.config).map fun context =>
      e.dispatch context (·.analyze d context)
  else .ok (e.actionIssues (d.actions.toList.map Prod.snd))

/-- The issues of a document. -/
def run (e : Engine) (d : Document) : Checked (List Issue) :=
  (e.analyzerIssues d).andThen fun found =>
    (diagnosticIssues d).map fun skipped => Issue.sort (found ++ skipped)

/-- Whether a value can tell how many analyzers run at a time: an empty one leaves it to the
configuration, and any other has to be a number. -/
def checkWorkers (workers : Json) : Except Failure Unit :=
  if workers.isEmpty || workers.numeric?.isSome then .ok () else .error (.uncomparable workers.kind)

/-- The issues of a document, when the caller tells how many analyzers run at a time. That is looked
at once the context is known. -/
def runWith (e : Engine) (workers : Json) (d : Document) : Checked (List Issue) :=
  let context : Checked Unit :=
    if d.hasStructure then (AnalysisContext.ofDocument d e.config).map fun _ => () else .ok ()
  context.andThen fun _ =>
    match checkWorkers workers with
    | .ok () => e.run d
    | .error why => .broken why

end Engine

end AccessAudit
