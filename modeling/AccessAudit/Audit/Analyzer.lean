import AccessAudit.Audit.Context

/-!
# Analyzers

An analyzer reads a document and reports issues, and does what it can with the actions alone when
there is no markup. It may break down on its input; what becomes of that is the engine's concern.
-/

namespace AccessAudit

/-- A way to find issues. -/
structure Analyzer where
  /-- The name. -/
  name : String
  /-- What it looks for. -/
  description : String
  /-- The kinds of issues it reports. -/
  kinds : List String
  /-- The issues of a document. -/
  analyze : Document → AnalysisContext → Except Failure (List Issue)
  /-- The issues of actions without any markup. -/
  analyzeActions : List Action → AnalysisContext → Except Failure (List Issue) := fun _ _ => .ok []

end AccessAudit
