/-!
# Success criteria

The success criteria of the Web Content Accessibility Guidelines that analyses cite, with their
conformance levels, and the severity that follows from them.
-/

namespace AccessAudit

/-- How grave an issue is. -/
inductive Severity where
  | error
  | warning
  | info
  deriving DecidableEq, Repr

/-- The word for a severity. -/
def Severity.name : Severity → String
  | error => "error"
  | warning => "warning"
  | info => "info"

/-- The rank of a severity, the gravest first. -/
def Severity.rank : Severity → Nat
  | error => 0
  | warning => 1
  | info => 2

/-- A conformance level. -/
inductive Conformance where
  | a
  | aa
  | aaa
  deriving DecidableEq, Repr

namespace Conformance

/-- The name of a level. -/
def name : Conformance → String
  | a => "A"
  | aa => "AA"
  | aaa => "AAA"

/-- How grave it is to miss a level. -/
def severity : Conformance → Severity
  | a => .error
  | aa => .warning
  | aaa => .info

end Conformance

namespace Criterion

/-- The criteria that analyses cite, with their levels. -/
def levels : List (String × Conformance) := [
  ("1.3.1", .a), ("2.1.1", .a), ("2.1.2", .a), ("2.1.3", .aaa), ("2.4.3", .a), ("2.4.7", .aa),
  ("2.4.11", .aa), ("4.1.1", .a), ("4.1.2", .a)]

/-- The level of a criterion, if it is known. -/
def level? (criterion : String) : Option Conformance := levels.lookup criterion

/-- The graver of two severities. -/
def graver (s t : Severity) : Severity := if t.rank < s.rank then t else s

/-- How grave it is to miss some criteria: what the strictest known one says. -/
def severity (criteria : List String) : Severity :=
  ((criteria.filterMap level?).map Conformance.severity).foldl graver .info

end Criterion

end AccessAudit
