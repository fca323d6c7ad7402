import AccessAudit.Audit.Job

/-!
# Reports

Issues as a table, one row each, with the views on it: the sorted table, and the numbers of issues
by severity, by kind and by success criterion. A report may cover several jobs; those that failed
are left out.
-/

namespace AccessAudit

/-- An issue as a row of a table. The job is usually a name, but any value that can be looked up may
stand for one. -/
structure Row where
  job : Json
  file : String
  line : Int
  column : Int
  element : String
  kind : String
  severity : Severity
  criteria : List String
  analyzer : String
  confidence : Level
  score : Float
  message : String
  fix : String

/-- The name of the job; empty when a value that is no text stands for it. -/
def Row.jobName (r : Row) : String :=
  match r.job with
  | .str name => name
  | _ => ""

/-- The row for an issue of a job. -/
def Row.ofIssue (job : Json) (i : Issue) : Row :=
  { job, file := i.spot.file, line := i.spot.line, column := i.spot.column
    element := i.spot.element, kind := i.kind, severity := i.severity, criteria := i.criteria
    analyzer := i.analyzer, confidence := i.confidence.level, score := i.confidence.score
    message := i.message, fix := (i.fix.map Fix.description).getD "" }

/-- The order of rows: the gravest first, then by place, then by kind. -/
def Row.compare (a b : Row) : Ordering :=
  (Ord.compare a.severity.rank b.severity.rank).then <| (Ord.compare a.jobName b.jobName).then <|
    (Ord.compare a.file b.file).then <| (Ord.compare a.line b.line).then <|
      (Ord.compare a.column b.column).then (Ord.compare a.kind b.kind)

/-- The rows of a report, in the order in which they were added. -/
structure Report where
  rows : List Row := []

namespace Report

/-- The report with the issues of a job added. -/
def add (r : Report) (issues : List Issue) (job : Json) : Report :=
  ⟨r.rows ++ issues.map (Row.ofIssue job)⟩

/-- The report on the issues of one job. A job that cannot be looked up cannot have issues. -/
def ofIssues (issues : List Issue) (job : Json) : Except Failure Report :=
  if job.isHashable || issues.isEmpty then .ok (Report.add {} issues job)
  else .error (.unhashable job.kind)

/-- Whether an outcome belongs into a report: the job has not failed, or does not say why. -/
def covers (o : Outcome) : Bool := o.error.all String.isEmpty

/-- The report on several jobs. -/
def ofOutcomes (outcomes : List Outcome) : Report :=
  (outcomes.filter covers).foldl (fun r o => r.add o.issues (.str o.name)) {}

/-! ## Views -/

/-- The rows in order; rows that are alike in it stay as they are. -/
def table (r : Report) : List Row := r.rows.mergeSort fun a b => (a.compare b).isLE

/-- How many issues of a severity there are. -/
def severityCount (r : Report) (s : Severity) : Nat := r.rows.countP (·.severity == s)

/-- How many issues there are. -/
def total (r : Report) : Nat := r.rows.length

/-- How many issues of a kind there are, and the gravest severity among them. -/
structure KindCount where
  kind : String
  severity : Severity
  count : Nat
  deriving DecidableEq, Repr

/-- The order of kinds: the gravest first, then the most frequent, then by name. -/
def KindCount.compare (a b : KindCount) : Ordering :=
  (Ord.compare a.severity.rank b.severity.rank).then <| (Ord.compare b.count a.count).then
    (Ord.compare a.kind b.kind)

/-- The count for a kind. -/
def kindCount (r : Report) (kind : String) : KindCount :=
  let rows := r.rows.filter (·.kind == kind)
  ⟨kind, (rows.map Row.severity).foldl Criterion.graver .info, rows.length⟩

/-- The counts of all kinds. -/
def kindSummary (r : Report) : List KindCount :=
  ((sortTexts (r.rows.map Row.kind)).map r.kindCount).mergeSort fun a b => (a.compare b).isLE

/-- How many issues cite a criterion, and its level. -/
structure CriterionCount where
  criterion : String
  level : String
  count : Nat
  deriving DecidableEq, Repr

/-- The counts of all criteria, by criterion. An issue counts as often as it cites one. -/
def criterionSummary (r : Report) : List CriterionCount :=
  (tally (r.rows.flatMap Row.criteria)).map fun (criterion, count) =>
    ⟨criterion, ((Criterion.level? criterion).map Conformance.name).getD "", count⟩

end Report

end AccessAudit
