import AccessAudit.Audit.Engine
import AccessAudit.Markup.FromText
import AccessAudit.Markup.Reading

/-!
# Batches of jobs

A job is one independent analysis: some fragments, as trees or as markup to parse, with scripts and
style sheets. Jobs are sent to workers in written form, so what is analyzed is the job as it is read
back (`Job.resent`). A job that fails has an outcome of its own and does not touch the others; one
that its carrier cannot write or read back stops the batch.
-/

namespace AccessAudit

/-! ## Jobs -/

/-- A fragment of a job. -/
inductive JobFragment where
  /-- Markup to parse. -/
  | markup (text : String)
  /-- A tree. -/
  | tree (tree : Tree)

/-- One independent analysis. -/
structure Job where
  /-- The name. -/
  name : String
  /-- The fragments. -/
  fragments : List JobFragment := []
  /-- The scripts. -/
  scripts : List Script := []
  /-- The style sheets. -/
  sheets : List StyleSheet := []
  /-- What the analysis covers. -/
  scope : Scope := .workspace

/-- The fragment that a value describes: a text is markup, all else has to be a tree. -/
def JobFragment.read (carrier : Carrier) : Reader JobFragment
  | .str text => .ok (markup text)
  | v =>
    match (Tree.read v carrier.nesting).under "Element" with
    | .ok t => .ok (tree t)
    | .refused faults => .refused (faults ++ [⟨["str"], .stringType⟩])
    | .broken why => .broken why

/-- The value that describes a fragment. -/
def JobFragment.dump : JobFragment → Json
  | markup text => .str text
  | tree t => t.dump

namespace Job

/-- The job that an object describes. -/
def read (v : Json) (carrier : Carrier := .usual) : Checked Job :=
  v |> Schema.model fun fields =>
    mk <$> Schema.required fields "name" Schema.text
      <*> Schema.field fields "fragments" [] (Schema.list (JobFragment.read carrier))
      <*> Schema.field fields "behaviors" [] (Schema.list Script.read)
      <*> Schema.field fields "styles" [] (Schema.list StyleSheet.read)
      <*> Schema.field fields "scope" .workspace Scope.read

/-- The object that describes a job. -/
def dump (j : Job) : Json :=
  .obj [("name", .str j.name), ("fragments", .arr (j.fragments.map JobFragment.dump)),
    ("behaviors", .arr (j.scripts.map Script.dump)),
    ("styles", .arr (j.sheets.map StyleSheet.dump)), ("scope", .str j.scope.name)]

/-- Why a job cannot be written, if it cannot. -/
def unwritable? (carrier : Carrier) (j : Job) : Option Failure :=
  let parts := j.fragments.map JobFragment.dump
    ++ j.scripts.flatMap fun script => script.actions.map Action.dump
  if parts.all carrier.writes then none else some .tooDeep

/-- The job as a worker receives it: what was written is read again, with null in place of what is
no finite number. -/
def resent (carrier : Carrier) (j : Job) : Checked Job :=
  match j.unwritable? carrier with
  | some why => .broken why
  | none => if carrier.reads j.dump then read j.dump.writable carrier else .fault .jsonInvalid

end Job

/-! ## Outcomes -/

/-- What came of a job. -/
structure Outcome where
  /-- The name of the job. -/
  name : String
  /-- The issues. -/
  issues : List Issue := []
  /-- How complete the document was. -/
  completeness : Float := 0.0
  /-- How many fragments were merged. -/
  fragments : Int := 0
  /-- How many fragments were left out. -/
  skippedFragments : Int := 0
  /-- How many actions were attached to no element. -/
  orphanActions : Int := 0
  /-- How many rules matched no element. -/
  orphanRules : Int := 0
  /-- Why the job failed, if it did. -/
  error : Option String := none

namespace Outcome

/-- The outcome that an object describes. -/
def read : Reader Outcome := Schema.model fun fields =>
  mk <$> Schema.required fields "name" Schema.text
    <*> Schema.field fields "issues" [] (Schema.list Issue.read)
    <*> Schema.field fields "completeness" 0.0 Schema.float
    <*> Schema.field fields "fragments" 0 Schema.int
    <*> Schema.field fields "skipped_fragments" 0 Schema.int
    <*> Schema.field fields "orphan_actions" 0 Schema.int
    <*> Schema.field fields "orphan_rules" 0 Schema.int
    <*> Schema.field fields "error" none (Schema.optional Schema.text)

/-- Whether the job succeeded. -/
def ok (o : Outcome) : Bool := o.error.isNone

/-- The outcome of a job whose document was analyzed. -/
def ofDocument (name : String) (d : Document) (issues : List Issue) : Outcome :=
  { name, issues, completeness := d.completeness, fragments := d.fragments.size
    skippedFragments := d.skippedFragments, orphanActions := d.orphanActions.length
    orphanRules := d.orphanRules.length }

end Outcome

namespace Job

/-- The input that a fragment of a job amounts to. Markup is named for the job and its place. -/
def input (j : Job) (place : Nat) : JobFragment → Except Markup.Rejection FragmentInput
  | .markup text => do
    let tree ← Tree.ofMarkup text (j.name ++ "#" ++ toString place)
    pure (.bare (.ofTree tree))
  | .tree t => .ok (.bare (.ofTree t))

/-- The inputs of a job, in order; the first markup that is rejected decides. -/
def inputs (j : Job) : Except Markup.Rejection (List FragmentInput) :=
  j.fragments.zipIdx.mapM fun (fragment, place) => j.input place fragment

/-- The outcome of a job that broke down. -/
def failed (j : Job) (message : String) : Outcome := { name := j.name, error := some message }

/-- The outcome of a job as it is. -/
def analyze (config : Config) (j : Job) : Outcome :=
  match j.inputs with
  | .error why => j.failed why.fullMessage
  | .ok inputs =>
    match assemble config inputs j.scripts j.sheets (.str j.scope.name) with
    | .error why => j.failed why.message
    | .ok d =>
      match (Engine.ofConfig config none).run d with
      | .ok issues => .ofDocument j.name d issues
      | .refused _ => j.failed "ValidationError"
      | .broken why => j.failed why.message

/-- The outcome of a job that is sent to a worker. -/
def run (config : Config) (j : Job) (carrier : Carrier := .usual) : Checked Outcome :=
  (j.resent carrier).map (analyze config)

/-- The outcomes of jobs that are written before the first of them is sent. How many workers there
are makes no difference, but it has to be a number if it is given. -/
def runBatch (config : Config) (workers : Json) (jobs : List Job) (carrier : Carrier := .usual) :
    Checked (List Outcome) :=
  match jobs.findSome? (unwritable? carrier) with
  | some why => .broken why
  | none =>
    if workers matches .null || workers.numeric?.isSome then
      Checked.inTurn (jobs.map fun j => j.run config carrier)
    else .broken (.uncomparable workers.kind)

end Job

/-! ## Summaries -/

/-- What came of a batch. -/
structure Summary where
  /-- How many jobs there were. -/
  jobs : Nat
  /-- How many failed. -/
  failed : Nat
  /-- How many have issues. -/
  withIssues : Nat
  /-- How many issues there are. -/
  issues : Nat
  /-- How many issues of each kind, by kind. -/
  breakdown : List (String × Nat)
  deriving DecidableEq, Repr

/-- How often each text occurs, sorted by text. -/
def tally (texts : List String) : List (String × Nat) :=
  (sortTexts texts).map fun text => (text, texts.count text)

/-- The totals of a batch. -/
def Summary.ofOutcomes (outcomes : List Outcome) : Summary :=
  let issues := outcomes.flatMap Outcome.issues
  { jobs := outcomes.length, failed := outcomes.countP (!·.ok)
    withIssues := outcomes.countP (!·.issues.isEmpty), issues := issues.length
    breakdown := tally (issues.map Issue.kind) }

end AccessAudit
