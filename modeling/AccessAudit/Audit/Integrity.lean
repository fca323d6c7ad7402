import AccessAudit.Audit.Analyzer
import AccessAudit.Document.Merge
import AccessAudit.Similarity.Ranking

/-!
# Integrity of references

Every id that an attribute or a script refers to has to exist in some fragment, and no id may be
used twice. For an id that does not exist, the closest known id is suggested.
-/

namespace AccessAudit

open Text

namespace Integrity

variable (d : Document) (context : AnalysisContext)

/-- The name of the analyzer. -/
def analyzerName : String := "reference-integrity"

/-- The kind of issue for a reference to an id that does not exist. -/
def missingKind : String := "missing-aria-reference"

/-- The kind of issue for an action on an id that does not exist. -/
def orphanKind : String := "orphaned-action-reference"

/-- The kind of issue for an id that is used twice. -/
def duplicateKind : String := "duplicate-id"

/-- Without full context, the id may well exist elsewhere. -/
def level? : Option Level := if context.isFull then none else some .low

/-- The closest known id. -/
def suggestion? (id : String) : Option String :=
  (Similarity.suggest id d.allIds (context.config.suggestionThreshold id)
    context.config.maxSuggestions).head?

/-! ## References in attributes -/

/-- A value with one of its words replaced wherever it occurs. -/
def replaceWord (value old new : String) : String :=
  " ".intercalate ((words value).map fun word => if word == old then new else word)

/-- The finding for a reference to an id that does not exist. -/
def missingReference (key : Key) (name id value origin : String) (spot : Spot)
    (related : List Spot) : Finding :=
  let e := d.element key
  let best? := suggestion? d context id
  { kind := missingKind
    message := name ++ " on " ++ e.describe ++ " references id \"" ++ id ++ "\"" ++ origin ++
      ", which does not exist in any analyzed fragment" ++
      best?.elim "" fun best => "; did you mean \"" ++ best ++ "\"?"
    criteria := ["1.3.1", "4.1.2"]
    spot, related
    level := level? context
    fix := best?.map fun best => {
      description := "Replace \"" ++ id ++ "\" with \"" ++ best ++ "\""
      name := some name
      value := some (replaceWord value id best)
      selector := e.id?.map ("#" ++ ·) } }

/-- The findings for references that elements declare. -/
def checkDeclared : List Finding :=
  (d.references.filter (·.target.isNone)).map fun r =>
    missingReference d context r.source r.name r.id (d.valueOf r.source r.name) ""
      (d.spotOf r.source) []

/-- Whether a word may be computed, so that nothing can be said about it. -/
def isComputed (word : String) : Bool := word.toList.any "$\x7b\x7d+`()".toList.contains

/-- The findings for references that an action writes to an element. -/
def checkWritten (key : Key) (a : Action) : List Finding :=
  match a.deed with
  | .mutate name (some value) =>
    if referenceAttributes.contains name then
      let unknown := (words value).filter fun word =>
        !isComputed word && (d.elementById? word).isNone
      let source := d.sourceOfAction a
      let file := if source.isEmpty then d.sourceOf key else source
      unknown.map fun word =>
        missingReference d context key name word value " at runtime" (a.spot file) [d.spotOf key]
    else []
  | _ => []

/-- The findings for references that scripts write. -/
def checkRuntime : List Finding :=
  d.keys.flatMap fun key => (d.actionsFor key).flatMap (checkWritten d context key)

/-! ## Actions on unknown ids -/

/-- The id that a selector consists of. -/
def selectedId? (selector : String) : Option String :=
  match SelectorList.parse selector with
  | .ok list => list.pureId?
  | .error _ => none

/-- The finding for an action on an id that does not exist. -/
def checkOrphan (o : OrphanAction) : Option Finding :=
  (selectedId? o.action.selector).map fun id =>
    let best? := suggestion? d context id
    { kind := orphanKind
      message := o.action.deed.kind ++ " action targets \"#" ++ id ++
        "\", which matches no element in any analyzed fragment" ++
        best?.elim "" fun best => "; did you mean \"#" ++ best ++ "\"?"
      criteria := ["4.1.2"]
      spot := o.action.spot o.source
      severity := some .warning
      level := level? context
      fix := best?.map fun best => {
        description := "Target \"#" ++ best ++ "\" instead"
        value := some best
        selector := some ("#" ++ best) } }

/-- The findings for actions on ids that do not exist. -/
def checkOrphans : List Finding := d.orphanActions.filterMap (checkOrphan d context)

/-! ## Repeated ids -/

/-- The finding for an element whose id another element had before. -/
def repeatedId (id : String) (first key : Key) : Finding :=
  { kind := duplicateKind
    message := "id \"" ++ id ++ "\" on " ++ (d.element key).describe ++ " is already used by " ++
      (d.element first).describe ++ " in " ++ d.sourceOf first ++
      "; references resolve to the first one only"
    criteria := ["4.1.1"]
    spot := d.spotOf key
    severity := some .warning
    related := [d.spotOf first] }

/-- The findings for ids that are used twice. -/
def checkDuplicates : List Finding :=
  let byId := d.duplicateIds.mergeSort fun a b => decide (a.1 ≤ b.1)
  byId.flatMap fun (id, owners) =>
    match owners with
    | first :: others => others.map (repeatedId d id first)
    | [] => []

/-! ## The analyzer -/

/-- The findings of a document. -/
def findings : List Finding :=
  checkDeclared d context ++ checkRuntime d context ++ checkOrphans d context ++ checkDuplicates d

/-- Checks that references lead to existing elements. -/
def analyzer : Analyzer :=
  { name := analyzerName
    description := "ARIA id references resolve across fragments"
    kinds := [missingKind, orphanKind, duplicateKind]
    analyze := fun d context => .ok ((findings d context).map (·.issue analyzerName context)) }

end Integrity

end AccessAudit
