import AccessAudit.Schema

/-!
# Configuration of an analysis

The constants of one run: how the completeness of a document is scored, how far a misspelt id may
be from a known one, from which opacity on an element counts as visible, and which analyzers run.

Completeness is scored, and its constants are checked, over any `Scale`.
-/

namespace AccessAudit

/-! ## Completeness -/

/-- How completeness is scored. -/
structure Completeness (α : Type) where
  /-- What each fragment costs. -/
  step : α
  /-- The least score without a bonus. -/
  floor : α
  /-- What a reference between fragments gains. -/
  bonus : α

namespace Completeness

variable {α : Type} [Scale α]

/-- Whether one fragment may cost its step. -/
def leavesRoom (c : Completeness α) : Bool :=
  !Scale.less (Scale.ofInt 1 - c.step) c.floor

/-- The score of an amount of fragments before the bonus. -/
def base (c : Completeness α) (amount : α) : α :=
  let score := Scale.ofInt 1 - c.step * amount
  if Scale.less c.floor score then score else c.floor

/-- The score with the bonus, which does not go beyond one. -/
def boosted (c : Completeness α) (amount : α) : α :=
  let score := c.base amount + c.bonus
  if Scale.less score (Scale.ofInt 1) then score else Scale.ofInt 1

/-- The score of an amount of fragments that is not nothing. -/
def scoreAt (c : Completeness α) (amount : α) (crossed : Bool) : α :=
  Scale.round (if crossed then c.boosted amount else c.base amount)

/-- How sure it is that the fragments are the whole picture: less with every fragment, and more
once a reference from one to another is resolved. -/
def score (c : Completeness α) (count : Int) (crossed : Bool) : α :=
  if count ≤ 0 then Scale.ofInt 0 else c.scoreAt (Scale.ofInt count) crossed

/-- The constants that the fields of an object give, when numbers are read by `number`; those that
are left out are as in `usual`. -/
def read (number : Reader α) (usual : Completeness α) (fields : Entries Json) :
    Checked (Completeness α) :=
  mk <$> Schema.field fields "completeness_step" usual.step
      (fun v => Schema.withinPositiveUnit (number v))
    <*> Schema.field fields "completeness_floor" usual.floor
      (fun v => Schema.withinUnit (number v))
    <*> Schema.field fields "completeness_bonus" usual.bonus
      (fun v => Schema.withinUnit (number v))

/-- The condition that ties the constants together. -/
def checkRoom (c : Completeness α) : Checked (Completeness α) :=
  if c.leavesRoom then .ok c
  else .fault (.value "completeness_floor must leave room for at least one step")

end Completeness

/-! ## The configuration -/

/-- The constants of one analysis. -/
structure Config where
  /-- How completeness is scored. -/
  completeness : Completeness Float := ⟨0.1, 0.3, 0.3⟩
  /-- The least distance at which a known id is suggested for an unknown one. -/
  minDistance : Int := 2
  /-- By how many characters of the unknown id the distance grows by one. -/
  lengthDivisor : Int := 3
  /-- How many ids are suggested. -/
  maxSuggestions : Int := 3
  /-- The greatest opacity at which an element counts as hidden. -/
  opacityThreshold : Float := 0.05
  /-- How many analyzers run at the same time. -/
  maxWorkers : Int := 1
  /-- The analyzers that run; all of them when none are named. -/
  enabledAnalyzers : Option (List String) := none

namespace Config

/-- The largest distance at which a known id is suggested for an unknown one of a length. -/
def thresholdFor (c : Config) (length : Nat) : Int :=
  max c.minDistance (Int.fdiv length c.lengthDivisor)

/-- The largest distance at which a known id is suggested for an unknown one. -/
def suggestionThreshold (c : Config) (missing : String) : Int := c.thresholdFor missing.length

/-- The completeness of so many fragments, where any number will do. A whole number beyond all
decimals is an error, unless it is negative. -/
def scoreOf (c : Config) (count : Json) (crossed : Bool) : Except Failure Float :=
  match count.numeric? with
  | some (.whole n) =>
    if 0 < n && (Number.wholeValue? (Number.ofInt n)).isNone then .error .overflow
    else .ok (c.completeness.score n crossed)
  | some (.decimal x) => .ok (if x ≤ 0 then 0 else c.completeness.scoreAt x crossed)
  | none => .error (.uncomparable count.kind)

/-- The names of analyzers that a value lists; an empty value lists all. -/
def readEnabled (v : Json) : Checked (Option (List String)) :=
  if v.isEmpty then .ok none
  else
    match v with
    | .arr items => some <$> Schema.itemsFrom Schema.text 0 items
    | .str s => .ok (some (s.toList.map Char.toString))
    | .obj fields => .ok (some (fields.map Prod.fst))
    | other => .broken (.notIterable other.kind)

/-- The configuration that an object describes. The condition that ties its constants together is
looked at once all fields fit. -/
def read : Reader Config := Schema.model fun fields =>
  Checked.andThen
    ((fun completeness minDistance lengthDivisor maxSuggestions opacityThreshold maxWorkers
        enabledAnalyzers =>
        ({ completeness, minDistance, lengthDivisor, maxSuggestions, opacityThreshold, maxWorkers,
           enabledAnalyzers } : Config))
      <$> Completeness.read Schema.float ({} : Config).completeness fields
      <*> Schema.field fields "fuzzy_min_distance" 2 (Schema.atLeast 0)
      <*> Schema.field fields "fuzzy_length_divisor" 3 (Schema.atLeast 1)
      <*> Schema.field fields "max_suggestions" 3 (Schema.atLeast 1)
      <*> Schema.field fields "opacity_threshold" 0.05 Schema.unitInterval
      <*> Schema.field fields "max_workers" 1 (Schema.atLeast 1)
      <*> Schema.field fields "enabled_analyzers" none readEnabled)
    fun c => c.completeness.checkRoom.map fun _ => c

end Config

end AccessAudit
