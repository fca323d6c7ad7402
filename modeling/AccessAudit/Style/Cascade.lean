import AccessAudit.Style.Rule

/-!
# The cascade

A style match is a rule attached to an element by one branch of its selector. Of all matches that
apply in a state, the one with the greatest key gives a property its value: importance first, then
weight, then order of declaration.
-/

namespace AccessAudit

/-- A rule attached to an element. -/
structure StyleMatch where
  /-- The rule. -/
  rule : Rule
  /-- The weight with which it takes part. -/
  specificity : Specificity
  /-- The place of its declaration. -/
  order : Int
  /-- The states in which it applies. -/
  states : List String := []
  /-- The part of the rendering that it styles in place of the element. -/
  pseudoElement : Option String := none
  /-- Whether it comes from a style attribute. -/
  inline : Bool := false
  deriving DecidableEq, Repr

namespace StyleMatch

/-- Whether the rule styles the element itself when the given states hold. -/
def applies (m : StyleMatch) (states : List String) : Bool :=
  m.pseudoElement.isNone && m.rule.mediaQuery.isNone && m.states.all states.contains

/-- What decides between two matches that set a property. -/
def cascadeKey (m : StyleMatch) (property : String) : List Int :=
  (if m.rule.important.contains property then 1 else 0) :: m.specificity.vector ++ [m.order]

/-- The match that an object with a rule describes. -/
def read (rule : Rule) (fields : Entries Json) : Checked StyleMatch :=
  mk rule
    <$> Schema.field fields "specificity" rule.specificity Specificity.read
    <*> Schema.required fields "order" Schema.int
    <*> Schema.field fields "states" [] (Schema.collection Schema.text)
    <*> Schema.field fields "pseudo_element" none (Schema.optional Schema.text)
    <*> Schema.field fields "inline" false Schema.bool

end StyleMatch

/-- A value for a property, and what decides whether it stands. -/
structure Candidate where
  /-- The key. -/
  key : List Int
  /-- The value. -/
  value : String

/-- The candidates for a property among matches. -/
def candidatesFor (matched : List StyleMatch) (property : String) : List Candidate :=
  matched.filterMap fun m =>
    (m.rule.properties.get? property).map fun value => ⟨m.cascadeKey property, value⟩

/-- The first of the candidates with the greatest key. -/
def Candidate.best? : List Candidate → Option Candidate
  | [] => none
  | c :: rest =>
    some (rest.foldl (fun best other => if best.key < other.key then other else best) c)

/-- Texts in the order of their characters, each once. -/
def sortTexts (texts : List String) : List String :=
  texts.eraseDups.mergeSort fun a b => decide (a ≤ b)

/-- The value of each property that some applicable match sets, by name. -/
def cascade (matched : List StyleMatch) (states : List String) : Entries String :=
  let applicable := matched.filter (·.applies states)
  let names := sortTexts (applicable.flatMap fun m => m.rule.properties.names)
  names.filterMap fun name =>
    (Candidate.best? (candidatesFor applicable name)).map fun c => (name, c.value)

end AccessAudit
