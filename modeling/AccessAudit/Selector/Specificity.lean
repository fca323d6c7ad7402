/-!
# Specificity

How much weight a selector has in the cascade: four counts, compared from left to right. The first
is set for inline style only; the others count ids, then classes, attributes and pseudo-classes,
then types and pseudo-elements. The counts are integers because a vector may also come from
outside, where nothing forbids a negative one.
-/

namespace AccessAudit

/-- The weight of a selector. -/
structure Specificity where
  /-- Set for inline style. -/
  inline : Int := 0
  /-- Ids. -/
  ids : Int := 0
  /-- Classes, attributes and pseudo-classes. -/
  classes : Int := 0
  /-- Types and pseudo-elements. -/
  types : Int := 0
  deriving DecidableEq, Repr, Inhabited

namespace Specificity

/-- No weight. -/
def zero : Specificity := {}

/-- The weight of an inline declaration. -/
def ofInline : Specificity := ⟨1, 0, 0, 0⟩

/-- The weight of an id. -/
def ofId : Specificity := ⟨0, 1, 0, 0⟩

/-- The weight of a class, an attribute or a pseudo-class. -/
def ofClass : Specificity := ⟨0, 0, 1, 0⟩

/-- The weight of a type or a pseudo-element. -/
def ofType : Specificity := ⟨0, 0, 0, 1⟩

/-- Weights add up count by count. -/
def add (a b : Specificity) : Specificity :=
  ⟨a.inline + b.inline, a.ids + b.ids, a.classes + b.classes, a.types + b.types⟩

instance : Add Specificity := ⟨add⟩

/-- The four counts, in the order in which they are compared. -/
def vector (s : Specificity) : List Int := [s.inline, s.ids, s.classes, s.types]

/-- The heavier of two weights. -/
def max (a b : Specificity) : Specificity := if a.vector < b.vector then b else a

end Specificity

end AccessAudit
