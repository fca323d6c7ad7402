import AccessAudit.Json

/-!
# Carriers

Trees are validated, and jobs are written and read, by a library that is not part of this one. It
follows elements inside each other only so far, and it neither writes every value nor reads every
text. How far it goes, and which values it can deal with, is its own affair: a carrier says so, and
everything that validates a tree or sends a job depends on one.
-/

namespace AccessAudit

/-- What a library that validates, writes and reads can deal with. -/
structure Carrier where
  /-- How many elements may lie inside each other for a tree to be validated. -/
  nesting : Nat
  /-- Whether a fragment or an action can be written. -/
  writes : Json → Bool
  /-- Whether the text that a value is written as can be read. -/
  reads : Json → Bool

/-- A carrier that goes so deep in validating, in writing and in reading, and that reads no wide
numbers. -/
def Carrier.upTo (nesting writing reading : Nat) : Carrier where
  nesting
  writes v := v.height ≤ writing
  reads v := v.nesting ≤ reading && !v.hasWide

/-- The carrier that is used where none is given. Its numbers are those at which the libraries at
hand were seen to give up. -/
def Carrier.usual : Carrier := .upTo 255 255 200

end AccessAudit
