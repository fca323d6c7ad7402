import AccessAudit.Number.Fixed
import AccessAudit.Similarity.Distance
import AccessAudit.Similarity.Ratio
import AccessAudit.Text.Lower

/-!
# Ranking of similar names

The known names that come close to an unknown one, best first: by edit distance, then by the
similarity of the lower-case texts, then by name.
-/

namespace AccessAudit.Similarity

open Text

/-- A known name with its closeness to an unknown one. -/
structure Candidate where
  /-- The name. -/
  name : String
  /-- The edit distance. -/
  distance : Nat
  /-- The similarity ratio, rounded to millionths. -/
  millionths : Nat
  deriving DecidableEq, Repr

/-- Whether a candidate comes no later than another. -/
def Candidate.le (a b : Candidate) : Bool :=
  if a.distance != b.distance then a.distance < b.distance
  else if a.millionths != b.millionths then b.millionths < a.millionths
  else a.name ≤ b.name

/-- A known name as a candidate for an unknown one. -/
def Candidate.ofName (missing name : String) : Candidate :=
  ⟨name, Similarity.distance missing name,
    Number.count 6 (Similarity.ratio (lower missing) (lower name))⟩

/-- The similarity ratio as a decimal. -/
def Candidate.ratio (c : Candidate) : String := String.ofList (Number.placePoint 6 c.millionths)

/-- The known names within a distance of an unknown one, best first and each once. -/
def rank (missing : String) (names : List String) (maxDistance : Int) : List Candidate :=
  let others := names.eraseDups.filter (· != missing)
  let near := others.filter fun name => (distance missing name : Int) ≤ maxDistance
  (near.map (Candidate.ofName missing)).mergeSort Candidate.le

/-- The first items of a list; a negative limit leaves out as many at the end. -/
def takeLimit {α : Type} (limit : Int) (items : List α) : List α :=
  if 0 ≤ limit then items.take limit.toNat else items.take (items.length + limit).toNat

/-- The names of the best candidates, as many as the limit allows. -/
def suggest (missing : String) (names : List String) (maxDistance limit : Int) : List String :=
  (takeLimit limit (rank missing names maxDistance)).map Candidate.name

end AccessAudit.Similarity
