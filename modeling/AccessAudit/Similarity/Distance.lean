/-!
# Edit distance

How many insertions, deletions and substitutions of single characters turn one text into another.
The table of distances between the heads of the two texts is filled row by row: a row holds the
distances from one head of the first text to all heads of the second. Nothing in it depends on what
the items are.
-/

namespace AccessAudit.Similarity

variable {α : Type} [BEq α]

/-- The rest of a row: `left` is the cell before, and `above` the row above from the cell before
on. -/
def rowFrom (c : α) : (left : Nat) → List α → (above : List Nat) → List Nat
  | left, d :: rest, diagonal :: up :: above =>
    let cell := min (min (up + 1) (left + 1)) (diagonal + if c == d then 0 else 1)
    cell :: rowFrom c cell rest (up :: above)
  | _, _, _ => []

/-- The row below a row, for a list that goes on with an item. -/
def nextRow (b : List α) (above : List Nat) (c : α) : List Nat :=
  let first := above.headD 0 + 1
  first :: rowFrom c first b above

/-- The row of distances from the empty list. -/
def firstRow (b : List α) : List Nat := List.range (b.length + 1)

/-- The edit distance that the table gives: the last cell of its last row. -/
def tableDistance (a b : List α) : Nat := (a.foldl (nextRow b) (firstRow b)).getLastD 0

/-- The edit distance to a list that is not longer. An empty one needs no table. -/
def distanceToShorter (long short : List α) : Nat :=
  if short.isEmpty then long.length else tableDistance long short

/-- The edit distance between two lists. Equal lists need no table, and the rows go along the
shorter list. -/
def listDistance (a b : List α) : Nat :=
  if a == b then 0
  else if a.length < b.length then distanceToShorter b a
  else distanceToShorter a b

/-- The edit distance between two texts. -/
def distance (a b : String) : Nat := listDistance a.toList b.toList

end AccessAudit.Similarity
