/-!
# Tables

A table holds a value under each of some keys, in the order in which the keys first came up. It is
filled step by step: a step changes the value under one key, and a key that is new is put at the
end with a value to start from.

Items that have a tag are entered in two ways: `collect` keeps all items under their tag, and
`firsts` only the first.
-/

namespace AccessAudit

/-- Values under keys, in the order in which the keys first came up. -/
abbrev Table (κ α : Type) := List (κ × α)

namespace Table

variable {κ α ι : Type} [DecidableEq κ]

/-- The value under a key. -/
def get? (t : Table κ α) (key : κ) : Option α := t.lookup key

/-- The keys in order. -/
def keys (t : Table κ α) : List κ := t.map Prod.fst

/-- The table with the value under a key changed. A key that is new starts from a given value. -/
def update (t : Table κ α) (key : κ) (start : α) (change : α → α) : Table κ α :=
  match t with
  | [] => [(key, change start)]
  | (other, value) :: rest =>
    if other = key then (other, change value) :: rest
    else (other, value) :: update rest key start change

/-- Enters an item behind those with the same tag, if it has one. -/
def enter (tag : ι → Option κ) (t : Table κ (List ι)) (item : ι) : Table κ (List ι) :=
  match tag item with
  | some key => t.update key [] (· ++ [item])
  | none => t

/-- The items with each tag, in order. -/
def collect (tag : ι → Option κ) (items : List ι) : Table κ (List ι) :=
  items.foldl (enter tag) []

/-- Enters an item if it has a tag and is the first with it. -/
def enterFirst (tag : ι → Option κ) (t : Table κ ι) (item : ι) : Table κ ι :=
  match tag item with
  | some key => if (t.get? key).isSome then t else t ++ [(key, item)]
  | none => t

/-- The first item with each tag. -/
def firsts (tag : ι → Option κ) (items : List ι) : Table κ ι := items.foldl (enterFirst tag) []

end Table

end AccessAudit
