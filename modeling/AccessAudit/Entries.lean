/-!
# Ordered entries

Attributes of an element, declared properties of a rule and fields of an object all have names
that occur once and an order that is kept: the order in which the names first came up. Such a
collection is a list of pairs, read by `get?` and written by `put`.
-/

namespace AccessAudit

/-- Named values in the order in which the names first came up. -/
abbrev Entries (α : Type) := List (String × α)

namespace Entries

variable {α : Type}

/-- The value under a name. -/
def get? (entries : Entries α) (name : String) : Option α := entries.lookup name

/-- Whether the name occurs. -/
def has (entries : Entries α) (name : String) : Bool := entries.any fun entry => entry.1 == name

/-- The names in order. -/
def names (entries : Entries α) : List String := entries.map Prod.fst

/-- The entries with `value` under `name`: in the place of the old value if there was one, at the
end otherwise. -/
def put (entries : Entries α) (name : String) (value : α) : Entries α :=
  match entries with
  | [] => [(name, value)]
  | (key, old) :: rest =>
    if key == name then (key, value) :: rest else (key, old) :: put rest name value

/-- The entries written one after the other into an empty collection. -/
def ofPairs (pairs : List (String × α)) : Entries α :=
  pairs.foldl (fun entries pair => put entries pair.1 pair.2) []

end Entries

end AccessAudit
