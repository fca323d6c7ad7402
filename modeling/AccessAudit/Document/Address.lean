import AccessAudit.Document.Context

/-!
# Addresses

Whoever asks about an element may count its fragment and its order from the end, by negative
numbers. Such an address means an element (`Document.locate?`), but it is no key. What has to do
with structure is answered for the element that is meant, with the numbers as they were given. What was
attached to elements is found by key only: seen from an address (`Document.seenFrom`), the element
that is meant has nothing attached to it, unless the address is its key.
-/

namespace AccessAudit

/-- The numbers by which an element is asked for. -/
structure Address where
  /-- The place of the fragment. -/
  fragment : Int
  /-- The order in the fragment. -/
  order : Int
  deriving DecidableEq, Repr

namespace Address

/-- The address that a key is. -/
def ofKey (key : Key) : Address := ⟨key.fragment, key.order⟩

/-- The address with another order in the same fragment. -/
def withOrder (a : Address) (order : Int) : Address := { a with order }

end Address

namespace Document

variable (d : Document)

/-- The element that an address means. -/
def locate? (a : Address) : Option Key := do
  let place ← placeIn? d.fragments.size a.fragment
  let f ← d.fragments[place]?
  let order ← placeIn? f.size a.order
  pure ⟨place, order⟩

/-- The document with nothing attached to an element. -/
def without (key : Key) : Document :=
  { d with annotations := d.annotations.filter fun entry => entry.1 != key }

/-- The document as it is seen from an address of a key. -/
def seenFrom (a : Address) (key : Key) : Document :=
  if a.fragment < 0 then
    { d with annotations := d.annotations.filter fun entry => entry.1.fragment != key.fragment }
  else if a.order < 0 then d.without key
  else d

/-- The parent of the element that an address means. -/
def parentFrom? (a : Address) (key : Key) : Option Address :=
  (d.parent? key).map fun parent => a.withOrder parent.order

/-- The ancestors of the element that an address means, nearest first. -/
def ancestorsFrom (a : Address) (key : Key) : List Address :=
  (d.ancestors key).map fun ancestor => a.withOrder ancestor.order

/-- The descendants of the element that an address means: the orders from the one after the given
order up to the end of the subtree. -/
def descendantsFrom (a : Address) (key : Key) : List Address :=
  let stop : Nat := (d.fragments[key.fragment]?.map (·.stop key.order)).getD 0
  (List.range (stop - (a.order + 1)).toNat).map fun (step : Nat) => a.withOrder (a.order + 1 + step)

/-- Adds the target of an ownership and its descendants to what is owned already. -/
def addOwnedFrom (owned : List Address) (id : String) : List Address :=
  match d.elementById? id with
  | some target =>
    if owned.contains (.ofKey target) then owned
    else
      let owned := owned ++ [.ofKey target]
      owned ++ ((d.descendants target).map .ofKey).filter (!owned.contains ·)
  | none => owned

/-- What the element that an address means owns. -/
def ownedFrom (a : Address) (key : Key) : List Address :=
  (Text.words (d.valueOf key "aria-owns")).foldl d.addOwnedFrom (d.descendantsFrom a key)

end Document

end AccessAudit
