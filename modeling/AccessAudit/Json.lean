import AccessAudit.Entries
import AccessAudit.Number.Reading
import AccessAudit.Number.Shortest
import AccessAudit.Text.Quoted

/-!
# Loosely typed values

Elements, actions, rules and settings arrive as values without a declared type: null, truth
values, whole numbers, decimals, texts, lists, and objects with named fields. This module has the
type and what is asked of a value before it is given a declared one: its kind, whether it counts
as empty, its text, and whether two values are the same.
-/

namespace AccessAudit

/-- A value of a loosely typed format. Fields of an object keep their order. -/
inductive Json where
  /-- The absent value. -/
  | null
  /-- A truth value. -/
  | bool (value : Bool)
  /-- A whole number. -/
  | int (value : Int)
  /-- A number written with a point or an exponent. -/
  | float (value : Float)
  /-- A text. -/
  | str (value : String)
  /-- A list. -/
  | arr (items : List Json)
  /-- Named fields. -/
  | obj (fields : List (String × Json))
  deriving Inhabited

namespace Json

/-- The name of a value's kind, as messages give it. -/
def kind : Json → String
  | null => "NoneType"
  | bool _ => "bool"
  | int _ => "int"
  | float _ => "float"
  | str _ => "str"
  | arr _ => "list"
  | obj _ => "dict"

/-- Whether a value counts as absent: null, false, zero, or without content. -/
def isEmpty : Json → Bool
  | null => true
  | bool value => !value
  | int value => value == 0
  | float value => value == 0.0
  | str value => value.isEmpty
  | arr items => items.isEmpty
  | obj fields => fields.isEmpty

/-- The value of an object's field. -/
def field? : Json → String → Option Json
  | obj fields, name => fields.lookup name
  | _, _ => none

/-! ## The text of a value -/

mutual

/-- The text of a value inside another: texts are quoted. -/
def shown : Json → String
  | null => "None"
  | bool true => "True"
  | bool false => "False"
  | int value => toString value
  | float value => Number.display value
  | str value => Text.quoted value
  | arr items => "[" ++ ", ".intercalate (shownItems items) ++ "]"
  | obj fields => "\x7b" ++ ", ".intercalate (shownFields fields) ++ "\x7d"

/-- The texts of a list's items. -/
def shownItems : List Json → List String
  | [] => []
  | item :: rest => shown item :: shownItems rest

/-- The texts of an object's fields. -/
def shownFields : List (String × Json) → List String
  | [] => []
  | (name, value) :: rest => (Text.quoted name ++ ": " ++ shown value) :: shownFields rest

end

/-- The text of a value: a text is itself, everything else is spelled out. -/
def text : Json → String
  | str value => value
  | other => other.shown

/-! ## Sameness -/

/-- A value read as a number: truth values count as zero and one. -/
inductive Numeric where
  | whole (n : Int)
  | decimal (x : Float)

/-- The number a value counts as, if it counts as one. -/
def numeric? : Json → Option Numeric
  | bool value => some (.whole (if value then 1 else 0))
  | int value => some (.whole value)
  | float value => some (.decimal value)
  | _ => none

/-- Whether two numbers are the same, whichever way they are written. -/
def Numeric.same : Numeric → Numeric → Bool
  | whole a, whole b => a == b
  | whole a, decimal x => Number.wholeValue? x == some a
  | decimal x, whole a => Number.wholeValue? x == some a
  | decimal x, decimal y => x == y || x.toBits == y.toBits

mutual

/-- Whether two values are the same: numbers by value, lists item by item, objects field by field
in any order. -/
def same : Json → Json → Bool
  | null, null => true
  | str a, str b => a == b
  | arr xs, arr ys => sameItems xs ys
  | obj xs, obj ys => xs.length == ys.length && sameFields xs ys
  | a, b =>
    match a.numeric?, b.numeric? with
    | some x, some y => x.same y
    | _, _ => false

/-- Whether two lists have the same items. -/
def sameItems : List Json → List Json → Bool
  | [], [] => true
  | x :: xs, y :: ys => same x y && sameItems xs ys
  | _, _ => false

/-- Whether every field of the first object is in the second with the same value. -/
def sameFields : List (String × Json) → List (String × Json) → Bool
  | [], _ => true
  | (name, value) :: rest, others =>
    (match others.lookup name with
      | some other => same value other
      | none => false) && sameFields rest others

end

instance : BEq Json := ⟨same⟩

/-- The parts of a value that has some: the items of a list, the characters of a text, the field
names of an object. -/
def parts? : Json → Option (List Json)
  | arr items => some items
  | str s => some (s.toList.map fun c => str c.toString)
  | obj fields => some (fields.map fun entry => str entry.1)
  | _ => none

/-- Whether a value can be looked up: lists and objects cannot. -/
def isHashable : Json → Bool
  | arr _ => false
  | obj _ => false
  | _ => true

/-! ## Wide numbers -/

/-- Whether a whole number takes more characters than numerals may have digits, its sign
included. -/
def isWide (n : Int) : Bool :=
  Int.pow 10 Number.digitLimit ≤ n || n ≤ -Int.pow 10 (Number.digitLimit - 1)

mutual

/-- Whether there is a wide whole number in a value. -/
def hasWide : Json → Bool
  | int n => isWide n
  | arr items => anyWide items
  | obj fields => anyWideField fields
  | _ => false

/-- Whether there is a wide whole number in some values. -/
def anyWide : List Json → Bool
  | [] => false
  | item :: rest => item.hasWide || anyWide rest

/-- Whether there is a wide whole number in some fields. -/
def anyWideField : List (String × Json) → Bool
  | [] => false
  | (_, value) :: rest => value.hasWide || anyWideField rest

end

/-! ## Depth -/

mutual

/-- How many values lie inside each other at most, the value itself being one of them. -/
def height : Json → Nat
  | arr items => itemsHeight items + 1
  | obj fields => fieldsHeight fields + 1
  | _ => 1

/-- The greatest height in a list. -/
def itemsHeight : List Json → Nat
  | [] => 0
  | item :: rest => max (height item) (itemsHeight rest)

/-- The greatest height among the fields of an object. -/
def fieldsHeight : List (String × Json) → Nat
  | [] => 0
  | (_, value) :: rest => max (height value) (fieldsHeight rest)

end

/-- How many brackets with something between them lie inside each other at most: the innermost
value has none of its own. -/
def nesting (v : Json) : Nat := v.height - 1

/-- How deep a value may be nested to be looked through as a whole. -/
def viewLimit : Nat := 494

/-- Whether a value can be looked through as a whole. -/
def isViewable (v : Json) : Bool := v.nesting ≤ viewLimit

/-! ## What can be written -/

mutual

/-- A value with null in place of what is no finite number, which has no written form. -/
def writable : Json → Json
  | float value =>
    match Number.exact value with
    | .finite .. => float value
    | _ => null
  | arr items => arr (writableItems items)
  | obj fields => obj (writableFields fields)
  | other => other

/-- The items of a list, with null in place of what is no finite number. -/
def writableItems : List Json → List Json
  | [] => []
  | item :: rest => writable item :: writableItems rest

/-- The fields of an object, with null in place of what is no finite number. -/
def writableFields : List (String × Json) → List (String × Json)
  | [] => []
  | (name, value) :: rest => (name, writable value) :: writableFields rest

end

end Json

end AccessAudit
