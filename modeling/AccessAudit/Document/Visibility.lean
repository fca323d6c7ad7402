import AccessAudit.Document.Basic
import AccessAudit.Number.Reading

/-!
# Visibility

Whether resolved style hides an element, and why. An element is hidden with its ancestors: when it
or one of them is not displayed, is transparent or is moved off the screen, or when the nearest of
them that says anything about its visibility says that it is hidden. By itself it is hidden when it
is clipped away or has no size and cuts off what overflows.
-/

namespace AccessAudit

open Text Number

/-! ## Single properties -/

/-- The value of a property, empty when it is not set. -/
def styleValue (style : Entries String) (name : String) : String := (style.get? name).getD ""

/-- The opacity that a value gives: a number or a percentage. -/
def opacity? (value : String) : Option Float :=
  let text := trim value.toList
  match text.reverse with
  | '%' :: digits => (readFloatChars? (trimPadding digits.reverse)).map (· / 100.0)
  | _ => readFloatChars? text

/-- The offset in pixels that a value gives: a sign, digits, possibly a fraction and a unit. -/
def offset? (value : String) : Option Float :=
  let cs := lowerChars (trim value.toList)
  let number := if ['x', 'p'].isPrefixOf cs.reverse then cs.take (cs.length - 2) else cs
  let unsigned := match number with
    | '-' :: rest => rest
    | other => other
  let whole := unsigned.takeWhile isDecimalDigit
  let wellFormed := match unsigned.drop whole.length with
    | [] => true
    | '.' :: fraction => !fraction.isEmpty && fraction.all isDecimalDigit
    | _ => false
  if !whole.isEmpty && wellFormed then readFloatChars? number else none

/-- The offset that puts a positioned element off the screen, if there is one. -/
def offscreen? (style : Entries String) : Option String :=
  if !(["absolute", "fixed"].contains (normalize (styleValue style "position"))) then none
  else
    ["left", "top"].findSome? fun side =>
      match offset? (styleValue style side) with
      | some x => if x ≤ -1000.0 then some (side ++ ":" ++ strip (styleValue style side)) else none
      | none => none

/-- The text after another at the head. -/
def dropText? (text : String) (cs : List Char) : Option (List Char) :=
  if text.toList.isPrefixOf cs then some (cs.drop text.length) else none

/-- The text after one of several units at the head, if there is one. -/
def dropUnit (units : List String) (cs : List Char) : List Char :=
  (units.findSome? (dropText? · cs)).getD cs

/-- Whether a clip is a rectangle that begins with zero. -/
def clipsAll (value : String) : Bool :=
  let after := do
    let rest ← dropText? "rect(" (lowerChars value.toList)
    let rest ← dropText? "0" (trimLeft rest)
    (dropUnit ["px"] rest).head?
  after.any fun c => isBlank c || c == ',' || c == ')'

/-- Whether a clip path leaves nothing: an inset of one half, or a circle without radius. -/
def clipPathHides (value : String) : Bool :=
  let cs := lowerChars value.toList
  let inset := ((dropText? "inset(" cs).bind fun rest => dropText? "50%" (trimLeft rest)).isSome
  let after := do
    let rest ← dropText? "circle(" cs
    let rest ← dropText? "0" (trimLeft rest)
    (dropUnit ["px", "%"] rest).head?
  inset || after.any fun c => isBlank c || c == ')'

/-- Whether a length is zero. -/
def isZeroLength (value : String) : Bool :=
  match lowerChars (trim value.toList) with
  | '0' :: rest =>
    let fraction := match rest with
      | '.' :: digits =>
        let zeros := digits.takeWhile (· == '0')
        if zeros.isEmpty then rest else digits.drop zeros.length
      | other => other
    ["", "px", "em", "rem", "%"].contains (String.ofList fraction)
  | _ => false

/-! ## Hiding -/

/-- What hides an element. -/
inductive Concealment where
  /-- It is not displayed. -/
  | display
  /-- It is transparent. -/
  | opacity (value : String)
  /-- It is moved off the screen. -/
  | offscreen (position offset : String)
  /-- It is declared hidden. -/
  | visibility (value : String)
  /-- It is clipped away. -/
  | clip (value : String)
  /-- It is clipped away by a path. -/
  | clipPath (value : String)
  /-- It has no size. -/
  | noSize (dimension value : String)
  deriving DecidableEq, Repr

/-- What hides an element, in words. -/
def Concealment.text : Concealment → String
  | display => "display:none"
  | opacity value => "opacity:" ++ value
  | offscreen position offset => "position:" ++ position ++ " with " ++ offset
  | visibility value => "visibility:" ++ value
  | clip value => "clip:" ++ value
  | clipPath value => "clip-path:" ++ value
  | noSize dimension value => dimension ++ ":" ++ value ++ " with overflow:hidden"

/-- What hides an element together with all that is in it. -/
def hidesSubtree? (threshold : Float) (style : Entries String) : Option Concealment :=
  if lower (styleValue style "display") == "none" then some .display
  else if ((style.get? "opacity").bind opacity?).any (· ≤ threshold) then
    some (.opacity (styleValue style "opacity"))
  else (offscreen? style).map (.offscreen (styleValue style "position"))

/-- Whether a style declares an element hidden. -/
def declaresHidden? (style : Entries String) : Option Concealment :=
  let value := lower (styleValue style "visibility")
  if value == "hidden" || value == "collapse" then some (.visibility value) else none

/-- What hides an element by itself. -/
def hidesAlone? (style : Entries String) : Option Concealment :=
  if clipsAll (styleValue style "clip") then some (.clip (styleValue style "clip"))
  else if clipPathHides (styleValue style "clip-path") then
    some (.clipPath (styleValue style "clip-path"))
  else if lower (styleValue style "overflow") == "hidden" then
    ["width", "height"].findSome? fun dimension =>
      if isZeroLength (styleValue style dimension) then
        some (.noSize dimension (styleValue style dimension))
      else none
  else none

/-- What hides an element along a chain of styles, that of the element first; `decided` tells
whether visibility has been declared already. The place in the chain is given as well. -/
def concealedAlong (threshold : Float) (decided : Bool) (place : Nat) :
    List (Entries String) → Option (Nat × Concealment)
  | [] => none
  | style :: rest =>
    match hidesSubtree? threshold style with
    | some c => some (place, c)
    | none =>
      let declares := !decided && style.has "visibility"
      match if declares then declaresHidden? style else none with
      | some c => some (place, c)
      | none => concealedAlong threshold (decided || declares) (place + 1) rest

namespace Document

variable (d : Document)

/-- An element and its ancestors, nearest first. -/
def chain (key : Key) : List Key := key :: d.ancestors key

/-- Why resolved style hides an element when the given states hold; none when it does not. -/
def hiddenReason? (key : Key) (states : List String) : Option String :=
  let chain := d.chain key
  match concealedAlong d.opacityThreshold false 0 (chain.map (d.computedStyle · states)) with
  | some (place, c) =>
    let location := match chain[place]? with
      | some other =>
        if place == 0 then "" else " on ancestor " ++ (d.element other).describe
      | none => ""
    some (c.text ++ location)
  | none => (hidesAlone? (d.computedStyle key states)).map Concealment.text

/-- Whether an element or one of its ancestors is hidden from assistive technology. -/
def isAriaHidden (key : Key) : Bool :=
  (d.chain key).any fun k => normalize (d.valueOf k "aria-hidden") == "true"

end Document

end AccessAudit
