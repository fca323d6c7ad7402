import AccessAudit.Location
import AccessAudit.Text.Lower

/-!
# Elements

What an element says of itself: its tag, its attributes, where it stands in the source, and an
identifier that a caller may have given it. Tags and attribute names are in small letters without
surrounding blanks, and no attribute occurs twice; the reading of elements establishes that.
Content is not part of it (see `Markup.Node`).
-/

namespace AccessAudit

/-- An element without its content. -/
structure Element where
  /-- The tag name. -/
  tag : String
  /-- The attributes in order. -/
  attributes : Entries String := []
  /-- The place in the source. -/
  location : Option Location := none
  /-- An identifier given from outside. -/
  uid : Option String := none
  deriving DecidableEq, Repr, Inhabited

namespace Element

open Text

/-- The value of an attribute. -/
def get? (e : Element) (name : String) : Option String := e.attributes.get? name

/-- Whether an attribute is there. -/
def has (e : Element) (name : String) : Bool := e.attributes.has name

/-- The value of an attribute, empty when it is not there. -/
def valueOf (e : Element) (name : String) : String := (e.get? name).getD ""

/-- The id. A blank one counts as none. -/
def id? (e : Element) : Option String :=
  let value := strip (e.valueOf "id")
  if value.isEmpty then none else some value

/-- The class names in order. -/
def classes (e : Element) : List String := words (e.valueOf "class")

/-- The first of the roles that the role attribute lists. -/
def explicitRole? (e : Element) : Option String := (words (e.valueOf "role")).head?.map lower

/-- The attributes that carry accessibility properties. -/
def ariaAttributes (e : Element) : Entries String :=
  e.attributes.filter fun entry => entry.1.startsWith "aria-"

/-- A short description for messages. -/
def describe (e : Element) : String :=
  match e.id? with
  | some value => "<" ++ e.tag ++ "> element with id=\"" ++ value ++ "\""
  | none =>
    if e.classes.isEmpty then "<" ++ e.tag ++ "> element"
    else "<" ++ e.tag ++ " class=\"" ++ " ".intercalate e.classes ++ "\"> element"

/-- The simple selectors by which the element can be referred to: its id, its classes, its tag,
its role and its accessibility attributes. -/
def candidateSelectors (e : Element) : List String :=
  (e.id?.map ("#" ++ ·)).toList ++ e.classes.map ("." ++ ·) ++ [e.tag]
    ++ (e.explicitRole?.map fun _ => "[role=\"" ++ e.valueOf "role" ++ "\"]").toList
    ++ e.ariaAttributes.map fun entry => "[" ++ entry.1 ++ "]"

end Element

end AccessAudit
