import AccessAudit.Markup.Node
import AccessAudit.Markup.Token

/-!
# Trees from markup text

Tokens become a tree. Nothing is implied: an element stays open until an end tag closes it, or an
element around it, or the text ends. Void elements are closed at once, and the first end tag of
such a name that comes later is taken to be the one already carried out.

Scripts and style sheets are left out, and so is blank text. A text with exactly one element at
the top becomes that element; any other is wrapped in a root of its own.
-/

namespace AccessAudit

namespace Markup

open Text

/-- Elements without content. -/
def voidElements : List String :=
  ["area", "base", "basefont", "bgsound", "br", "col", "command", "embed", "frame", "hr", "image",
    "img", "input", "isindex", "keygen", "link", "menuitem", "meta", "nextid", "param", "source",
    "spacer", "track", "wbr"]

/-- Elements in which blanks count. -/
def blankPreservingElements : List String := ["pre", "textarea"]

/-- Attributes whose values are lists of words, on every element. -/
def wordListAttributes : List String := ["class", "accesskey", "dropzone"]

/-- Attributes whose values are lists of words, on one element. -/
def wordListAttributesOf : List (String × List String) :=
  [("a", ["rel", "rev"]), ("link", ["rel", "rev"]), ("td", ["headers"]), ("th", ["headers"]),
    ("form", ["accept-charset"]), ("object", ["archive"]), ("area", ["rel"]), ("icon", ["sizes"]),
    ("iframe", ["sandbox"]), ("output", ["for"])]

/-- The tag of the root that wraps several elements. -/
def wrapperTag : String := "fragment"

/-- The value of an attribute: lists of words have single blanks between the words. -/
def attributeValue (tag name value : String) : String :=
  if wordListAttributes.contains name
      || ((wordListAttributesOf.lookup tag).getD []).contains name then
    " ".intercalate (words value)
  else value

/-- The attributes of an element: the first of several with the same name counts. -/
def attributesOf (tag : String) (raw : List RawAttribute) : Entries String :=
  raw.foldl
    (fun done (name, value) =>
      if Entries.has done name then done else done ++ [(name, attributeValue tag name value)])
    []

/-! ## Open elements -/

/-- An element that is not closed yet. -/
structure Open where
  /-- Its name as written, in small letters. -/
  name : String
  /-- Its attributes. -/
  attributes : Entries String
  /-- Where it begins. -/
  place : Position
  /-- Its content so far, last first. -/
  content : List Node

/-- A tree under construction. -/
structure Assembly where
  /-- The open elements, innermost first. -/
  stack : List Open := []
  /-- The content outside of them, last first. -/
  content : List Node := []
  /-- The text that is not finished yet, in pieces, last first. -/
  pending : List (List Char) := []
  /-- Void elements whose end tags have been carried out. -/
  closed : List String := []

namespace Assembly

/-- Adds a node to the innermost open element. -/
def add (a : Assembly) (node : Node) : Assembly :=
  match a.stack with
  | top :: rest => { a with stack := { top with content := node :: top.content } :: rest }
  | [] => { a with content := node :: a.content }

/-- Finishes the pending text. Blank text is left out. -/
def flush (a : Assembly) : Assembly :=
  let text := a.pending.reverse.flatten
  let a := { a with pending := [] }
  if text.all isBlank then a else a.add (.text (String.ofList text) none)

/-- The element of an open one. -/
def elementOf (file : String) (o : Open) : Element :=
  { tag := normalize o.name, attributes := o.attributes,
    location := some { file, line := o.place.line, column := o.place.column } }

/-- Closes the innermost open element. Scripts and style sheets are left out. -/
def closeTop (file : String) (a : Assembly) : Assembly :=
  match a.stack with
  | [] => a
  | top :: rest =>
    let a := { a with stack := rest }
    if rawElements.contains top.name then a
    else a.add (.element (elementOf file top) top.content.reverse)

/-- Closes so many open elements. -/
def closeMany (file : String) : Nat → Assembly → Assembly
  | 0, a => a
  | n + 1, a => closeMany file n (a.closeTop file)

/-- Closes the innermost open element of a name and all those inside it; does nothing when none is
open. -/
def closeNamed (file name : String) (a : Assembly) : Assembly :=
  let inside := a.stack.takeWhile (·.name != name)
  if inside.length < a.stack.length then closeMany file (inside.length + 1) a else a

/-- An end tag. -/
def finish (file name : String) (a : Assembly) : Assembly :=
  if a.closed.contains name then { a with closed := a.closed.erase name }
  else a.flush.closeNamed file name

/-- A start tag. -/
def start (file name : String) (raw : List RawAttribute) (selfClosing : Bool) (place : Position)
    (a : Assembly) : Assembly :=
  let a := a.flush
  let a := { a with stack := ⟨name, attributesOf name raw, place, []⟩ :: a.stack }
  if selfClosing then a.finish file name
  else if voidElements.contains name then
    let a := a.closeNamed file name
    { a with closed := name :: a.closed }
  else a

/-- Blanks that a comment is reduced by. -/
def isPlainBlank (c : Char) : Bool := [' ', '\n', '\t', '\x0c', '\r'].contains c

/-- A comment. One of nothing but blanks is reduced to a line break or a blank, except where blanks
count. -/
def comment (content : List Char) (a : Assembly) : Assembly :=
  let a := a.flush
  let preserved := a.stack.any fun o => blankPreservingElements.contains o.name
  let text :=
    if !preserved && content.all isPlainBlank then
      if content.contains '\n' then "\n" else " "
    else String.ofList content
  a.add (.comment text none)

/-- Takes in a token. -/
def take (file : String) (a : Assembly) : Token → Assembly
  | .text content => { a with pending := content :: a.pending }
  | .start name raw selfClosing place => a.start file name raw selfClosing place
  | .finish name => a.finish file name
  | .comment content => a.comment content
  | .skipped => a.flush

/-- The content at the top, when all tokens have been taken in. -/
def result (file : String) (a : Assembly) : List Node :=
  let a := a.flush
  (closeMany file a.stack.length a).content.reverse

end Assembly

/-! ## The tree -/

/-- The tree of the content at the top. -/
def wrap (file : String) (content : List Node) : Tree :=
  match content.filter Node.isElement with
  | [.element root children] => ⟨root, children⟩
  | _ => ⟨{ tag := wrapperTag, location := some { file, line := 1, column := 1 } }, content⟩

/-- The markup without byte order marks and surrounding blanks. -/
def clean (markup : String) : List Char := trim (markup.toList.filter (· != '\ufeff'))

/-- How many elements deep a markup text may go. -/
def depthLimit : Nat := 494

end Markup

/-- The tree that a markup text describes; `file` is where its elements come from. -/
def Tree.ofMarkup (markup file : String) : Except Markup.Rejection Tree := do
  let tokens ← Markup.scan (Markup.clean markup)
  let content := (tokens.foldl (Markup.Assembly.take file) {}).result file
  if Markup.depthLimit < Node.depthIn content then .error .tooNested
  else pure (Markup.wrap file content)

end AccessAudit
