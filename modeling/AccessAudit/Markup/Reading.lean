import AccessAudit.Carrier
import AccessAudit.Markup.Node

/-!
# Reading markup trees

A tree arrives as an object with a tag, attributes and content. The tag and the attribute names
are brought to small letters without surrounding blanks; attributes come as an object or as a list
of pairs, and two of them with the same name are an error. Elements may nest up to a given limit, and
a location counts as one level more. `dump` writes a tree in the form in which it is read.
-/

namespace AccessAudit

open Text

/-! ## Attributes -/

/-- The name and the value of a pair. -/
def readPair (v : Json) : Checked (Json × Json) :=
  match v.parts? with
  | none => .broken (.notIterable v.kind)
  | some [name, value] => .ok (name, value)
  | some parts =>
    if parts.length < 2 then
      .fault (.value
        ("not enough values to unpack (expected 2, got " ++ toString parts.length ++ ")"))
    else .fault (.value "too many values to unpack (expected 2)")

/-- The text of an attribute's value: a list counts as its items with blanks between them, and
null as empty. -/
def attributeText : Json → String
  | .arr items => " ".intercalate (items.map Json.text)
  | .null => ""
  | v => v.text

/-- Adds pairs to the attributes read so far. -/
def readPairs (done : Entries String) : List Json → Checked (Entries String)
  | [] => .ok done
  | v :: rest =>
    (readPair v).andThen fun (name, value) =>
      let key := normalize name.text
      if done.has key then .fault (.value ("duplicate attribute '" ++ key ++ "'"))
      else readPairs (done ++ [(key, attributeText value)]) rest

/-- The attributes of an element: an object, or a list of pairs. -/
def readAttributes : Reader (Entries String)
  | .null => .ok []
  | .obj fields => readPairs [] (fields.map fun entry => .arr [.str entry.1, entry.2])
  | v =>
    match v.parts? with
    | some parts => readPairs [] parts
    | none => .broken (.notIterable v.kind)

/-! ## Nodes -/

/-- The element that an object describes, without its content. -/
def Element.of (tag : String) (attributes : Entries String) (location : Option Location)
    (uid : Option String) : Element :=
  { tag, attributes, location, uid }

/-- The location of a node inside so many elements, an element itself being one of them. -/
def readLocation (limit depth : Nat) : Reader (Option Location) :=
  Schema.optional fun v =>
    if depth < limit then Location.read v else .fault .recursionLoop

/-- A run of text or a comment. -/
def readLeaf (limit depth : Nat) (tag : String) (make : String → Option Location → Node)
    (fields : Entries Json) : Checked Node :=
  (fun _ content location => make content location)
    <$> Schema.field fields "node_type" tag (Schema.literal [tag])
    <*> Schema.field fields "text" "" Schema.text
    <*> Schema.field fields "location" none (readLocation limit depth)

/-- An element whose content has been read. -/
def readElement (limit depth : Nat) (fields : Entries Json) (children : Checked (List Node)) :
    Checked Tree :=
  (fun _ tag attributes content location uid =>
      ⟨Element.of tag attributes location uid, content⟩)
    <$> Schema.field fields "node_type" "element" (Schema.literal ["element"])
    <*> Schema.required fields "tag" (fun v => .ok (normalize v.text))
    <*> Schema.field fields "attributes" [] readAttributes
    <*> children
    <*> Schema.field fields "location" none (readLocation limit depth)
    <*> Schema.field fields "uid" none (Schema.optional Schema.text)

mutual

/-- A node of the kind that its tag names, inside so many elements. -/
def readNode (limit depth : Nat) : Json → Checked Node
  | .obj fields =>
    match fields.lookup "node_type" with
    | none => .fault .tagNotFound
    | some (.str "element") =>
      let content := readChildrenField limit (depth + 1) fields
      let tree := if depth < limit then readElement limit (depth + 1) fields content
        else .fault .recursionLoop
      (tree.map Tree.toNode).under "element"
    | some (.str "text") => (readLeaf limit depth "text" .text fields).under "text"
    | some (.str "comment") => (readLeaf limit depth "comment" .comment fields).under "comment"
    | some _ => .fault .tagInvalid
  | _ => .fault .modelAttributesType

/-- The nodes of a list, each under its place. -/
def readNodes (limit depth : Nat) : Nat → List Json → Checked (List Node)
  | _, [] => .ok []
  | place, v :: rest =>
    (List.cons <$> (readNode limit depth v).under (toString place))
      <*> readNodes limit depth (place + 1) rest

/-- The content of an element, if the object gives one. -/
def readChildrenField (limit depth : Nat) : List (String × Json) → Checked (List Node)
  | [] => .ok []
  | (name, value) :: rest =>
    if name == "children" then (readChildren limit depth value).under "children"
    else readChildrenField limit depth rest

/-- The content of an element. -/
def readChildren (limit depth : Nat) : Json → Checked (List Node)
  | .arr items => readNodes limit depth 0 items
  | _ => .fault .listType

end

/-- The tree that an object describes, if its elements nest no deeper than the limit. -/
def Tree.read (v : Json) (limit : Nat := Carrier.usual.nesting) : Checked Tree :=
  v |> Schema.model fun fields =>
    if 0 < limit then readElement limit 1 fields (readChildrenField limit 1 fields)
    else .fault .recursionLoop

/-! ## Writing -/

/-- The object that describes an element with the given content. -/
def Element.dump (e : Element) (children : List Json) : Json :=
  .obj [("node_type", .str "element"), ("tag", .str e.tag),
    ("attributes", .obj (e.attributes.map fun entry => (entry.1, .str entry.2))),
    ("children", .arr children),
    ("location", (e.location.map Location.dump).getD .null),
    ("uid", (e.uid.map Json.str).getD .null)]

/-- The object that describes a run of text or a comment. -/
def dumpLeaf (tag content : String) (location : Option Location) : Json :=
  .obj [("node_type", .str tag), ("text", .str content),
    ("location", (location.map Location.dump).getD .null)]

mutual

/-- The object that describes a node. -/
def Node.dump : Node → Json
  | .element e children => e.dump (dumpNodes children)
  | .text content location => dumpLeaf "text" content location
  | .comment content location => dumpLeaf "comment" content location

/-- The objects that describe nodes. -/
def dumpNodes : List Node → List Json
  | [] => []
  | node :: rest => node.dump :: dumpNodes rest

end

/-- The object that describes a tree. -/
def Tree.dump (t : Tree) : Json := t.toNode.dump

end AccessAudit
