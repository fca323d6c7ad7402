import AccessAudit.Json

/-!
# Trees of settings

Settings are sections with named fields, and values. The sections of a file have texts as names. A
section that was made from pairs may have other names as well: null, truth values and numbers. They
are shown as texts, but a path leads to a text only, and two of them are one name when they are the
same number.

A section is a value here, like any other. A section that is kept under two paths, so that a change
under the one shows under the other, is two sections with the same fields: such sharing is left out.
-/

namespace AccessAudit

/-- The name of a field in a section. -/
inductive FieldName where
  /-- A text. -/
  | text (name : String)
  /-- Null, a truth value or a number. -/
  | other (value : Json)

namespace FieldName

/-- The name that a value is. Lists and objects are none. -/
def ofJson? : Json → Option FieldName
  | .str s => some (text s)
  | .arr _ => none
  | .obj _ => none
  | v => some (other v)

/-- The value that a name is. -/
def value : FieldName → Json
  | text name => .str name
  | other value => value

/-- The name as a text. -/
def shown (name : FieldName) : String := name.value.text

/-- Whether two names are one. -/
def same (a b : FieldName) : Bool := a.value.same b.value

end FieldName

/-- A section with named fields, or a value. -/
inductive SettingTree where
  /-- A value that is no section. -/
  | leaf (value : Json)
  /-- A section. -/
  | branch (fields : List (FieldName × SettingTree))

namespace SettingTree

/-- The section without fields. -/
def empty : SettingTree := branch []

/-! ## Fields -/

/-- The field of a section with a name. -/
def find? (fields : List (FieldName × SettingTree)) (name : FieldName) : Option SettingTree :=
  (fields.find? fun field => field.1.same name).map Prod.snd

/-- The fields with a tree under a name: in the place of the old one if there was one, at the end
otherwise. The name stays as it first came up. -/
def put (fields : List (FieldName × SettingTree)) (name : FieldName) (tree : SettingTree) :
    List (FieldName × SettingTree) :=
  match fields with
  | [] => [(name, tree)]
  | (key, old) :: rest =>
    if key.same name then (key, tree) :: rest else (key, old) :: put rest name tree

/-- The fields with an empty section under a name, unless there is something under it already. -/
def ensure (fields : List (FieldName × SettingTree)) (name : FieldName) :
    List (FieldName × SettingTree) :=
  if (find? fields name).isSome then fields else put fields name empty

/-- The section that pairs give, written one after the other. -/
def ofPairs (pairs : List (FieldName × SettingTree)) : SettingTree :=
  branch (pairs.foldl (fun fields pair => put fields pair.1 pair.2) [])

/-! ## Values -/

mutual

/-- The tree of a value: objects are sections. -/
def ofJson : Json → SettingTree
  | .obj fields => branch (ofFields fields)
  | v => leaf v

/-- The fields of a section. -/
def ofFields : List (String × Json) → List (FieldName × SettingTree)
  | [] => []
  | (name, v) :: rest => (.text name, ofJson v) :: ofFields rest

end

mutual

/-- The value of a tree. Of names that are shown alike, the last one counts. -/
def toJson : SettingTree → Json
  | leaf v => v
  | branch fields => .obj (Entries.ofPairs (toFields fields))

/-- The fields of an object. -/
def toFields : List (FieldName × SettingTree) → List (String × Json)
  | [] => []
  | (name, tree) :: rest => (name.shown, toJson tree) :: toFields rest

end

/-- A tree where a value or a list is called for: a section counts as the list of its names. -/
def listed : SettingTree → Json
  | leaf v => v
  | branch fields => .arr (fields.map (·.1.value))

end SettingTree

end AccessAudit
