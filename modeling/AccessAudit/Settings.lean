import AccessAudit.Config
import AccessAudit.Json.Reader
import AccessAudit.Settings.Cast

/-!
# Settings

Settings are a tree of sections read from a file. A setting is named by a path, its parts divided
by dots. A new value takes the type of the one it replaces as far as it can (`castLike`); sections
that are missing on the way are made, but nothing is set below a value that is no section.

An analysis does not look at settings: it runs with the configuration taken from them (`config`).
-/

namespace AccessAudit

/-! ## Paths -/

/-- The way to a setting: the name of the first part and of those below it. -/
structure SettingPath where
  /-- The first part. -/
  first : String
  /-- The parts below. -/
  rest : List String
  deriving DecidableEq, Repr

namespace SettingPath

/-- The parts that dots divide; `part` has the characters of the current one in reverse. -/
def split (part : List Char) : List Char → SettingPath
  | [] => ⟨String.ofList part.reverse, []⟩
  | c :: cs =>
    if c == '.' then
      let below := split [] cs
      ⟨String.ofList part.reverse, below.first :: below.rest⟩
    else split (c :: part) cs

/-- The path that a text names. -/
def ofText (s : String) : SettingPath := split [] s.toList

/-- All parts. -/
def parts (p : SettingPath) : List String := p.first :: p.rest

end SettingPath

/-! ## The store -/

namespace Settings

/-- The settings in the text of a file; none when there is no file or it cannot be read. A number
of more digits than can be read is an error, and so is a text whose brackets go too deep. -/
def load : Option String → Except Failure SettingTree
  | none => .ok .empty
  | some file =>
    match Json.read file with
    | .ok v => .ok (.ofJson v)
    | .error .malformed => .ok .empty
    | .error (.longNumeral digits) => .error (.longNumeral digits)
    | .error .tooNested => .error .tooNested

/-- The setting at a path. -/
def get? : SettingTree → List String → Option SettingTree
  | tree, [] => some tree
  | .branch fields, part :: rest =>
    match SettingTree.find? fields (.text part) with
    | some tree => get? tree rest
    | none => none
  | .leaf _, _ :: _ => none

/-- The setting at a path, if it is not null. -/
def given? (settings : SettingTree) (path : SettingPath) : Option SettingTree :=
  match get? settings path.parts with
  | none | some (.leaf .null) => none
  | some tree => some tree

/-- The value at a path, or a default when there is none or it is null. -/
def get (settings : SettingTree) (path : SettingPath) (default : Json) : Json :=
  ((given? settings path).map SettingTree.toJson).getD default

/-- What an attempt to store a value leaves behind. -/
structure Update (α : Type) where
  /-- What was to be changed, as it is then. -/
  after : α
  /-- Whether the value was stored, or why the attempt broke down. -/
  stored : Except Failure Bool

/-- Stores a value below a section. -/
def assign (value : Json) (fields : List (FieldName × SettingTree)) (first : String) :
    (rest : List String) → Update (List (FieldName × SettingTree))
  | [] =>
    match castLike ((SettingTree.find? fields (.text first)).getD (.leaf .null)) value with
    | .ok tree => ⟨SettingTree.put fields (.text first) tree, .ok true⟩
    | .error why => ⟨fields, .error why⟩
  | next :: rest =>
    -- The section is made before it is known whether anything can be stored below it.
    let opened := SettingTree.ensure fields (.text first)
    match SettingTree.find? opened (.text first) with
    | some (.branch inner) =>
      let below := assign value inner next rest
      ⟨SettingTree.put opened (.text first) (.branch below.after), below.stored⟩
    | _ => ⟨opened, .ok false⟩

/-- Stores a value at a path. -/
def update (settings : SettingTree) (path : SettingPath) (value : Json) : Update SettingTree :=
  match settings with
  | .branch fields =>
    let done := assign value fields path.first path.rest
    ⟨.branch done.after, done.stored⟩
  | .leaf .null =>
    ⟨.leaf .null, if path.rest.isEmpty then .ok false else .error (.noSections Json.null.kind)⟩
  | .leaf other => ⟨.leaf other, .error (.noSections other.kind)⟩

/-- The settings with a value stored at a path; none when that is not possible. -/
def set (settings : SettingTree) (path : SettingPath) (value : Json) :
    Except Failure (Option SettingTree) :=
  let done := update settings path value
  done.stored.map fun stored => if stored then some done.after else none

/-! ## Configurations -/

/-- The fields of a configuration and the settings they are taken from. -/
def configPaths : List (String × SettingPath) := [
  ("completeness_step", ⟨"completeness", ["step"]⟩),
  ("completeness_floor", ⟨"completeness", ["floor"]⟩),
  ("completeness_bonus", ⟨"completeness", ["bonus"]⟩),
  ("fuzzy_min_distance", ⟨"fuzzy", ["min_distance"]⟩),
  ("fuzzy_length_divisor", ⟨"fuzzy", ["length_divisor"]⟩),
  ("max_suggestions", ⟨"fuzzy", ["max_suggestions"]⟩),
  ("opacity_threshold", ⟨"style", ["opacity_threshold"]⟩),
  ("max_workers", ⟨"engine", ["max_workers"]⟩),
  ("enabled_analyzers", ⟨"engine", ["enabled_analyzers"]⟩)]

/-- Whether a field has a value. -/
def isGiven (field : String × Json) : Bool := !field.2 matches .null

/-- The value that a setting gives to a field of a configuration. -/
def taken (settings : SettingTree) (path : SettingPath) : Json :=
  ((given? settings path).map SettingTree.listed).getD .null

/-- The configuration taken from settings; what is given besides comes first. Two names are not
free: one is taken already, and under the other only null may be given. -/
def config (settings : SettingTree) (overrides : Entries Json) : Checked Config :=
  if overrides.has "cls" then .broken (.repeatedArgument "cls")
  else
    match (overrides.get? "manager").getD .null with
    | .null =>
      let fields : Entries Json := (configPaths.map fun (name, path) =>
        (name, taken settings path)).filter isGiven
      Config.read (.obj ((overrides.filter isGiven).foldl
        (fun fields f => Entries.put fields f.1 f.2) fields))
    | other => .broken (.noSections other.kind)

/-! ## What is shipped -/

/-- The settings that apply when no others are given. -/
def shipped : SettingTree := .ofJson <| .obj [
  ("logging", .obj [
    ("level", .str "INFO"),
    ("module_levels", .obj [
      ("semantics.resolution", .str "INFO"), ("auditor.engine", .str "INFO")]),
    ("silenced", .obj [])]),
  ("completeness", .obj [("step", .float 0.1), ("floor", .float 0.3), ("bonus", .float 0.3)]),
  ("fuzzy", .obj [
    ("min_distance", .int 2), ("length_divisor", .int 3), ("max_suggestions", .int 3)]),
  ("style", .obj [("opacity_threshold", .float 0.05)]),
  ("engine", .obj [("max_workers", .int 1), ("enabled_analyzers", .arr [])]),
  ("batch", .obj [("workers", .int 4)]),
  ("reports", .obj [("directory", .str ".paradise_reports")])]

end Settings

end AccessAudit
