import AccessAudit.Failure
import AccessAudit.Json

/-!
# Logging

Which messages are shown. Every logger has a level, and loggers are named by dotted paths: one
without a level takes that of the nearest ancestor that has one, in the end that of the root. A
message is shown when its own level reaches that.
-/

namespace AccessAudit.Logging

/-! ## Levels -/

/-- A level as it was given: a number, or a truth value that counts as one. -/
inductive Level where
  | number (value : Int)
  | truth (value : Bool)
  deriving DecidableEq, Repr

/-- The number that a level counts as. -/
def Level.value : Level → Int
  | number value => value
  | truth value => if value then 1 else 0

/-- The levels that have names. A level has the first of its names. -/
def namedLevels : List (String × Int) := [
  ("CRITICAL", 50), ("FATAL", 50), ("ERROR", 40), ("WARNING", 30), ("WARN", 30), ("INFO", 20),
  ("DEBUG", 10), ("NOTSET", 0)]

/-- The name of a level. -/
def levelName (level : Int) : String :=
  match namedLevels.find? (·.2 == level) with
  | some entry => entry.1
  | none => "Level " ++ toString level

/-- A letter as a capital, for the letters whose capitals occur in the names of levels. -/
def capital (c : Char) : List Char :=
  if 'a' ≤ c && c ≤ 'z' then [c.toUpper]
  else if c == 'ı' then ['I']
  else if c == 'ſ' then ['S']
  else if c == 'ﬅ' || c == 'ﬆ' then ['S', 'T']
  else [c]

/-- The level that a word names, in any case. Two reserved words name something else. -/
def namedLevel (word : String) (fallback : Int) : Except Failure Level :=
  let name := String.ofList (word.toList.flatMap capital)
  if name == "BASIC_FORMAT" then .error (.unknownLevel name)
  else if name == "_STYLES" then .error (.notLevel name)
  else .ok (.number ((namedLevels.lookup name).getD fallback))

/-- The level that a value gives. -/
def readLevel (fallback : Int) : Json → Except Failure Level
  | .str word => namedLevel word fallback
  | .int value => .ok (.number value)
  | .bool value => .ok (.truth value)
  | other => .error (.notLevel other.text)

/-! ## Loggers -/

/-- The levels of all loggers. -/
structure Loggers where
  /-- The level of the root. -/
  root : Level
  /-- The levels of named loggers. -/
  levels : Entries Level := []
  deriving Repr

/-- The name of the root. -/
def rootName : String := "root"

/-- Whether a name stands for the root. -/
def isRoot (name : String) : Bool := name.isEmpty || name == rootName

namespace Loggers

/-- The own level of a logger. -/
def level (l : Loggers) (name : String) : Level :=
  if isRoot name then l.root else (l.levels.get? name).getD (.number 0)

/-- The loggers with a level set. -/
def setLevel (l : Loggers) (name : String) (level : Level) : Loggers :=
  if isRoot name then { l with root := level } else { l with levels := l.levels.put name level }

/-- The heads of a dotted name that end before a dot, the longest first; the name is given in
reverse. -/
def headsBefore : List Char → List String
  | [] => []
  | '.' :: head => if head.isEmpty then [] else String.ofList head.reverse :: headsBefore head
  | _ :: head => headsBefore head

/-- The ancestors of a logger, nearest first, without the root. -/
def ancestors (name : String) : List String := headsBefore name.toList.reverse

/-- The level that decides for a logger: its own or that of the nearest ancestor with one. -/
def effective (l : Loggers) (name : String) : Int :=
  if isRoot name then l.root.value
  else
    let own := (name :: ancestors name).map fun n => (l.level n).value
    (own.find? (· != 0)).getD l.root.value

/-- Whether a logger shows messages of a level. -/
def shows (l : Loggers) (name : String) (level : Int) : Bool :=
  0 < level && l.effective name ≤ level

/-- Levels taken from the fields of an object, one after the other. -/
def setAll (fallback : Int) (l : Loggers) (levels : Json) : Except Failure Loggers :=
  if levels.isEmpty then .ok l
  else
    match levels with
    | .obj fields => fields.foldlM (fun l (name, v) => do
        let level ← readLevel fallback v
        pure (l.setLevel name level)) l
    | other => .error (.noFields other.kind)

/-- The loggers that the section of the settings about logging describes. -/
def ofSettings : Json → Except Failure Loggers
  | .obj fields => do
    let root ← readLevel 20 ((Entries.get? fields "level").getD (.str "INFO"))
    let modules ← setAll 20 { root } ((Entries.get? fields "module_levels").getD .null)
    setAll 50 modules ((Entries.get? fields "silenced").getD .null)
  | other => .error (.noFields other.kind)

end Loggers

/-! ## Lines -/

/-- Characters that end a line. -/
def endsLine (c : Char) : Bool :=
  ['\n', '\r', '\x0b', '\x0c', '\x1c', '\x1d', '\x1e', '\u0085', '\u2028', '\u2029'].contains c

/-- The lines of a text; `current` has the characters of the current one in reverse. A line feed
after a carriage return ends the same line. -/
def splitLines (current : List Char) : List Char → List String
  | [] => if current.isEmpty then [] else [String.ofList current.reverse]
  | '\r' :: '\n' :: cs => String.ofList current.reverse :: splitLines [] cs
  | c :: cs =>
    if endsLine c then String.ofList current.reverse :: splitLines [] cs
    else splitLines (c :: current) cs

/-- A message to a logger. -/
structure Message where
  /-- The logger. -/
  logger : String
  /-- The level. -/
  level : Int
  /-- The text. -/
  text : String
  deriving DecidableEq, Repr

/-- The lines of a message. -/
def Message.lines (m : Message) : List String :=
  let name := if isRoot m.logger then rootName else m.logger
  splitLines [] (levelName m.level ++ " [" ++ name ++ "] " ++ m.text ++ "\n").toList

/-- The lines of those messages that are shown. -/
def Loggers.lines (l : Loggers) (messages : List Message) : List String :=
  (messages.filter fun m => l.shows m.logger m.level).flatMap Message.lines

end AccessAudit.Logging
