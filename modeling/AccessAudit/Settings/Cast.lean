import AccessAudit.Failure
import AccessAudit.Number.Reading
import AccessAudit.Settings.Tree
import AccessAudit.Text.Lower

/-!
# Casts between settings

A new value takes the type of the one it replaces as far as it can: a text becomes a number, a list
of pairs a section, anything a text. A value that does not fit is stored as it is. A number that is
too large for its new type is an error.
-/

namespace AccessAudit

open Text Number

/-- Texts that stand for true in a setting that is true or false. -/
def settingTrueTexts : List String := ["1", "true", "yes", "on"]

/-- What became of a cast. -/
inductive Cast where
  /-- The value fits. -/
  | done (tree : SettingTree)
  /-- The value cannot take the type. -/
  | unfit
  /-- The number is too large for the type. -/
  | tooLarge

/-- A cast to a value that is no section. -/
def Cast.value (v : Json) : Cast := done (.leaf v)

/-- A value as a whole number. -/
def castInt : Json → Cast
  | .int n => .value (.int n)
  | .bool b => .value (.bool b)
  | .float x =>
    match exact x with
    | .infinite _ => .tooLarge
    | _ =>
      match truncate? x with
      | some n => .value (.int n)
      | none => .unfit
  | .str s =>
    match readInt? s with
    | some n => .value (.int n)
    | none => .unfit
  | _ => .unfit

/-- A value as a decimal. -/
def castFloat : Json → Cast
  | .float x => .value (.float x)
  | .bool b => .value (.float (if b then 1.0 else 0.0))
  | .int n =>
    match exact (ofInt n) with
    | .infinite _ => .tooLarge
    | _ => .value (.float (ofInt n))
  | .str s =>
    match readFloat? s with
    | some x => .value (.float x)
    | none => .unfit
  | _ => .unfit

/-- A value as a list. -/
def castList : Json → Cast
  | .arr items => .value (.arr items)
  | .str s => .value (.arr (s.toList.map fun c => .str c.toString))
  | .obj fields => .value (.arr (fields.map fun f => .str f.1))
  | _ => .unfit

/-- The field that a pair of values gives: a list of two, a text of two characters, or the names of
an object of two fields. -/
def pairField? : Json → Option (FieldName × SettingTree)
  | .arr [name, value] => (FieldName.ofJson? name).map (·, .ofJson value)
  | .str s =>
    match s.toList with
    | [c, d] => some (.text c.toString, .leaf (.str d.toString))
    | _ => none
  | .obj [(name, _), (value, _)] => some (.text name, .leaf (.str value))
  | _ => none

/-- A value as a section. -/
def castSection : Json → Cast
  | .obj fields => .done (.ofJson (.obj fields))
  | .arr items =>
    match items.mapM pairField? with
    | some pairs => .done (.ofPairs pairs)
    | none => .unfit
  | .str s => if s.isEmpty then .done .empty else .unfit
  | _ => .unfit

/-- A value cast to the type of a setting. -/
def castTo (current : SettingTree) (value : Json) : Cast :=
  match current with
  | .branch _ => castSection value
  | .leaf old =>
    match old, value with
    | .null, v => .done (.ofJson v)
    | .bool _, .bool b => .value (.bool b)
    | .bool _, v => .value (.bool (settingTrueTexts.contains (normalize v.text)))
    | .int _, v => castInt v
    | .float _, v => castFloat v
    | .str _, v => .value (.str v.text)
    | .arr _, v => castList v
    | .obj _, v => castSection v

/-- What is stored for a value that replaces a setting: the value cast to its type, or as it is when
that is not possible. -/
def castLike (current : SettingTree) (value : Json) : Except Failure SettingTree :=
  match castTo current value with
  | .done tree => .ok tree
  | .unfit => .ok (.ofJson value)
  | .tooLarge => .error .overflow

end AccessAudit
