import AccessAudit.Selector.Basic
import AccessAudit.Selector.Nth

/-!
# The canonical text of a selector

A selector is written with single blanks around combinators, a comma and a blank between branches,
and attribute values between double quotes. Names are written as they are: what a backslash
protected when the selector was read is not protected again.
-/

namespace AccessAudit

namespace Selector

/-- The sign of a combinator. -/
def Combinator.symbol : Combinator → String
  | .descendant => " "
  | .child => ">"
  | .next => "+"
  | .later => "~"

/-- What stands between two compounds. -/
def Combinator.separator : Combinator → String
  | .descendant => " "
  | how => " " ++ how.symbol ++ " "

/-- The sign of a comparison. -/
def Comparison.symbol : Comparison → String
  | .equals => "="
  | .includes => "~="
  | .dashed => "|="
  | .begins => "^="
  | .ends => "$="
  | .contains => "*="

/-- What follows the attribute's name in brackets. -/
def ValueTest.render (test : ValueTest) : String :=
  test.comparison.symbol ++ "\"" ++ test.value ++ "\"" ++ if test.ignoreCase then " i" else ""

mutual

/-- The text of a condition. -/
def Simple.render : Simple → String
  | .type name => name
  | .universal => "*"
  | .id value => "#" ++ value
  | .className name => "." ++ name
  | .attribute name none => "[" ++ name ++ "]"
  | .attribute name (some test) => "[" ++ name ++ test.render ++ "]"
  | .pseudoElement name => "::" ++ name
  | .pseudoClass name .none => ":" ++ name
  | .pseudoClass name (.selectors list) => ":" ++ name ++ "(" ++ renderBranches list ++ ")"
  | .pseudoClass name (.nth a b) => ":" ++ name ++ "(" ++ Nth.render a b ++ ")"

/-- The text of a compound. -/
def renderParts : List Simple → String
  | [] => ""
  | part :: rest => part.render ++ renderParts rest

/-- The text of a chain. -/
def Complex.render : Complex → String
  | .compound parts => renderParts parts
  | .join left how parts => left.render ++ how.separator ++ renderParts parts

/-- The text of a choice. -/
def renderBranches : List Complex → String
  | [] => ""
  | [branch] => branch.render
  | branch :: rest => branch.render ++ ", " ++ renderBranches rest

end

end Selector

/-- The canonical text of a selector list. -/
def SelectorList.render (list : SelectorList) : String := Selector.renderBranches list

end AccessAudit
