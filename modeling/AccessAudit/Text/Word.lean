import AccessAudit.Text.WordRanges

/-!
# Word characters

A word character is a letter or a number of any script, or the underscore. Identifiers of
selectors are made of word characters and hyphens, and a word ends where a word character meets
one that is none.
-/

namespace AccessAudit.Text

/-- A letter, a number or an underscore. -/
def isWord (c : Char) : Bool :=
  if c.toNat < 0x80 then c.isAlphanum || c == '_' else wordRanges.has c

/-- A word character or a hyphen: what an identifier is made of. -/
def isNameChar (c : Char) : Bool := isWord c || c == '-'

end AccessAudit.Text
