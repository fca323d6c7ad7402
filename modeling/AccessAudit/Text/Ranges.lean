/-!
# Tables of code points

A property of characters that the Unicode character database defines by enumeration is kept as
closed ranges of code points. The tables themselves are data (`WordRanges`, `PrintableRanges`,
`CaseRanges`); this module says how one is read.
-/

namespace AccessAudit.Text

/-- Closed ranges of code points, in increasing order. -/
abbrev Ranges := Array (Nat × Nat)

/-- Whether a character's code point lies in one of the ranges. -/
def Ranges.has (ranges : Ranges) (c : Char) : Bool :=
  ranges.any fun range => range.1 ≤ c.toNat && c.toNat ≤ range.2

end AccessAudit.Text
