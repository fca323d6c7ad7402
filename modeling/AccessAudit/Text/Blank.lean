/-!
# Blanks

Which characters separate words, and the three things that are done with them everywhere: cutting
them off the ends of a text (`strip`), splitting a text into words (`words`), and testing for a
text without any other character (`isBlankText`). The class is the white space of Unicode together
with the four information separators `0x1C` to `0x1F`; the zero-width space is not in it.
-/

namespace AccessAudit.Text

/-- White space of any script, and the information separators. -/
def isBlank (c : Char) : Bool :=
  let n := c.toNat
  (0x9 ≤ n && n ≤ 0xD) || (0x1C ≤ n && n ≤ 0x20) || n == 0x85 || n == 0xA0 || n == 0x1680 ||
    (0x2000 ≤ n && n ≤ 0x200A) || n == 0x2028 || n == 0x2029 || n == 0x202F || n == 0x205F ||
    n == 0x3000

/-- Blanks around a numeral. The information separators are not among them. -/
def isPadding (c : Char) : Bool := isBlank c && !(0x1C ≤ c.toNat && c.toNat ≤ 0x1F)

/-! ## On lists of characters -/

/-- The list without its leading blanks. -/
def trimLeft (cs : List Char) : List Char := cs.dropWhile isBlank

/-- The list without its trailing blanks. -/
def trimRight (cs : List Char) : List Char := (cs.reverse.dropWhile isBlank).reverse

/-- The list without blanks at either end. -/
def trim (cs : List Char) : List Char := trimRight (trimLeft cs)

/-- A numeral without the blanks around it. -/
def trimPadding (cs : List Char) : List Char :=
  ((cs.dropWhile isPadding).reverse.dropWhile isPadding).reverse

/-- The words of the list that follow a word begun as `current`, kept in reverse. -/
def wordsFrom (current : List Char) : List Char → List (List Char)
  | [] => if current.isEmpty then [] else [current.reverse]
  | c :: rest =>
    if isBlank c then
      if current.isEmpty then wordsFrom [] rest else current.reverse :: wordsFrom [] rest
    else wordsFrom (c :: current) rest

/-- The maximal runs of characters that are no blanks, in order. -/
def wordLists (cs : List Char) : List (List Char) := wordsFrom [] cs

/-! ## On texts -/

/-- The text without blanks at either end. -/
def strip (s : String) : String := String.ofList (trim s.toList)

/-- The words of the text: its maximal runs of characters that are no blanks. -/
def words (s : String) : List String := (wordLists s.toList).map String.ofList

/-- Whether the text holds nothing but blanks. -/
def isBlankText (s : String) : Bool := s.toList.all isBlank

end AccessAudit.Text
