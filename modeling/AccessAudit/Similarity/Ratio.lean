/-!
# Similarity ratio

How much two texts have in common, between zero and one. The longest common block is found, then
the longest ones to the left and to the right of it, and so on; the ratio is the share of the
characters that lie in such blocks.

In a long text, characters that occur often do not start a block: they only extend one.
-/

namespace AccessAudit.Similarity

/-- A block that two texts have in common: where it begins in each, and its length. -/
structure Block where
  /-- The place in the first text. -/
  left : Nat
  /-- The place in the second text. -/
  right : Nat
  /-- The length. -/
  length : Nat
  deriving DecidableEq, Repr

/-- The lengths of the common blocks that end at a character of the first text and at each place of
the second, given those for the character before. -/
def runLengths (seed : Char → Bool) (b : List Char) (before : List Nat) (c : Char) : List Nat :=
  List.zipWith (fun d run => if c == d && seed d then run + 1 else 0) b (0 :: before)

/-- The better of a block and those that end at a place of the first text; the first of equals is
kept. -/
def bestAt (place : Nat) (best : Block) (runs : List Nat) : Block :=
  runs.zipIdx.foldl (fun best (run, right) =>
    if best.length < run then ⟨place + 1 - run, right + 1 - run, run⟩ else best) best

/-- The longest common block whose characters may all start one; the first of equals. -/
def longestSeeded (seed : Char → Bool) (b : List Char) :
    (place : Nat) → (before : List Nat) → (best : Block) → List Char → Block
  | _, _, best, [] => best
  | place, before, best, c :: rest =>
    let runs := runLengths seed b before c
    longestSeeded seed b (place + 1) runs (bestAt place best runs) rest

/-- The length of the common head of two texts. -/
def commonHead : List Char → List Char → Nat
  | c :: a, d :: b => if c == d then commonHead a b + 1 else 0
  | _, _ => 0

/-- The longest common block, extended in both directions by whatever the texts have in common. -/
def longest (seed : Char → Bool) (a b : List Char) : Block :=
  let block := longestSeeded seed b 0 (List.replicate b.length 0) ⟨0, 0, 0⟩ a
  let back := commonHead (a.take block.left).reverse (b.take block.right).reverse
  let ahead := commonHead (a.drop (block.left + block.length)) (b.drop (block.right + block.length))
  ⟨block.left - back, block.right - back, block.length + back + ahead⟩

/-- How many characters lie in common blocks. As every block takes characters from the first text,
its length is enough fuel. -/
def commonCount (seed : Char → Bool) : (fuel : Nat) → List Char → List Char → Nat
  | 0, _, _ => 0
  | fuel + 1, a, b =>
    let block := longest seed a b
    if block.length == 0 then 0
    else
      commonCount seed fuel (a.take block.left) (b.take block.right) + block.length +
        commonCount seed fuel
          (a.drop (block.left + block.length)) (b.drop (block.right + block.length))

/-- From which length on a text counts as long. -/
def longText : Nat := 200

/-- Whether a character may start a block: in a long text, it must not occur too often. -/
def startsBlock (b : List Char) (c : Char) : Bool :=
  b.length < longText || b.count c ≤ b.length / 100 + 1

/-- The share of characters that lie in common blocks. -/
def ratio (a b : String) : Float :=
  let xs := a.toList
  let ys := b.toList
  let total := xs.length + ys.length
  if total == 0 then 1.0
  else 2.0 * (commonCount (startsBlock ys) xs.length xs ys).toFloat / total.toFloat

end AccessAudit.Similarity
