import DemurrageToken.Text.Basic
/-!
Names that a mistyped word may stand for. Two texts are as close as the share of their characters
that lies in matching blocks: the longest common block, and the blocks on either side of it.
-/
namespace DemurrageToken.Text

/-- The length of the common beginning of two texts. -/
def commonLength : Text → Text → Nat
  | a :: as, b :: bs => if a = b then commonLength as bs + 1 else 0
  | _, _ => 0

/-- A block of equal characters: where it begins in either text, and its length. -/
structure Block where
  left : Nat
  right : Nat
  length : Nat

/-- The longer of two blocks, or else the first one. -/
def Block.better (b c : Block) : Block := if b.length < c.length then c else b

/-- The longest block that begins at the front of the first text. -/
def blockFrom (left right : Nat) (t : Text) : Text → Block
  | [] => ⟨left, right, 0⟩
  | u :: us =>
    Block.better ⟨left, right, commonLength t (u :: us)⟩ (blockFrom left (right + 1) t us)

/-- The longest common block, the earliest in the first text and then in the second. -/
def longestBlock (left : Nat) (u : Text) : Text → Block
  | [] => ⟨left, 0, 0⟩
  | c :: rest => Block.better (blockFrom left 0 (c :: rest) u) (longestBlock (left + 1) u rest)

/-- The number of characters in matching blocks, found within a bound on their nesting. -/
def matchingWithin : Nat → Text → Text → Nat
  | 0, _, _ => 0
  | bound + 1, t, u =>
    let block := longestBlock 0 u t
    if block.length = 0 then 0
    else
      matchingWithin bound (t.take block.left) (u.take block.right) + block.length
        + matchingWithin bound (t.drop (block.left + block.length))
          (u.drop (block.right + block.length))

/-- The number of characters of the first text that match the second. -/
def matching (t u : Text) : Nat := matchingWithin t.length t u

/-- A name with its closeness to a word, the quotient of two numbers. -/
structure Candidate where
  name : Text
  numerator : Nat
  denominator : Nat

def candidate (word name : Text) : Candidate :=
  ⟨name, 2 * matching name word, name.length + word.length⟩

/-- Whether three fifths of the characters match. -/
def Candidate.isClose (c : Candidate) : Bool := 3 * c.denominator ≤ 5 * c.numerator

def precedes (t u : Text) : Bool := t.map CodePoint.val < u.map CodePoint.val

/-- The closer candidate goes first, of two as close the one with the later name. -/
def Candidate.isBefore (c d : Candidate) : Bool :=
  let a := c.numerator * d.denominator
  let b := d.numerator * c.denominator
  b < a || (a = b && precedes d.name c.name)

/-- Insert into a sorted list. -/
def insertBy {α : Type} (before : α → α → Bool) (x : α) : List α → List α
  | [] => [x]
  | y :: ys => if before y x then y :: insertBy before x ys else x :: y :: ys

def sortBy {α : Type} (before : α → α → Bool) (xs : List α) : List α :=
  xs.foldr (insertBy before) []

/-- The three names that are closest to a word, of those that are close, in alphabetical order. -/
def closest (word : Text) (names : List Text) : List Text :=
  let close := (names.map (candidate word)).filter Candidate.isClose
  sortBy precedes (((sortBy Candidate.isBefore close).take 3).map (·.name))

end DemurrageToken.Text
