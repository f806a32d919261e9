import DemurrageToken.Text.CombiningClass
import DemurrageToken.Text.Decomposition
/-!
Composed texts. Texts that mean the same fall apart into the same letters and marks, and one of
them is composed: it is put together again from these as far as that goes.
-/
namespace DemurrageToken

namespace CodePoint

/-! ### Hangul

A syllable has a leading consonant, a vowel and at most one trailing consonant. The syllables are
numbered by these three, the trailing consonant counting fastest. -/

def firstSyllable : Nat := 0xAC00

def firstLeading : Nat := 0x1100

def firstVowel : Nat := 0x1161

/-- The number of no trailing consonant, which comes before those of the trailing consonants. -/
def noTrailing : Nat := 0x11A7

def isSyllable (n : Nat) : Bool := firstSyllable ≤ n && n < firstSyllable + 19 * 21 * 28

/-- The letters of a syllable. -/
def syllableLetters (n : Nat) : Text :=
  let index := n - firstSyllable
  let pair := [ofNat (firstLeading + index / (21 * 28)), ofNat (firstVowel + index / 28 % 21)]
  if index % 28 = 0 then pair else pair ++ [ofNat (noTrailing + index % 28)]

/-- The syllable of two parts: a leading consonant and a vowel, or a syllable without a trailing
consonant and one. -/
def syllable? (first second : Nat) : Option CodePoint :=
  if firstLeading ≤ first ∧ first < firstLeading + 19 ∧ firstVowel ≤ second
      ∧ second < firstVowel + 21 then
    some (ofNat (firstSyllable + ((first - firstLeading) * 21 + (second - firstVowel)) * 28))
  else if isSyllable first ∧ (first - firstSyllable) % 28 = 0 ∧ noTrailing < second
      ∧ second < noTrailing + 28 then
    some (ofNat (first + (second - noTrailing)))
  else none

/-! ### Taking apart -/

/-- The one or two characters that a character stands for. -/
def standsFor? (c : CodePoint) : Option Text :=
  let n := c.val
  let single := singleDecompositions.findSome? fun (start, others) =>
    if start ≤ n then others.toList[n - start]?.map fun o => [.scalar o] else none
  single <|> pairDecompositions.findSome? fun (start, others) =>
    if start ≤ n then
      match others.toList.drop (2 * (n - start)) with
      | first :: second :: _ => some [.scalar first, .scalar second]
      | _ => none
    else none

/-- The letters and marks of a character, when its parts fall apart at most so many times. -/
def partsWithin : Nat → CodePoint → Text
  | 0, c => [c]
  | bound + 1, c =>
    match c.standsFor? with
    | some parts => parts.flatMap (partsWithin bound)
    | none => [c]

/-- The letters and marks of a character. What a character stands for falls apart at most three
times more. -/
def parts (c : CodePoint) : Text :=
  if isSyllable c.val then syllableLetters c.val else partsWithin 4 c

/-! ### Putting together -/

/-- The character at the place of a pair in a run. -/
def pairAt? (first second : Char) (start : Nat) : List Char → Option CodePoint
  | c :: d :: rest =>
    if c = first ∧ d = second ∧ ¬ (ofNat start).isWithin uncomposedRanges then some (ofNat start)
    else pairAt? first second (start + 1) rest
  | _ => none

/-- The character that two make together. -/
def together? (first second : CodePoint) : Option CodePoint :=
  match first, second with
  | .scalar c, .scalar d =>
    syllable? c.toNat d.toNat
      <|> pairDecompositions.findSome? fun (start, pairs) => pairAt? c d start pairs.toList
  | _, _ => none

end CodePoint

namespace Text

/-- Put a mark before the first code point that it must not come after. -/
def insertMark (mark : CodePoint) : Text → Text
  | [] => [mark]
  | c :: rest =>
    if c.combiningClass ≠ 0 ∧ c.combiningClass < mark.combiningClass then c :: insertMark mark rest
    else mark :: c :: rest

/-- Order the marks after each letter by their classes. -/
def orderMarks : Text → Text
  | [] => []
  | c :: rest =>
    if c.combiningClass = 0 then c :: orderMarks rest else insertMark c (orderMarks rest)

def decomposed (t : Text) : Text := orderMarks (t.flatMap CodePoint.parts)

/-- Put marks and letters together. `base` is the last character that marks can join, and `marks`
are those after it that did not, last first. -/
def composeAfter (base : Option CodePoint) (marks : Text) : Text → Text
  | [] => base.toList ++ marks.reverse
  | c :: rest =>
    let number := c.combiningClass
    let isFree := match marks with
      | [] => true
      | last :: _ => last.combiningClass < number
    match if isFree then base.bind fun b => b.together? c else none with
    | some whole => composeAfter (some whole) marks rest
    | none =>
      if number = 0 then base.toList ++ marks.reverse ++ composeAfter (some c) [] rest
      else composeAfter base (c :: marks) rest

def composed (t : Text) : Text := composeAfter none [] t.decomposed

/-- Whether a text is the composed one among those that mean the same. -/
def isComposed (t : Text) : Bool := t.composed = t

end Text

end DemurrageToken
