import DemurrageToken.Charset.KsX1001
import DemurrageToken.Charset.Piece
/-!
Korean character sets of two bytes per character.
-/
namespace DemurrageToken.Charset

/-! ### Syllables -/

/-- The syllable of a leading consonant, a vowel and a trailing consonant, each by its number; the
trailing consonant 0 is none. -/
def syllable (leading vowel trailing : Nat) : CodePoint :=
  CodePoint.ofNat (0xAC00 + (leading * 21 + vowel) * 28 + trailing)

/-- The numbers of the single letters from U+3131 on as leading consonants, where they are some. -/
def leadingNumbers : List (Option Nat) :=
  [some 0, some 1, none, some 2, none, none, some 3, some 4, some 5, none, none, none, none, none,
    none, none, some 6, some 7, some 8, none, some 9, some 10, some 11, some 12, some 13, some 14,
    some 15, some 16, some 17, some 18]

/-- The numbers of the same letters as trailing consonants. -/
def trailingNumbers : List (Option Nat) :=
  [some 1, some 2, some 3, some 4, some 5, some 6, some 7, none, some 8, some 9, some 10, some 11,
    some 12, some 13, some 14, some 15, some 16, some 17, none, some 18, some 19, some 20, some 21,
    some 22, none, some 23, some 24, some 25, some 26, some 27]

/-- The second byte of the cell that stands for a letter that is missing. -/
def fillerByte : Nat := 0xD4

/-- The syllable of three letters, each by the second byte of its cell. -/
def composedSyllable? (leading vowel trailing : Nat) : Option CodePoint :=
  let letter? (numbers : List (Option Nat)) (n : Nat) : Option Nat :=
    if 0xA1 ≤ n then (numbers[n - 0xA1]?).join else none
  match letter? leadingNumbers leading,
      if trailing = fillerByte then some 0 else letter? trailingNumbers trailing with
  | some l, some t =>
    if 0xBF ≤ vowel ∧ vowel ≤ 0xD3 then some (syllable l (vowel - 0xBF) t) else none
  | _, _ => none

/-! ### Packed rows -/

/-- Rows and cells, a byte each, counted from A1. The cell of the missing letter begins a syllable
that is written as four cells. -/
def eucKrStep : UInt8 → Bytes → Step :=
  asciiOr fun n rest =>
    match rest with
    | [] => .incomplete
    | second :: others =>
      if n = 0xA4 ∧ second.toNat = fillerByte then
        match others with
        | a :: leading :: b :: vowel :: c :: trailing :: _ =>
          if a = 0xA4 ∧ b = 0xA4 ∧ c = 0xA4 then
            .ofCharacter? 8 (composedSyllable? leading.toNat vowel.toNat trailing.toNat)
          else .broken 1
        | _ => .incomplete
      else .ofCharacter? 2 (Grid.ksX1001.at? (n - 0xA0) (second.toNat - 0xA0))

/-- The place of a byte among those that may come second in the added rows. -/
def addedPlace? (n : Nat) : Option Nat :=
  if 0x41 ≤ n ∧ n ≤ 0x5A then some (n - 0x41)
  else if 0x61 ≤ n ∧ n ≤ 0x7A then some (n - 0x61 + 26)
  else if 0x81 ≤ n ∧ n ≤ 0xFE then some (n - 0x81 + 52)
  else none

/-- The syllables of the standard, in the order of their code points. -/
def standardSyllables : List Nat :=
  Grid.ksX1001.flatMap fun (row, _, characters) =>
    if 16 ≤ row ∧ row ≤ 40 then characters.toList.map Char.toNat else []

/-- The syllable that has so many before it among those that the standard does not have. -/
def addedSyllable (index : Nat) : Nat :=
  standardSyllables.foldl (fun n s => if s ≤ n then n + 1 else n) (0xAC00 + index)

/-- The syllables that the standard does not have, in two bytes in their order. Up to the first byte
A0 a row has 178 of them, and from then on 84, which come before the cells of the standard. -/
def addedSyllable? (first second : Nat) : Option CodePoint :=
  (addedPlace? second).bind fun place =>
    let index? :=
      if first < 0x81 then none
      else if first < 0xA1 then some ((first - 0x81) * 178 + place)
      else if place < 84 then some (32 * 178 + (first - 0xA1) * 84 + place)
      else none
    (index?.filter (· < 8822)).map fun index => CodePoint.ofNat (addedSyllable index)

def unifiedHangulStep : UInt8 → Bytes → Step :=
  asciiOr <| pair fun first second =>
    (if 0xA1 ≤ second then Grid.ksX1001.at? (first - 0xA0) (second - 0xA0) else none)
      <|> addedSyllable? first second

/-! ### Letters in bits

A syllable is written as three groups of five bits, one for each letter. -/

/-- What a group of bits stands for. -/
inductive LetterBits where
  | missing
  | letter (number : Nat)
deriving DecidableEq

def leadingBits? (n : Nat) : Option LetterBits :=
  if n = 1 then some .missing else if 2 ≤ n ∧ n ≤ 20 then some (.letter (n - 2)) else none

def vowelBits? (n : Nat) : Option LetterBits :=
  if n = 2 then some .missing
  else if 3 ≤ n ∧ n ≤ 7 then some (.letter (n - 3))
  else if 10 ≤ n ∧ n ≤ 15 then some (.letter (n - 5))
  else if 18 ≤ n ∧ n ≤ 23 then some (.letter (n - 7))
  else if 26 ≤ n ∧ n ≤ 29 then some (.letter (n - 9))
  else none

def trailingBits? (n : Nat) : Option LetterBits :=
  if n = 1 then some .missing
  else if 2 ≤ n ∧ n ≤ 17 then some (.letter (n - 1))
  else if 19 ≤ n ∧ n ≤ 29 then some (.letter (n - 2))
  else none

/-- The single letter from U+3131 on that a consonant with a number is. -/
def singleConsonant? (numbers : List (Option Nat)) (number : Nat) : Option CodePoint :=
  (numbers.findIdx? (· = some number)).map fun index => CodePoint.ofNat (0x3131 + index)

def johabSyllable? (first second : Nat) : Option CodePoint :=
  match leadingBits? (first / 4 % 32), vowelBits? ((first * 8 + second / 32) % 32),
      trailingBits? (second % 32) with
  | some .missing, some .missing, some .missing => some (.scalar '\u3000')
  | some .missing, some .missing, some (.letter t) => singleConsonant? trailingNumbers t
  | some .missing, some (.letter v), some .missing => some (CodePoint.ofNat (0x314F + v))
  | some (.letter l), some .missing, some .missing => singleConsonant? leadingNumbers l
  | some (.letter l), some (.letter v), some .missing => some (syllable l v 0)
  | some (.letter l), some (.letter v), some (.letter t) => some (syllable l v t)
  | _, _, _ => none

/-- The other characters of the standard, in two rows for each first byte. -/
def johabSymbol? (first second : Nat) : Option CodePoint :=
  if first < 0xD9 ∨ first = 0xDF ∨ 0xF9 < first ∨ second < 0x31 ∨ (0x80 ≤ second ∧ second < 0x91)
      ∨ second % 0x80 = 0x7F ∨ (first = 0xDA ∧ 0xA1 ≤ second ∧ second ≤ 0xD3) then none
  else
    let cell := if second < 0x91 then second - 0x31 else second - 0x43
    let row := if first < 0xE0 then 2 * (first - 0xD9) else 2 * first - 0x197
    Grid.ksX1001.at? (row + cell / 94 + 1) (cell % 94 + 1)

def johabStep : UInt8 → Bytes → Step :=
  asciiOr <| pair fun first second =>
    if first < 0xD8 then johabSyllable? first second else johabSymbol? first second

end DemurrageToken.Charset
