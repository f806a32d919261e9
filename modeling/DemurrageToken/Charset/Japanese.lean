import DemurrageToken.Charset.JisX0208
import DemurrageToken.Charset.JisX0212
import DemurrageToken.Charset.JisX0213
import DemurrageToken.Charset.Piece
import DemurrageToken.Charset.Windows31J
/-!
Japanese character sets of one to three bytes per character. The standards give their characters in
rows and cells; a character set says which bytes stand for which cell.
-/
namespace DemurrageToken.Charset

/-- An edition of JIS X 0213. -/
inductive JisEdition where
  | first
  | second
deriving DecidableEq

/-- Whether an edition leaves a cell of the first plane free that the next one fills. -/
def JisEdition.isFree (edition : JisEdition) (row cell : Nat) : Bool :=
  edition = .first && Grid.jisX0213Later.contains (row, cell)

/-- The text of a cell in the first plane of JIS X 0213. -/
def jisX0213At? (edition : JisEdition) (row cell : Nat) : Option Text :=
  if edition.isFree row cell then none
  else
    ((Grid.jisX0208.at? row cell <|> Grid.jisX0213Plane1.at? row cell).map fun c => [c])
      <|> Grid.jisX0213Pairs.run? row cell

/-- As before, with the tilde of ASCII in place of the wide one. -/
def jisX0213AsciiAt? (edition : JisEdition) (row cell : Nat) : Option Text :=
  if row = 2 ∧ cell = 18 then some [.scalar '~'] else jisX0213At? edition row cell

/-- The character of a cell in the second plane of JIS X 0213. The editions differ in one cell. -/
def jisX0213Plane2At? (edition : JisEdition) (row cell : Nat) : Option CodePoint :=
  if edition = .first ∧ row = 93 ∧ cell = 27 then some (.scalar '鬝')
  else Grid.jisX0213Plane2.at? row cell

/-- Half the width of others have the letters of the bytes from A1 to DF. -/
def halfWidth? (n : Nat) : Option CodePoint :=
  if 0xA1 ≤ n ∧ n ≤ 0xDF then some (CodePoint.ofNat (0xFEC0 + n)) else none

/-! ### Shifted rows

Two rows of 94 cells share one first byte, and the second byte counts the cells of both. -/

inductive ShiftJis where
  | standard
  | windows
  | jisX0213 (edition : JisEdition)
deriving DecidableEq

/-- The row and the cell of two bytes. Rows beyond 94 do not belong to the first standard. -/
def shiftedCell? (first second : Nat) : Option (Nat × Nat) :=
  if second < 0x40 ∨ second = 0x7F ∨ 0xFC < second then none
  else
    let rows := first - (if first < 0xE0 then 0x81 else 0xC1)
    let cell := second - (if second < 0x80 then 0x40 else 0x41)
    some (2 * rows + cell / 94 + 1, cell % 94 + 1)

/-- The rows of the second plane that follow the 94 rows of the first. -/
def shiftedPlane2Rows : List Nat :=
  [1, 8, 3, 4, 5, 12, 13, 14, 15, 78, 79, 80, 81, 82, 83, 84, 85, 86, 87, 88, 89, 90, 91, 92, 93,
    94]

/-- The first of the code points that are kept free for users. -/
def firstPrivate : Nat := 0xE000

/-- The text of a cell. -/
def ShiftJis.at? (kind : ShiftJis) (row cell : Nat) : Option Text :=
  match kind with
  | standard => (Grid.jisX0208.at? row cell).map fun c => [c]
  | windows =>
    if 95 ≤ row ∧ row ≤ 114 then
      some [CodePoint.ofNat (firstPrivate + (row - 95) * 94 + (cell - 1))]
    else (Grid.windows31J.at? row cell <|> Grid.jisX0208.at? row cell).map fun c => [c]
  | jisX0213 edition =>
    if row = 1 ∧ cell = 32 then some [.scalar '\\']
    else if row ≤ 94 then jisX0213AsciiAt? edition row cell
    else (shiftedPlane2Rows[row - 95]?).bind fun r =>
      (jisX0213Plane2At? edition r cell).map fun c => [c]

/-- The number of bytes that are not well-formed where a cell has no text. -/
def ShiftJis.brokenWidth (kind : ShiftJis) (row cell : Nat) : Nat :=
  match kind with
  | jisX0213 edition => if edition.isFree row cell then 2 else 1
  | _ => 1

/-- The character of a single byte, if it is one. -/
def ShiftJis.single? (kind : ShiftJis) (n : Nat) : Option CodePoint :=
  match kind with
  | standard => if n < 0x80 then some (CodePoint.ofNat n) else halfWidth? n
  | windows =>
    if n ≤ 0x80 then some (CodePoint.ofNat n)
    else if n = 0xA0 then some (CodePoint.ofNat 0xF8F0)
    else if 0xFD ≤ n then some (CodePoint.ofNat (0xF8F1 + (n - 0xFD)))
    else halfWidth? n
  | jisX0213 _ =>
    if n = 0x5C then some (.scalar '¥')
    else if n = 0x7E then some (.scalar '‾')
    else if n < 0x80 then some (CodePoint.ofNat n)
    else halfWidth? n

/-- Whether a byte begins a character of two bytes. -/
def isShiftedLead (n : Nat) : Bool := (0x81 ≤ n && n ≤ 0x9F) || (0xE0 ≤ n && n ≤ 0xFC)

def ShiftJis.step (kind : ShiftJis) (b : UInt8) (rest : Bytes) : Step :=
  let n := b.toNat
  match kind.single? n, rest with
  | some c, _ => .text [c] 1
  | none, second :: _ =>
    if isShiftedLead n then
      match shiftedCell? n second.toNat with
      | some (row, cell) =>
        match kind.at? row cell with
        | some t => .text t 2
        | none => .broken (kind.brokenWidth row cell)
      | none => .broken 1
    else .broken 1
  | none, [] => if isShiftedLead n then .incomplete else .broken 1

/-! ### Packed rows

A row and a cell are a byte each, counted from A1. The byte 8E stands before a letter of half width,
and 8F before a cell of the second standard or plane. -/

inductive EucJapanese where
  | standard
  | jisX0213 (edition : JisEdition)
deriving DecidableEq

/-- The text of a cell in the first standard or plane. -/
def EucJapanese.at? (kind : EucJapanese) (row cell : Nat) : Option Text :=
  match kind with
  | standard => (Grid.jisX0208.at? row cell).map fun c => [c]
  | jisX0213 edition => jisX0213At? edition row cell

/-- The number of bytes that are not well-formed where such a cell has no text. -/
def EucJapanese.brokenWidth (kind : EucJapanese) (row cell : Nat) : Nat :=
  match kind with
  | standard => 1
  | jisX0213 edition => if edition.isFree row cell then 2 else 1

/-- The character of a cell in the second standard or plane. -/
def EucJapanese.furtherAt? (kind : EucJapanese) (row cell : Nat) : Option CodePoint :=
  match kind with
  | standard => Grid.jisX0212.at? row cell
  | jisX0213 edition => jisX0213Plane2At? edition row cell <|> Grid.jisX0212.at? row cell

/-- The number of a row or cell that a byte stands for. A byte below A1 stands for none. -/
def packedNumber (b : UInt8) : Nat := b.toNat - 0xA0

def EucJapanese.step (kind : EucJapanese) : UInt8 → Bytes → Step :=
  asciiOr fun n rest =>
    match rest with
    | [] => .incomplete
    | second :: others =>
      if n = 0x8E then .ofCharacter? 2 (halfWidth? second.toNat)
      else if n = 0x8F then
        match others with
        | [] => .incomplete
        | third :: _ => .ofCharacter? 3 (kind.furtherAt? (packedNumber second) (packedNumber third))
      else
        let row := n - 0xA0
        let cell := packedNumber second
        match kind.at? row cell with
        | some t => .text t 2
        | none => .broken (kind.brokenWidth row cell)

end DemurrageToken.Charset
