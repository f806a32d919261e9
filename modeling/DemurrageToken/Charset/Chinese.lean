import DemurrageToken.Charset.Big5
import DemurrageToken.Charset.Big5Supplement
import DemurrageToken.Charset.Gb18030
import DemurrageToken.Charset.Gb2312
import DemurrageToken.Charset.Gbk
import DemurrageToken.Charset.Piece
/-!
Chinese character sets of two or four bytes per character.
-/
namespace DemurrageToken.Charset

/-! ### Simplified characters -/

def gb2312Step : UInt8 → Bytes → Step :=
  asciiOr <| pair fun first second => Grid.gb2312.at? (first - 0xA0) (second - 0xA0)

def gbk? (first second : Nat) : Option CodePoint :=
  Grid.gbkExtension.at? first second <|> Grid.gb2312.at? (first - 0xA0) (second - 0xA0)

def gbkStep : UInt8 → Bytes → Step := asciiOr (pair gbk?)

/-- The private code point of two bytes. -/
def gb18030Private? (first second : Nat) : Option CodePoint :=
  (Grid.gb18030Private.find? fun (lead, low, high, _) =>
    lead = first && low ≤ second && second ≤ high).map fun (_, low, _, start) =>
      CodePoint.ofNat (start + (second - low))

/-- The code point of four bytes. Those below U+10000 that no two bytes stand for come first, and
those from there on begin with the byte 90. -/
def gb18030Four? (first second third fourth : Nat) : Option CodePoint :=
  if first < 0x81 ∨ 0xFE < first ∨ third < 0x81 ∨ 0xFE < third ∨ fourth < 0x30 ∨ 0x39 < fourth then
    none
  else
    let indexFrom (base : Nat) : Nat :=
      (((first - base) * 10 + (second - 0x30)) * 126 + (third - 0x81)) * 10 + (fourth - 0x30)
    if first < 0x85 then
      let index := indexFrom 0x81
      if index < Grid.gb18030Count then
        (Grid.gb18030Starts.reverse.find? fun (start, _) => start ≤ index).map fun (start, c) =>
          CodePoint.ofNat (c + (index - start))
      else none
    else
      let number := 0x10000 + indexFrom 0x90
      if 0x90 ≤ first ∧ number ≤ 0x10FFFF then some (CodePoint.ofNat number) else none

/-- The second byte of four is a digit. -/
def gb18030Step : UInt8 → Bytes → Step :=
  asciiOr fun first rest =>
    match rest with
    | [] => .incomplete
    | second :: others =>
      let s := second.toNat
      if 0x30 ≤ s ∧ s ≤ 0x39 then
        match others with
        | third :: fourth :: _ => .ofCharacter? 4 (gb18030Four? first s third.toNat fourth.toNat)
        | _ => .incomplete
      else
        .ofCharacter? 2
          (gbk? first s <|> Grid.gb18030Extension.at? first s <|> gb18030Private? first s)

/-- Whether two bytes of seven bits stand for a character, or one for itself. -/
inductive HzMode where
  | ascii
  | pairs
deriving DecidableEq

/-- A tilde and a brace change the mode. Two tildes are one, and a tilde before the end of a line
drops it. -/
def hzStep (mode : HzMode) (b : UInt8) (rest : Bytes) : Step × HzMode :=
  if b = 0x7E then
    match mode, rest with
    | _, [] => (.incomplete, mode)
    | .ascii, 0x7E :: _ => (.text [.scalar '~'] 2, mode)
    | .ascii, 0x7B :: _ => (.text [] 2, .pairs)
    | .ascii, 0x0A :: _ => (.text [] 2, mode)
    | .pairs, 0x7D :: _ => (.text [] 2, .ascii)
    | _, _ => (.broken 1, mode)
  else if 0x80 ≤ b.toNat then (.broken 1, mode)
  else
    match mode with
    | .ascii => (.byte b.toNat, mode)
    | .pairs =>
      let character? (first second : Nat) := Grid.gb2312.at? (first - 0x20) (second - 0x20)
      (pair character? b.toNat rest, mode)

/-! ### Traditional characters -/

inductive Big5Kind where
  | standard
  | windows
  | hongKong
deriving DecidableEq

/-- Whether the supplement of Hong Kong has two bytes to itself. -/
def isHongKongOnly (first second : Nat) : Bool :=
  first = 0xC7 || first = 0xC8 || (first = 0xC6 && 0xA1 ≤ second)

/-- The text of two bytes. -/
def Big5Kind.at? (kind : Big5Kind) (first second : Nat) : Option Text :=
  match kind with
  | standard => (Grid.big5.at? first second).map fun c => [c]
  | windows => (Grid.big5Windows.at? first second <|> Grid.big5.at? first second).map fun c => [c]
  | hongKong =>
    let plain? := if isHongKongOnly first second then none else Grid.big5.at? first second
    ((plain? <|> Grid.big5HongKong.at? first second).map fun c => [c])
      <|> Grid.big5HongKongPairs.run? first second

def Big5Kind.step (kind : Big5Kind) : UInt8 → Bytes → Step :=
  asciiOr fun first rest =>
    match rest with
    | [] => .incomplete
    | second :: _ =>
      match kind.at? first second.toNat with
      | some t => .text t 2
      | none => .broken 1

end DemurrageToken.Charset
