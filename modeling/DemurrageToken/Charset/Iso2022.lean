import DemurrageToken.Charset.Chinese
import DemurrageToken.Charset.Japanese
import DemurrageToken.Charset.Korean
import DemurrageToken.Charset.Tables
/-!
Character sets of seven bits that are made of several sets. Escape sequences say which sets are the
first, the second and the third. Bytes stand for characters of the first set, or of the second one
after a shift; a single character may come from the third set.
-/
namespace DemurrageToken.Charset

/-- A set that an escape sequence can name. -/
inductive CodedSet where
  | ascii
  | latin
  | greek
  | romanLetters
  | katakana
  | jisX0208Old
  | jisX0208
  | jisX0212
  | gb2312
  | ksX1001
  | jisX0213 (edition : JisEdition)
  | jisX0213Plane2
deriving DecidableEq

namespace CodedSet

/-- The set that the last byte of an escape sequence names, among those of one or of two bytes per
character. -/
def named? (double : Bool) (final : UInt8) : Option CodedSet :=
  match double, Char.ofNat final.toNat with
  | false, 'A' => some latin
  | false, 'B' => some ascii
  | false, 'F' => some greek
  | false, 'I' => some katakana
  | false, 'J' => some romanLetters
  | true, '@' => some jisX0208Old
  | true, 'A' => some gb2312
  | true, 'B' => some jisX0208
  | true, 'C' => some ksX1001
  | true, 'D' => some jisX0212
  | true, 'O' => some (jisX0213 .first)
  | true, 'P' => some jisX0213Plane2
  | true, 'Q' => some (jisX0213 .second)
  | _, _ => none

/-- Whether a character of the set has two bytes. -/
def isDouble : CodedSet → Bool
  | ascii | latin | greek | romanLetters | katakana => false
  | _ => true

/-- The character of a single byte. Latin and Greek letters come from the third set only. -/
def single? (set : CodedSet) (n : Nat) : Option CodePoint :=
  match set with
  | ascii => some (CodePoint.ofNat n)
  | romanLetters => (ShiftJis.jisX0213 .second).single? n
  | katakana => halfWidth? (n + 0x80)
  | _ => none

/-- The text of a row and a cell. -/
def double? (set : CodedSet) (row cell : Nat) : Option Text :=
  let one (c : CodePoint) : Text := [c]
  match set with
  | jisX0208Old | jisX0208 => (Grid.jisX0208.at? row cell).map one
  | jisX0212 => (Grid.jisX0212.at? row cell).map one
  | gb2312 => (Grid.gb2312.at? row cell).map one
  | ksX1001 => (Grid.ksX1001.at? row cell).map one
  | jisX0213 edition => jisX0213AsciiAt? edition row cell
  | jisX0213Plane2 => (Charset.jisX0213Plane2At? .second row cell).map one
  | _ => none

/-- A step over a character of the set. -/
def step (set : CodedSet) (b : UInt8) (rest : Bytes) : Step :=
  if set.isDouble then
    match rest with
    | [] => .incomplete
    | second :: _ =>
      match set.double? (b.toNat - 0x20) (second.toNat - 0x20) with
      | some t => .text t 2
      | none => .broken 2
  else .ofCharacter? 1 (set.single? b.toNat)

end CodedSet

/-- The character sets of this kind. -/
inductive Iso2022 where
  | japanese
  | japanese1
  | japanese2
  | japanese3
  | japanese2004
  | japaneseExtended
  | korean
deriving DecidableEq

namespace Iso2022

/-- The sets that escape sequences may name besides ASCII. -/
def sets : Iso2022 → List CodedSet
  | japanese => [.jisX0208, .jisX0208Old, .romanLetters]
  | japanese1 => [.jisX0208, .jisX0212, .jisX0208Old, .romanLetters]
  | japanese2 =>
    [.jisX0208, .jisX0212, .ksX1001, .gb2312, .jisX0208Old, .romanLetters, .latin, .greek]
  | japanese3 => [.jisX0208, .jisX0213 .first, .jisX0213Plane2]
  | japanese2004 => [.jisX0208, .jisX0213 .second, .jisX0213Plane2]
  | japaneseExtended => [.jisX0208, .jisX0212, .jisX0208Old, .romanLetters, .katakana]
  | korean => [.ksX1001]

/-- Whether there is a third set. -/
def hasThird (kind : Iso2022) : Bool := kind = japanese2

/-- Whether bytes shift to the second set and back. -/
def hasShifts (kind : Iso2022) : Bool := kind = korean

/-- Whether an escape sequence may have the mark of a revised set in front. -/
def hasRevisions (kind : Iso2022) : Bool := kind ≠ korean

/-- The sets in use. After an escape that begins no sequence for sets, bytes stand for themselves up
to a capital letter or `@`. -/
structure State where
  first : CodedSet
  second : CodedSet
  third : CodedSet
  shifted : Bool
  foreign : Bool

def State.start : State := ⟨.ascii, .ascii, .ascii, false, false⟩

/-- Which of the sets an escape sequence is about. -/
inductive Slot where
  | first
  | second
  | third
deriving DecidableEq

def State.put (s : State) (slot : Slot) (set : CodedSet) : State :=
  match slot with
  | .first => { s with first := set }
  | .second => { s with second := set }
  | .third => { s with third := set }

/-! ### Escape sequences -/

def escapeByte : UInt8 := 0x1B

/-- Whether a byte ends an escape sequence: a capital letter or `@`. -/
def isFinal (b : UInt8) : Bool := 0x40 ≤ b.toNat && b.toNat ≤ 0x5A

/-- Where an escape sequence ends. -/
inductive Extent where
  | length (n : Nat)
  | unfinished
  | endless
deriving DecidableEq

/-- The extent of the escape sequence at the front of some bytes, of which so many more are looked
at from a place on. The three bytes of a revision mark are passed over as one. -/
def extent (revisions : Bool) (bytes : Bytes) (bound place : Nat) : Extent :=
  match bound with
  | 0 => .endless
  | bound + 1 =>
    match bytes[place]? with
    | none => .unfinished
    | some b =>
      if isFinal b then .length (place + 1)
      else if revisions && b = 0x26 && bytes[place + 1]? = some 0x40 then
        extent revisions bytes (bound - 2) (place + 3)
      else extent revisions bytes bound (place + 1)
termination_by bound

/-- The greatest length of an escape sequence. -/
def longestEscape : Nat := 16

/-- What the whole bytes of an escape sequence say: a set and its slot. -/
def designation? (kind : Iso2022) (sequence : Bytes) : Option (Slot × CodedSet) :=
  let ofSlot (slot : Slot) (double : Bool) (final : UInt8) : Option (Slot × CodedSet) :=
    (CodedSet.named? double final).map fun set => (slot, set)
  match sequence with
  | [_, 0x24, final] => ofSlot .first true final
  | [_, 0x28, final] => ofSlot .first false final
  | [_, 0x29, final] => ofSlot .second false final
  | [_, 0x2E, final] => if kind.hasThird then ofSlot .third false final else none
  | [_, 0x24, 0x28, final] => ofSlot .first true final
  | [_, 0x24, 0x29, final] => ofSlot .second true final
  | [_, _, _, 0x1B, 0x24, 0x42] => if kind.hasRevisions then some (.first, .jisX0208) else none
  | _ => none

/-- A step over an escape sequence. -/
def escapeStep (kind : Iso2022) (s : State) (bytes : Bytes) : Step × State :=
  match extent kind.hasRevisions bytes (longestEscape - 1) 1 with
  | .unfinished => (.incomplete, s)
  | .endless => (.broken 1, s)
  | .length n =>
    match designation? kind (bytes.take n) with
    | some (slot, set) =>
      if set = .ascii ∨ set ∈ kind.sets then (.text [] n, s.put slot set) else (.broken n, s)
    | none => (.broken n, s)

/-- A step over a single character of the third set, which follows two bytes. -/
def thirdStep (s : State) (b : UInt8) : Step :=
  let n := b.toNat
  match s.third with
  | .ascii => if n < 0x80 then .text [CodePoint.ofNat n] 3 else .broken 3
  | .latin => if n < 0x80 then .text [CodePoint.ofNat (n + 0x80)] 3 else .broken 3
  | .greek =>
    let letters := ((tables.lookup "iso8859_7").getD "").toList
    let place := if n < 0x80 then n + 0x80 else n - 0x80
    let start := 256 - letters.length
    match if place < start then some (Char.ofNat place) else letters[place - start]? with
    | some '\ufffd' => .broken 3
    | some c => .text [.scalar c] 3
    | none => .broken 3
  | _ => .stop

/-! ### Steps -/

def step (kind : Iso2022) (s : State) (b : UInt8) (rest : Bytes) : Step × State :=
  let n := b.toNat
  if s.foreign then (.byte n, { s with foreign := !isFinal b })
  else if b = escapeByte then
    match rest with
    | [] => (.incomplete, s)
    | second :: others =>
      if [0x28, 0x29, 0x24, 0x2E, 0x26].contains second.toNat then escapeStep kind s (b :: rest)
      else if kind.hasThird && second = 0x4E then
        match others with
        | [] => (.incomplete, s)
        | third :: _ => (thirdStep s third, s)
      else (.byte n, { s with foreign := true })
  else if kind.hasShifts && n = 0x0F then (.text [] 1, { s with shifted := false })
  else if kind.hasShifts && n = 0x0E then (.text [] 1, { s with shifted := true })
  else if n = 0x0A then (.byte n, { s with shifted := false })
  else if n < 0x20 then (.byte n, s)
  else if 0x80 ≤ n then (.broken 1, s)
  else ((if s.shifted then s.second else s.first).step b rest, s)

end Iso2022

end DemurrageToken.Charset
