import DemurrageToken.Text.Utf8
/-!
Bytes read in a character set. They fall into pieces: some are text, and others are not well-formed.
A character of several bytes may also be cut off at the end.
-/
namespace DemurrageToken.Charset

/-- A piece of bytes. -/
inductive Piece where
  | text (t : Text)
  | broken
  /-- So many bytes at the end that begin a character. -/
  | cut (length : Nat)
  /-- The reading cannot go on. -/
  | stop
deriving DecidableEq

namespace Piece

def replacement : CodePoint := .scalar '\ufffd'

/-- The text of a piece, with U+FFFD for what is not well-formed. -/
def lossyText : Piece → Text
  | text t => t
  | broken => [replacement]
  | cut _ => [replacement]
  | stop => []

end Piece

/-- The text of some pieces, with U+FFFD for each that is not well-formed. -/
def lossy (pieces : List Piece) : Text := pieces.flatMap Piece.lossyText

/-- The text of some pieces up to the first that is not well-formed, and that piece. -/
def strict : List Piece → Text × Option Piece
  | [] => ([], none)
  | .text t :: rest =>
    let (after, fault?) := strict rest
    (t ++ after, fault?)
  | piece :: _ => ([], some piece)

/-- What stands at the front of some bytes. -/
inductive Step where
  /-- Some text, in so many bytes; there is at least one. -/
  | text (t : Text) (width : Nat)
  /-- So many bytes, at least one, that are not well-formed. -/
  | broken (width : Nat)
  /-- The beginning of a character whose other bytes are missing. -/
  | incomplete
  /-- Something that the reading cannot go on after. -/
  | stop
deriving DecidableEq

namespace Step

/-- One code point of one byte. -/
def byte (n : Nat) : Step := .text [CodePoint.ofNat n] 1

/-- A character in so many bytes, if there is one; else the first byte alone is broken. -/
def ofCharacter? (width : Nat) : Option CodePoint → Step
  | some c => .text [c] width
  | none => .broken 1

end Step

/-- The pieces of some bytes, read step by step in states; what is left of the last state makes
pieces too. The first bytes may belong to a piece already given. -/
def piecesAfter {σ : Type} (step : σ → UInt8 → Bytes → Step × σ) (finish : σ → List Piece) :
    σ → Nat → Bytes → List Piece
  | s, _, [] => finish s
  | s, skip + 1, _ :: rest => piecesAfter step finish s skip rest
  | s, 0, b :: rest =>
    match step s b rest with
    | (.text t width, next) => .text t :: piecesAfter step finish next (width - 1) rest
    | (.broken width, next) => .broken :: piecesAfter step finish next (width - 1) rest
    | (.incomplete, _) => [.cut (rest.length + 1)]
    | (.stop, _) => [.stop]

/-- The pieces of some bytes, read step by step in states, the last of which makes none. -/
def piecesFrom {σ : Type} (step : σ → UInt8 → Bytes → Step × σ) (start : σ) (bytes : Bytes) :
    List Piece :=
  piecesAfter step (fun _ => []) start 0 bytes

/-- The pieces of some bytes, read step by step. -/
def pieces (step : UInt8 → Bytes → Step) (bytes : Bytes) : List Piece :=
  piecesFrom (fun (_ : Unit) b rest => (step b rest, ())) () bytes

/-- A step over an ASCII character, or whatever else begins with a byte above ASCII. -/
def asciiOr (step : Nat → Bytes → Step) (b : UInt8) (rest : Bytes) : Step :=
  if b.toNat < 0x80 then .byte b.toNat else step b.toNat rest

/-- A step over a character of two bytes. -/
def pair (character? : Nat → Nat → Option CodePoint) (first : Nat) : Bytes → Step
  | [] => .incomplete
  | second :: _ => .ofCharacter? 2 (character? first second.toNat)

end DemurrageToken.Charset
