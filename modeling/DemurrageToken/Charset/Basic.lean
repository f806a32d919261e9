import DemurrageToken.Charset.Escapes
import DemurrageToken.Charset.Iso2022
import DemurrageToken.Charset.Names
import DemurrageToken.Charset.Utf7
import DemurrageToken.Text.Punycode
import DemurrageToken.Text.Wide
/-!
Character sets by name, and the reading of bytes in them. The lossy reading puts U+FFFD for what has
no character; the strict one refuses it.
-/
namespace DemurrageToken

/-- Ways of coding that are known by name, but not for the lossy reading of text. -/
inductive Coding where
  /-- Names of hosts, which are read strictly only. -/
  | hostNames
  /-- A coding that refuses everything. -/
  | undefined
  /-- A coding of bytes by bytes. -/
  | bytes
  /-- A coding of text by text. -/
  | rotation
deriving DecidableEq

inductive Charset where
  | ascii
  /-- UTF-8. A byte order mark at the front is dropped where it is a signature. -/
  | utf8 (signature : Bool)
  /-- UTF-16. Without a given order a byte order mark has to tell it. -/
  | utf16 (order : Option Wide.Order)
  /-- UTF-32, with the order as for UTF-16. -/
  | utf32 (order : Option Wide.Order)
  | utf7
  /-- One byte a character; the table gives the characters of the last bytes. -/
  | table (upper : String)
  | shiftJis (kind : Charset.ShiftJis)
  | eucJapanese (kind : Charset.EucJapanese)
  | eucKr
  | unifiedHangul
  | johab
  | gb2312
  | gbk
  | gb18030
  | hz
  | big5 (kind : Charset.Big5Kind)
  | iso2022 (kind : Charset.Iso2022)
  | escapes
  | rawEscapes
  | punycode
  | unreadable (coding : Coding)
deriving DecidableEq

namespace Charset

/-- Why bytes have no text, not even a lossy one. -/
inductive Fault where
  /-- A name holds the character NUL. -/
  | nulInName
  | missingMark16
  | missingMark32
  /-- An escape sequence at the end is too long to wait for its end. -/
  | tooMuchLeft
  /-- A single character is taken from a set that has none to give. -/
  | unusableSet
  /-- A digit of a coding in ASCII is none. -/
  | beyondAscii (b : UInt8) (position : Nat)
  | unreadable (coding : Coding)
deriving DecidableEq

def Fault.message : Fault → Text
  | nulInName => "embedded null character"
  | missingMark16 => "UTF-16 stream does not start with BOM"
  | missingMark32 => "UTF-32 stream does not start with BOM"
  | tooMuchLeft => "pending buffer overflow"
  | unusableSet => "internal codec error"
  | beyondAscii b position =>
    "'ascii' codec can't decode byte 0x" ++ Text.hex 2 b.toNat ++ " in position "
      ++ Text.ofNat position ++ ": ordinal not in range(128)"
  | unreadable .hostNames => "Unsupported error handling replace"
  | unreadable .undefined => "undefined encoding"
  | unreadable .bytes => []
  | unreadable .rotation =>
    "descriptor 'translate' for 'str' objects doesn't apply to a 'bytes' object"

/-! ### Names -/

/-- The character sets without a table. -/
def untabled : List (String × Charset) :=
  [("ascii", ascii), ("latin_1", table ""), ("charmap", table ""),
    ("utf_8", utf8 false), ("utf_8_sig", utf8 true), ("utf_7", utf7),
    ("utf_16", utf16 none), ("utf_16_le", utf16 (some .littleEndian)),
    ("utf_16_be", utf16 (some .bigEndian)), ("utf_32", utf32 none),
    ("utf_32_le", utf32 (some .littleEndian)), ("utf_32_be", utf32 (some .bigEndian)),
    ("shift_jis", shiftJis .standard), ("cp932", shiftJis .windows),
    ("shift_jisx0213", shiftJis (.jisX0213 .first)),
    ("shift_jis_2004", shiftJis (.jisX0213 .second)), ("euc_jp", eucJapanese .standard),
    ("euc_jisx0213", eucJapanese (.jisX0213 .first)),
    ("euc_jis_2004", eucJapanese (.jisX0213 .second)), ("euc_kr", eucKr),
    ("cp949", unifiedHangul), ("johab", johab), ("gb2312", gb2312), ("gbk", gbk),
    ("gb18030", gb18030), ("hz", hz), ("big5", big5 .standard), ("cp950", big5 .windows),
    ("big5hkscs", big5 .hongKong), ("iso2022_jp", iso2022 .japanese),
    ("iso2022_jp_1", iso2022 .japanese1), ("iso2022_jp_2", iso2022 .japanese2),
    ("iso2022_jp_3", iso2022 .japanese3), ("iso2022_jp_2004", iso2022 .japanese2004),
    ("iso2022_jp_ext", iso2022 .japaneseExtended), ("iso2022_kr", iso2022 .korean),
    ("unicode_escape", escapes), ("raw_unicode_escape", rawEscapes), ("punycode", punycode),
    ("idna", unreadable .hostNames), ("undefined", unreadable .undefined),
    ("base64_codec", unreadable .bytes), ("bz2_codec", unreadable .bytes),
    ("hex_codec", unreadable .bytes), ("quopri_codec", unreadable .bytes),
    ("uu_codec", unreadable .bytes), ("zlib_codec", unreadable .bytes),
    ("rot_13", unreadable .rotation)]

/-- A name in lower case, with one underscore for what stands between letters, digits and points,
and nothing for it at the ends. `pending` tells whether an underscore is due. -/
def normalNameAfter (started pending : Bool) : Text → Text
  | [] => []
  | c :: rest =>
    match c with
    | .scalar char =>
      if char.isAlphanum || char = '.' then
        let mark : Text := if pending && started then [.scalar '_'] else []
        mark ++ .scalar char.toLower :: normalNameAfter true false rest
      else normalNameAfter started true rest
    | .surrogate _ => normalNameAfter started true rest

/-- The name of the character set that is also called by a name in normal form. -/
def mainName? (normal : Text) : Option String :=
  (otherNames.find? fun (_, others) => others.any fun n => Text.ofString n = normal).map Prod.fst

/-- The character set of its own name. -/
def ofMainName? (name : Text) : Option Charset :=
  let isName (n : String) : Bool := Text.ofString n = name
  match untabled.find? (isName ·.1) with
  | some (_, charset) => some charset
  | none => (tables.find? (isName ·.1)).map fun (_, upper) => table upper

/-- The character set of a name. In another name than its own, points may stand for underscores. -/
def ofName? (name : Text) : Except Fault (Option Charset) :=
  if name.contains (.scalar '\x00') then .error .nulInName
  else
    let normal := normalNameAfter false false name
    let pointless := normal.map fun c => if c = .scalar '.' then .scalar '_' else c
    let main := ((mainName? normal <|> mainName? pointless).map Text.ofString).getD normal
    .ok (ofMainName? main)

/-! ### Reading -/

/-- A piece for a code point, which is none for a surrogate. -/
def pieceOf (c : CodePoint) : Piece := if c.isSurrogate then .broken else .text [c]

/-- The code point of a byte in a table for the last bytes. -/
def tablePiece (upper : List Char) (b : UInt8) : Piece :=
  let start := 256 - upper.length
  if b.toNat < start then .text [CodePoint.ofNat b.toNat]
  else
    match upper[b.toNat - start]? with
    | some '\ufffd' | none => .broken
    | some c => .text [.scalar c]

def utf8Pieces (bytes : Bytes) : List Piece :=
  (Utf8.segments false bytes).map fun
    | .character c _ => .text [c]
    | .illFormed _ _ => .broken

/-- The pieces of 16-bit units. A byte left over at the end belongs to no character, or to the
broken one that a high surrogate before it begins. -/
def utf16Pieces (order : Wide.Order) (bytes : Bytes) : List Piece :=
  let units := (Wide.units16 order (bytes.take (bytes.length / 2 * 2))).getD []
  let body := (Wide.ofUnits units).map pieceOf
  if bytes.length % 2 = 0 || units.getLast?.any Wide.isHighSurrogate then body
  else body ++ [.broken]

/-- The pieces of 32-bit units. Bytes left over at the end belong to no character. -/
def utf32Pieces (order : Wide.Order) : Bytes → List Piece
  | a :: b :: c :: d :: rest =>
    match Wide.decode32 order [a, b, c, d] with
    | some t => t.map pieceOf ++ utf32Pieces order rest
    | none => .broken :: utf32Pieces order rest
  | [] => []
  | _ => [.broken]

/-- The order that a byte order mark of 16 bits tells, and the bytes after it. -/
def marked16? : Bytes → Option (Wide.Order × Bytes)
  | 0xFE :: 0xFF :: rest => some (.bigEndian, rest)
  | 0xFF :: 0xFE :: rest => some (.littleEndian, rest)
  | _ => none

/-- The order that a byte order mark of 32 bits tells, and the bytes after it. -/
def marked32? : Bytes → Option (Wide.Order × Bytes)
  | 0x00 :: 0x00 :: 0xFE :: 0xFF :: rest => some (.bigEndian, rest)
  | 0xFF :: 0xFE :: 0x00 :: 0x00 :: rest => some (.littleEndian, rest)
  | _ => none

/-- The byte order mark in UTF-8. -/
def signature : Bytes := [0xEF, 0xBB, 0xBF]

/-- The bytes after a signature, if there is one. -/
def withoutSignature (bytes : Bytes) : Bytes :=
  if bytes.take 3 = signature then bytes.drop 3 else bytes

/-- The text that digits after the last hyphen make of the characters before it. Digits that are
none end the reading. -/
def decodePunycode (bytes : Bytes) : Except Fault Text :=
  let (after, before) := bytes.reverse.span (· ≠ 0x2D)
  let digits := after.reverse
  match digits.findIdx? (0x80 ≤ ·.toNat) with
  | some position => .error (.beyondAscii (digits.getD position 0) position)
  | none =>
    let basic := (before.drop 1).reverse.map fun b =>
      if b.toNat < 0x80 then CodePoint.ofNat b.toNat else Piece.replacement
    .ok (Punycode.insert basic (digits.map fun b => CodePoint.ofNat b.toNat)).1

/-- The pieces of some bytes in the character sets that read a piece at a time. -/
def pieces? (charset : Charset) (bytes : Bytes) : Option (List Piece) :=
  match charset with
  | ascii =>
    some (bytes.map fun b => if b.toNat < 0x80 then .text [CodePoint.ofNat b.toNat] else .broken)
  | utf8 false => some (utf8Pieces bytes)
  | utf8 true => some (utf8Pieces (withoutSignature bytes))
  | utf16 order => order.map fun o => utf16Pieces o bytes
  | utf32 order => order.map fun o => utf32Pieces o bytes
  | utf7 => some (Utf7.pieces bytes)
  | table upper => some (bytes.map (tablePiece upper.toList))
  | shiftJis kind => some (Charset.pieces kind.step bytes)
  | eucJapanese kind => some (Charset.pieces kind.step bytes)
  | eucKr => some (Charset.pieces eucKrStep bytes)
  | unifiedHangul => some (Charset.pieces unifiedHangulStep bytes)
  | johab => some (Charset.pieces johabStep bytes)
  | gb2312 => some (Charset.pieces gb2312Step bytes)
  | gbk => some (Charset.pieces gbkStep bytes)
  | gb18030 => some (Charset.pieces gb18030Step bytes)
  | hz => some (piecesFrom hzStep .ascii bytes)
  | big5 kind => some (Charset.pieces kind.step bytes)
  | iso2022 kind => some (piecesFrom kind.step .start bytes)
  | escapes => some (Charset.pieces Escapes.step bytes)
  | rawEscapes => some (Charset.pieces Escapes.rawStep bytes)
  | punycode => none
  | unreadable _ => none

/-- The greatest number of bytes in sets of several bytes that can wait for those after them. -/
def longestWait : Nat := 8

/-- Whether a character set keeps what is cut off at the end in a place of limited size. -/
def hasLimitedWait : Charset → Bool
  | iso2022 _ => true
  | _ => false

/-- The lossy text of some bytes; there are at least one. -/
def decode (charset : Charset) (bytes : Bytes) : Except Fault Text :=
  match charset with
  | utf16 none =>
    match marked16? bytes with
    | some (order, rest) => .ok (lossy (utf16Pieces order rest))
    | none => if 2 ≤ bytes.length then .error .missingMark16 else .ok [Piece.replacement]
  | utf32 none =>
    match marked32? bytes with
    | some (order, rest) => .ok (lossy (utf32Pieces order rest))
    | none => if 4 ≤ bytes.length then .error .missingMark32 else .ok [Piece.replacement]
  | utf8 true =>
    if bytes.length < 3 ∧ signature.take bytes.length = bytes then .ok []
    else .ok (lossy (utf8Pieces (withoutSignature bytes)))
  | punycode => decodePunycode bytes
  | unreadable coding => .error (.unreadable coding)
  | _ =>
    let read := (charset.pieces? bytes).getD []
    if read.contains .stop then .error .unusableSet
    else if charset.hasLimitedWait ∧ read.any fun
        | .cut length => longestWait < length
        | _ => false
      then .error .tooMuchLeft
    else .ok (lossy read)

/-- The text of pieces that all are well-formed. -/
def ofPieces (pieces : List Piece) : Except Fault (Option Text) :=
  match strict pieces with
  | (t, none) => .ok (some t)
  | (_, some .stop) => .error .unusableSet
  | (_, some _) => .ok none

/-- The text of some bytes, if all of them are well-formed. Without a mark the units of UTF-16 and
UTF-32 have their low byte first. -/
def decodeStrict (charset : Charset) (bytes : Bytes) : Except Fault (Option Text) :=
  match charset with
  | utf16 none =>
    let (order, rest) := (marked16? bytes).getD (.littleEndian, bytes)
    ofPieces (utf16Pieces order rest)
  | utf32 none =>
    let (order, rest) := (marked32? bytes).getD (.littleEndian, bytes)
    ofPieces (utf32Pieces order rest)
  | punycode =>
    .ok (if bytes.all (·.toNat < 0x80) then
        Punycode.decode? (bytes.map fun b => CodePoint.ofNat b.toNat)
      else none)
  | _ =>
    match charset.pieces? bytes with
    | some pieces => ofPieces pieces
    | none => .ok none

end Charset

end DemurrageToken
