import DemurrageToken.Json.Basic
import DemurrageToken.Text.Integer
import DemurrageToken.Text.Wide
/-!
Reading JSON text. A reading step works on what is left of the text and gives what it leaves. It
stops at the first defect, and what is left there locates the defect in the whole text.
-/
namespace DemurrageToken.Json

/-- What is wrong with a text that is not JSON. -/
inductive Defect where
  | byteOrderMark
  | value
  | name
  | colon
  | comma
  | extra
  | unterminated
  | control
  | escape
  | unicodeEscape
deriving DecidableEq

def Defect.message : Defect → Text
  | byteOrderMark => "Unexpected UTF-8 BOM (decode using utf-8-sig)"
  | value => "Expecting value"
  | name => "Expecting property name enclosed in double quotes"
  | colon => "Expecting ':' delimiter"
  | comma => "Expecting ',' delimiter"
  | extra => "Extra data"
  | unterminated => "Unterminated string starting at"
  | control => "Invalid control character at"
  | escape => "Invalid \\escape"
  | unicodeEscape => "Invalid \\uXXXX escape"

/-- Why a reading step stops: a defect with what is left of the text at it, or an integer with
more digits than are read. -/
inductive Stop where
  | defect (kind : Defect) (rest : Text)
  | digits (count : Nat)
deriving DecidableEq

def isBlank (c : CodePoint) : Bool :=
  c = .scalar ' ' || c = .scalar '\t' || c = .scalar '\n' || c = .scalar '\r'

def skipBlank (t : Text) : Text := t.dropWhile isBlank

/-! ### Strings -/

def hexValue? (c : CodePoint) : Option Nat :=
  let n := c.val
  if 48 ≤ n ∧ n ≤ 57 then some (n - 48)
  else if 65 ≤ n ∧ n ≤ 70 then some (n - 55)
  else if 97 ≤ n ∧ n ≤ 102 then some (n - 87)
  else none

/-- The 16-bit unit of four hexadecimal digits. -/
def unit? (a b c d : CodePoint) : Option Nat := do
  return (((← hexValue? a) * 16 + (← hexValue? b)) * 16 + (← hexValue? c)) * 16 + (← hexValue? d)

/-- The character of a short escape. -/
def shortEscape? (letter : CodePoint) : Option Char :=
  if letter = .scalar '"' then some '"'
  else if letter = .scalar '\\' then some '\\'
  else if letter = .scalar '/' then some '/'
  else if letter = .scalar 'b' then some '\x08'
  else if letter = .scalar 'f' then some '\x0c'
  else if letter = .scalar 'n' then some '\n'
  else if letter = .scalar 'r' then some '\r'
  else if letter = .scalar 't' then some '\t'
  else none

/-- A part of a string: a code point, or a 16-bit unit given by its number. -/
inductive Piece where
  | plain (c : CodePoint)
  | unit (n : Nat)
deriving DecidableEq

/-- The pieces of a string up to its closing quote. The text with the opening quote locates the
string if it does not end. -/
def pieces (opening : Text) : Text → Except Stop (List Piece × Text)
  | [] => .error (.defect .unterminated opening)
  | c :: rest =>
    if c = .scalar '"' then .ok ([], rest)
    else if c = .scalar '\\' then
      match rest with
      | [] => .error (.defect .unterminated opening)
      | letter :: more =>
        if letter = .scalar 'u' then
          match more with
          | h₁ :: h₂ :: h₃ :: h₄ :: next :: after =>
            match unit? h₁ h₂ h₃ h₄ with
            | some n =>
              (pieces opening (next :: after)).map fun (ps, left) => (.unit n :: ps, left)
            | none => .error (.defect .unicodeEscape rest)
          | _ => .error (.defect .unicodeEscape rest)
        else
          match shortEscape? letter with
          | some plain =>
            (pieces opening more).map fun (ps, left) => (.plain (.scalar plain) :: ps, left)
          | none => .error (.defect .escape (c :: rest))
    else if c.val < 0x20 then .error (.defect .control (c :: rest))
    else (pieces opening rest).map fun (ps, left) => (.plain c :: ps, left)

/-- The text of pieces. From left to right, a high surrogate unit directly before a low one makes
one character with it. -/
def joinPieces : List Piece → Text
  | .unit high :: .unit low :: rest =>
    if Wide.isHighSurrogate high && Wide.isLowSurrogate low then
      Wide.joinSurrogates high low :: joinPieces rest
    else CodePoint.ofNat high :: joinPieces (.unit low :: rest)
  | .unit n :: rest => CodePoint.ofNat n :: joinPieces rest
  | .plain c :: rest => c :: joinPieces rest
  | [] => []

/-- A string without its opening quote. -/
def readString (rest : Text) : Except Stop (Text × Text) :=
  (pieces (.scalar '"' :: rest) rest).map fun (ps, left) => (joinPieces ps, left)

/-! ### Numbers -/

/-- The decimal digits at the front of a text. -/
def digitRun : Text → List Char × Text
  | .scalar c :: rest =>
    if c.isDigit then
      let (ds, left) := digitRun rest
      (c :: ds, left)
    else ([], .scalar c :: rest)
  | t => ([], t)

/-- The digits before the point: a single zero, or digits that begin with another one. -/
def wholePart : Text → Option (List Char × Text)
  | .scalar c :: rest =>
    if c = '0' then some (['0'], rest)
    else if c.isDigit then some (digitRun (.scalar c :: rest))
    else none
  | _ => none

/-- A point and the digits after it. A point without digits is left. -/
def fractionPart (t : Text) : List Char × Text :=
  match t with
  | .scalar '.' :: rest =>
    match digitRun rest with
    | ([], _) => ([], t)
    | found => found
  | _ => ([], t)

/-- A mark, an optional sign and the digits of an exponent. A mark without digits is left. -/
def exponentPart (t : Text) : Option Int × Text :=
  match t with
  | .scalar mark :: rest =>
    if mark = 'e' ∨ mark = 'E' then
      let (negative, unsigned) := match rest with
        | .scalar '+' :: more => (false, more)
        | .scalar '-' :: more => (true, more)
        | _ => (false, rest)
      match digitRun unsigned with
      | ([], _) => (none, t)
      | (ds, left) =>
        let size : Int := Nat.ofDigitChars 10 ds 0
        (some (if negative then -size else size), left)
    else (none, t)
  | _ => (none, t)

/-- A number. Without fraction and exponent it is an integer. -/
def readNumber (t : Text) : Except Stop (Json × Text) :=
  let (negative, unsigned) := match t with
    | .scalar '-' :: more => (true, more)
    | _ => (false, t)
  match wholePart unsigned with
  | none => .error (.defect .value t)
  | some (whole, afterWhole) =>
    let (fraction, afterFraction) := fractionPart afterWhole
    let (power?, left) := exponentPart afterFraction
    if fraction = [] ∧ power? = none then
      if Text.integerDigitLimit < whole.length then .error (.digits whole.length)
      else
        let size : Int := Nat.ofDigitChars 10 whole 0
        .ok (.int (if negative then -size else size), left)
    else
      let digits := Nat.ofDigitChars 10 (whole ++ fraction) 0
      let decimal : Decimal := ⟨digits, power?.getD 0 - fraction.length⟩
      .ok (.float (Binary64.ofDecimal negative decimal), left)

/-! ### Values -/

/-- The values that are written as words. -/
def words : List (Text × Json) :=
  [("null", .null), ("true", .bool true), ("false", .bool false), ("NaN", .float .nan),
    ("Infinity", .float (.infinite false)), ("-Infinity", .float (.infinite true))]

/-- A word or a number. -/
def readScalar (t : Text) : Except Stop (Json × Text) :=
  match words.findSome? fun (word, v) => (Text.dropStart? word t).map fun left => (v, left) with
  | some found => .ok found
  | none => readNumber t

/-- The elements of an array that has some, up to the closing bracket. -/
def readElements (item : Text → Except Stop (Json × Text)) :
    Nat → Text → Except Stop (List Json × Text)
  | 0, t => .error (.defect .value t)
  | bound + 1, t => do
    let (v, after) ← item t
    match skipBlank after with
    | .scalar ']' :: left => .ok ([v], left)
    | .scalar ',' :: more =>
      let (vs, left) ← readElements item bound (skipBlank more)
      .ok (v :: vs, left)
    | other => .error (.defect .comma other)

/-- The name of a member and the colon after it. -/
def readName : Text → Except Stop (Text × Text)
  | .scalar '"' :: rest => do
    let (name, after) ← readString rest
    match skipBlank after with
    | .scalar ':' :: left => .ok (name, skipBlank left)
    | other => .error (.defect .colon other)
  | t => .error (.defect .name t)

/-- The members of an object that has some, up to the closing brace. -/
def readMembers (item : Text → Except Stop (Json × Text)) :
    Nat → Text → Except Stop (List (Text × Json) × Text)
  | 0, t => .error (.defect .name t)
  | bound + 1, t => do
    let (name, afterName) ← readName t
    let (v, after) ← item afterName
    match skipBlank after with
    | .scalar '}' :: left => .ok ([(name, v)], left)
    | .scalar ',' :: more =>
      let (ms, left) ← readMembers item bound (skipBlank more)
      .ok ((name, v) :: ms, left)
    | other => .error (.defect .comma other)

/-- A value that is nested less deeply than the bound. A name that an object repeats keeps its
first place and takes the last value. -/
def readValue : Nat → Text → Except Stop (Json × Text)
  | 0, t => .error (.defect .value t)
  | depth + 1, t =>
    match t with
    | .scalar '"' :: rest => (readString rest).map fun (s, left) => (.string s, left)
    | .scalar '[' :: rest =>
      match skipBlank rest with
      | .scalar ']' :: left => .ok (.array [], left)
      | inner =>
        (readElements (readValue depth) (inner.length + 1) inner).map fun (vs, left) =>
          (.array vs, left)
    | .scalar '{' :: rest =>
      match skipBlank rest with
      | .scalar '}' :: left => .ok (.object [], left)
      | inner =>
        (readMembers (readValue depth) (inner.length + 1) inner).map fun (ms, left) =>
          (.object (Entries.ofList ms), left)
    | _ => readScalar t

/-- One value with blanks around it and nothing else. A text has fewer levels of nesting than
characters, so the bound on the depth is never met. -/
def readAll (t : Text) : Except Stop Json :=
  match t with
  | .scalar '\ufeff' :: _ => .error (.defect .byteOrderMark t)
  | _ => do
    let (v, after) ← readValue (t.length + 1) (skipBlank t)
    match skipBlank after with
    | [] => .ok v
    | extra => .error (.defect .extra extra)

/-! ### Faults -/

/-- Why a text is not read. The position counts code points from zero, line and column from one. -/
inductive Fault where
  | malformed (kind : Defect) (line column position : Nat)
  | tooManyDigits (count : Nat)
deriving DecidableEq

/-- The fault of a stop in a text. A line ends with a line feed. -/
def Stop.locate (t : Text) : Stop → Fault
  | .defect kind rest =>
    let position := t.length - rest.length
    let before := t.take position
    let column := (before.reverse.takeWhile (· ≠ .scalar '\n')).length + 1
    .malformed kind (before.count (.scalar '\n') + 1) column position
  | .digits count => .tooManyDigits count

def Fault.message : Fault → Text
  | malformed kind line column position =>
    kind.message ++ ": line " ++ Text.ofNat line ++ " column " ++ Text.ofNat column ++ " (char "
      ++ Text.ofNat position ++ ")"
  | tooManyDigits count => Text.digitLimitMessage count

/-- The value of a JSON text. -/
def read (t : Text) : Except Fault Json := (readAll t).mapError (Stop.locate t)

end DemurrageToken.Json
