import DemurrageToken.Charset.Basic
import DemurrageToken.Entries
import DemurrageToken.Percent
import DemurrageToken.Text.Blank
import DemurrageToken.Text.Integer
import DemurrageToken.Text.Lowercase
/-!
Content types: parameters between semicolons, of which one names the character set of the content.
A parameter after the first may come in segments, named `charset*0`, `charset*1` and so on, or in
one, `charset*`. An asterisk at the end of a segment's name tells that its value is percent-encoded.
A parameter with such a segment begins with the name of a character set for its own octets and with
a language, each before an apostrophe.
-/
namespace DemurrageToken.ContentType

/-- A part of a parameter's value. -/
structure Segment where
  number : Option Nat
  value : Text
  isEncoded : Bool

/-- The value of a parameter. -/
inductive Value where
  | plain (t : Text)
  /-- Octets, each as the code point of its number, and the name of the character set that they
  are in. Code points that are the number of no octet are not encoded in it. -/
  | encoded (charset : Text) (octets : Text)

/-- Why a content type is not read. -/
inductive Fault where
  | tooManyDigits (count : Nat)
  /-- Of the segments of one parameter only some have a number; the first one may have. -/
  | mixedSegments (firstHasNumber : Bool)
  | charset (fault : Charset.Fault)
deriving DecidableEq

def Fault.message : Fault → Text
  | tooManyDigits count => Text.digitLimitMessage count
  | mixedSegments true => "'<' not supported between instances of 'NoneType' and 'int'"
  | mixedSegments false => "'<' not supported between instances of 'int' and 'NoneType'"
  | charset fault => fault.message

/-! ### Parts -/

/-- The parts of a content type between semicolons. A semicolon in double quotes divides nothing;
a quote after a backslash is no quote. -/
def parts (inQuotes afterBackslash : Bool) : Text → List Text
  | [] => [[]]
  | c :: rest =>
    if c = .scalar ';' ∧ ¬ inQuotes then [] :: parts false false rest
    else
      let quote := c = .scalar '"' && !afterBackslash
      match parts (inQuotes ^^ quote) (c = .scalar '\\') rest with
      | [] => [[c]]
      | part :: others => (c :: part) :: others

/-- The name and the value in a part. The case of a name counts only where no value follows. -/
def entry (part : Text) : Text × Text :=
  match part.span (· ≠ .scalar '=') with
  | (name, []) => (Text.trim name, [])
  | (name, _ :: value) => ((Text.trim name).lower, Text.trim value)

/-- Drop each backslash before a certain character. -/
def dropBackslashes (before : Char) : Text → Text
  | c :: d :: rest =>
    if c = .scalar '\\' ∧ d = .scalar before then d :: dropBackslashes before rest
    else c :: dropBackslashes before (d :: rest)
  | short => short

/-- A value without the quotes or angle brackets around it. -/
def unquote (t : Text) : Text :=
  let inner := (t.drop 1).dropLast
  let isBetween (opening closing : Char) : Bool :=
    1 < t.length && t.head? = some (.scalar opening) && t.getLast? = some (.scalar closing)
  if isBetween '"' '"' then dropBackslashes '"' (dropBackslashes '\\' inner)
  else if isBetween '<' '>' then inner
  else t

/-! ### Segments -/

def isWord (c : CodePoint) : Bool := Percent.isLetterOrDigit c || c = .scalar '_'

/-- What a segment's name tells: the parameter's name, the digits of the number, if there is one,
and whether the value is encoded. -/
def segmentName? (name : Text) : Option (Text × Option Text × Bool) :=
  match name.span isWord with
  | (_ :: _, [.scalar '*']) => some (name.dropLast, none, true)
  | (c :: word, .scalar '*' :: tail) =>
    match tail.span fun d => 48 ≤ d.val && d.val ≤ 57 with
    | (d :: digits, []) => some (c :: word, some (d :: digits), false)
    | (d :: digits, [.scalar '*']) => some (c :: word, some (d :: digits), true)
    | _ => none
  | _ => none

def segmentNumber (digits : Text) : Except Fault Nat :=
  if Text.integerDigitLimit < digits.length then .error (.tooManyDigits digits.length)
  else .ok (digits.foldl (fun n d => n * 10 + (d.val - 48)) 0)

/-- The order of segments: by number, of equal ones by value. -/
def Segment.isUpTo (a b : Segment) : Bool :=
  if a.number ≠ b.number then a.number.getD 0 < b.number.getD 0
  else if a.value ≠ b.value then a.value.map CodePoint.val < b.value.map CodePoint.val
  else !a.isEncoded || b.isEncoded

/-- The segments in order. Either all of them or none have a number. -/
def inOrder (segments : List Segment) : Except Fault (List Segment) :=
  let numbered := (segments.head?.bind Segment.number).isSome
  if segments.all fun s => s.number.isSome = numbered then .ok (segments.mergeSort Segment.isUpTo)
  else .error (.mixedSegments numbered)

/-- The value of a segment, in which a percent-encoded octet is the code point of its number. -/
def Segment.octets (s : Segment) : Text :=
  if s.isEncoded then Percent.decodeOctets s.value else s.value

/-- The value that segments in order make. Octets without a character set are ASCII. -/
def value (segments : List Segment) : Value :=
  let whole := segments.flatMap Segment.octets
  if segments.any Segment.isEncoded then
    match whole.span (· ≠ .scalar '\'') with
    | (charset, _ :: rest) =>
      match rest.dropWhile (· ≠ .scalar '\'') with
      | _ :: octets => .encoded (if charset = [] then "us-ascii" else charset) octets
      | [] => .encoded "us-ascii" whole
    | (_, []) => .encoded "us-ascii" whole
  else .plain whole

/-! ### Parameters -/

/-- The parameters of some entries: those in one piece, and the segments of the others, by names in
the order of their first segments. -/
def divide : List (Text × Text) → Entries Text × Entries (List Segment) →
    Except Fault (Entries Text × Entries (List Segment))
  | [], found => .ok found
  | (name, quotedValue) :: rest, (whole, segmented) =>
    match segmentName? name with
    | none => divide rest (whole ++ [(name, unquote quotedValue)], segmented)
    | some (base, digits?, isEncoded) => do
      let number ← digits?.mapM segmentNumber
      let before := (segmented.lookup base).getD []
      let segments := before ++ [⟨number, unquote quotedValue, isEncoded⟩]
      divide rest (whole, segmented.put base segments)

/-- The parameters of a content type. What stands before the first semicolon is one as well, but no
segment. -/
def parameters (contentType : Text) : Except Fault (Entries Value) :=
  match (parts false false contentType).map entry with
  | [] => .ok []
  | (name, first) :: rest => do
    let (whole, segmented) ← divide rest ([(name, unquote first)], [])
    let joined ← segmented.mapM fun (base, segments) => do
      return (base, value (← inOrder segments))
    return whole.map (fun (n, t) => (n, .plain t)) ++ joined

/-- The bytes that a code point of a value stands for: the octet of its number, or the letters of
an escape with its number. -/
def octetBytes (c : CodePoint) : Bytes :=
  if c.val < 0x100 then [UInt8.ofNat c.val]
  else
    let escape : Text :=
      if c.val < 0x10000 then "\\u" ++ Text.hex 4 c.val else "\\U" ++ Text.hex 8 c.val
    escape.map fun d => UInt8.ofNat d.val

/-- The text of a value. Octets that have none in their character set stand for themselves. -/
def Value.text : Value → Except Fault Text
  | plain t => .ok t
  | encoded name octets => do
    match ← (Charset.ofName? name).mapError .charset with
    | none => return octets
    | some charset =>
      let t? ← (charset.decodeStrict (octets.flatMap octetBytes)).mapError .charset
      return t?.getD octets

/-- The character set that a content type names, if it is one that is known. Its name is ASCII. -/
def charset? (contentType : Text) : Except Fault (Option Charset) := do
  let found ← parameters contentType
  match found.find? fun (name, _) => name.lowerAscii = Text.ofString "charset" with
  | none => return none
  | some (_, value) =>
    let name ← value.text
    if name.all CodePoint.isAscii then (Charset.ofName? name).mapError .charset else return none

end DemurrageToken.ContentType
