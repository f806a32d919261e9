import DemurrageToken.DomainName.Allowed
import DemurrageToken.Text.Composed
import DemurrageToken.Text.Direction
import DemurrageToken.Text.Joining
import DemurrageToken.Text.Punycode
import DemurrageToken.Text.Quoted
import DemurrageToken.Text.Script
/-!
Labels of domain names beyond ASCII. A label has to be composed, and each of its code points has to
be allowed in its place. A label with letters that are written from right to left has to read the
same way wherever it stands. In ASCII a label is written with the mark `xn--` in front.
-/
namespace DemurrageToken.DomainName

/-- Why the directions of the code points of a label do not go together. -/
inductive DirectionFault where
  | unknown (label : Text) (position : Nat)
  | first (label : Text)
  | inRightToLeft (position : Nat)
  | mixedNumbers
  | inLeftToRight (position : Nat)
  | last
deriving DecidableEq

/-- Why a text is no domain name. Positions count from 1. -/
inductive Fault where
  | nameTooLong
  | emptyName
  | emptyLabel
  | labelTooLong
  | uncomposed
  | innerHyphens
  | outerHyphen
  | leadingMark
  | codePoint (c : CodePoint) (position : Nat) (label : Text)
  /-- A code point that is allowed in some places stands in another. -/
  | context (c : CodePoint) (position : Nat) (label : Text)
  | joiner (c : CodePoint) (position : Nat) (label : Text)
  | direction (fault : DirectionFault)
  /-- Nothing follows the mark of a label in ASCII. -/
  | nothingMarked
  | hyphenAfterMark
  | undecodable
deriving DecidableEq

def DirectionFault.message : DirectionFault → Text
  | unknown label position =>
    "Unknown directionality in label " ++ label.quoted ++ " at position " ++ Text.ofNat position
  | first label =>
    "First codepoint in label " ++ label.quoted ++ " must be directionality L, R or AL"
  | inRightToLeft position =>
    "Invalid direction for codepoint at position " ++ Text.ofNat position
      ++ " in a right-to-left label"
  | mixedNumbers => "Can not mix numeral types in a right-to-left label"
  | inLeftToRight position =>
    "Invalid direction for codepoint at position " ++ Text.ofNat position
      ++ " in a left-to-right label"
  | last => "Label ends with illegal codepoint directionality"

/-- The number of a code point in upper-case hexadecimal digits, at least four of them. -/
def numberName (c : CodePoint) : Text :=
  let digits := (Nat.toDigits 16 c.val).map Char.toUpper
  "U+" ++ Text.ofChars (List.replicate (4 - digits.length) '0' ++ digits)

def Fault.message : Fault → Text
  | nameTooLong => "Domain too long"
  | emptyName => "Empty domain"
  | emptyLabel => "Empty Label"
  | labelTooLong => "Label too long"
  | uncomposed => "Label must be in Normalization Form C"
  | innerHyphens => "Label has disallowed hyphens in 3rd and 4th position"
  | outerHyphen => "Label must not start or end with a hyphen"
  | leadingMark => "Label begins with an illegal combining character"
  | codePoint c position label =>
    "Codepoint " ++ numberName c ++ " at position " ++ Text.ofNat position ++ " of "
      ++ label.quoted ++ " not allowed"
  | context c position label =>
    "Codepoint " ++ numberName c ++ " not allowed at position " ++ Text.ofNat position ++ " in "
      ++ label.quoted
  | joiner c position label =>
    "Unknown codepoint adjacent to joiner " ++ numberName c ++ " at position "
      ++ Text.ofNat position ++ " in " ++ label.quoted
  | direction fault => fault.message
  | nothingMarked => "Malformed A-label, no Punycode eligible content found"
  | hyphenAfterMark => "A-label must not end with a hyphen"
  | undecodable => "Invalid A-label"

/-! ### Code points in their places -/

def isJoiner (c : CodePoint) : Bool := c.val = 0x200C || c.val = 0x200D

/-- Whether a joiner may stand between some code points: after a sign that takes away a vowel, or,
if it keeps letters apart, between letters that would join. `before` comes last first. -/
def mayJoin (c : CodePoint) (before after : Text) : Bool :=
  match before with
  | [] => false
  | p :: _ =>
    if p.combiningClass = CodePoint.viramaClass then true
    else if c.val = 0x200D || (!p.isPrintable && !isJoiner p) then false
    else
      match before.dropWhile CodePoint.isJoiningTransparent,
          after.dropWhile CodePoint.isJoiningTransparent with
      | l :: _, r :: _ => l.joinsForward && r.joinsBackward
      | _, _ => false

def isArabicDigit (c : CodePoint) : Bool := 0x660 ≤ c.val && c.val ≤ 0x669

def isExtendedArabicDigit (c : CodePoint) : Bool := 0x6F0 ≤ c.val && c.val ≤ 0x6F9

/-- Whether a code point may stand between some others, for the code points for which this depends
on them. `before` comes last first. -/
def mayStand? (c : CodePoint) (before after : Text) : Option Bool :=
  let others := before ++ after
  let n := c.val
  if n = 0xB7 then
    some (before.head? = some (.scalar 'l') && after.head? = some (.scalar 'l'))
  else if n = 0x375 then some (after.head?.any CodePoint.isGreek)
  else if n = 0x5F3 ∨ n = 0x5F4 then some (before.head?.any CodePoint.isHebrew)
  else if n = 0x30FB then some (others.any fun o => o.val ≠ 0x30FB && o.isJapanese)
  else if isArabicDigit c then some (!others.any isExtendedArabicDigit)
  else if isExtendedArabicDigit c then some (!others.any isArabicDigit)
  else none

/-- Check the code points of a label that are left. `before` holds those before them, last first. -/
def checkCodePoints (label before : Text) : Text → Except Fault Unit
  | [] => .ok ()
  | c :: rest =>
    let position := before.length + 1
    let verdict : Except Fault Unit :=
      if isAllowed c then .ok ()
      else if isJoiner c then
        if mayJoin c before rest then .ok () else .error (.joiner c position label)
      else
        match mayStand? c before rest with
        | some true => .ok ()
        | some false => .error (.context c position label)
        | none => .error (.codePoint c position label)
    match verdict with
    | .error fault => .error fault
    | .ok () => checkCodePoints label (c :: before) rest

/-! ### Directions -/

/-- Whether a code point makes its label one that the rules for directions hold for. -/
def isFromRight (c : CodePoint) : Bool :=
  [.rightToLeft, .arabicLetter, .arabicNumber].contains c.direction

/-- The direction at the end of a label, marks aside. -/
def endDirection? (label : Text) : Option Direction :=
  (label.reverse.map CodePoint.direction).find? (· ≠ .nonspacingMark)

/-- Check a label that begins from the right. Numbers may stand in it, but of one kind only. -/
def checkFromRight (position : Nat) (numbers : Option Direction) : Text → Except DirectionFault Unit
  | [] => .ok ()
  | c :: rest =>
    match c.direction with
    | .leftToRight | .unknown => .error (.inRightToLeft position)
    | .arabicNumber =>
      if numbers = some .europeanNumber then .error .mixedNumbers
      else checkFromRight (position + 1) (some .arabicNumber) rest
    | .europeanNumber =>
      if numbers = some .arabicNumber then .error .mixedNumbers
      else checkFromRight (position + 1) (some .europeanNumber) rest
    | _ => checkFromRight (position + 1) numbers rest

/-- Check a label that begins from the left. -/
def checkFromLeft (label : Text) : Except DirectionFault Unit :=
  match label.findIdx? isFromRight with
  | some index => .error (.inLeftToRight (index + 1))
  | none => .ok ()

/-- Check the directions of a label. Unless something in it is written from the right, all of them
are good. -/
def checkDirections (label : Text) : Except DirectionFault Unit :=
  match label.findIdx? (·.direction = .unknown) with
  | some index => .error (.unknown label (index + 1))
  | none =>
    if !label.any isFromRight then .ok ()
    else
      match label.head?.map CodePoint.direction with
      | some .rightToLeft | some .arabicLetter => do
        checkFromRight 1 none label
        match endDirection? label with
        | some .rightToLeft | some .arabicLetter | some .arabicNumber | some .europeanNumber =>
          .ok ()
        | _ => .error .last
      | some .leftToRight => do
        checkFromLeft label
        match endDirection? label with
        | some .leftToRight | some .europeanNumber => .ok ()
        | _ => .error .last
      | _ => .error (.first label)

/-! ### Labels -/

def longestName : Nat := 254

def longestLabel : Nat := 63

/-- Check a label in the form in which it is read. -/
def checkLabel (label : Text) : Except Fault Unit := do
  if label = [] then throw .emptyLabel
  if longestName < label.length then throw .labelTooLong
  if !label.isComposed then throw .uncomposed
  if (label.drop 2).take 2 = Text.ofString "--" then throw .innerHyphens
  if label.head? = some (.scalar '-') ∨ label.getLast? = some (.scalar '-') then throw .outerHyphen
  if label.head?.any CodePoint.isMark then throw .leadingMark
  checkCodePoints label [] label
  (checkDirections label).mapError .direction

/-- What stands in front of a label in ASCII that stands for one beyond it. -/
def asciiMark : Text := "xn--"

/-- The label, in the form in which it is read, of a label in ASCII. -/
def readLabel (label : Text) : Except Fault Text := do
  let small := label.lowerAscii
  match Text.dropStart? asciiMark small with
  | none =>
    checkLabel small
    return small
  | some [] => throw .nothingMarked
  | some digits =>
    if digits.getLast? = some (.scalar '-') then throw .hyphenAfterMark
    match Punycode.decode? digits with
    | none => throw .undecodable
    | some whole =>
      checkLabel whole
      return whole

/-- A label in ASCII. -/
def writeLabel (label : Text) : Except Fault Text := do
  let written ←
    if label.all CodePoint.isAscii then do
      let _ ← readLabel label
      pure label
    else do
      checkLabel label
      pure (asciiMark ++ Punycode.encode label)
  if longestLabel < written.length then throw .labelTooLong
  return written

end DemurrageToken.DomainName
