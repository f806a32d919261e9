import DemurrageToken.Binary64.Style
import DemurrageToken.Json.Basic
import DemurrageToken.Text.Wide
/-!
JSON text. A style decides what stands between the tokens and which characters are escaped; all
styles write the same tokens, and members in the order of the object.
-/
namespace DemurrageToken.Json

/-- The decisions of a JSON format. -/
structure Style where
  /-- Whether everything beyond printable ASCII is escaped. -/
  ascii : Bool
  /-- What follows an element that is not the last one. -/
  comma : Text
  /-- What follows the name of a member. -/
  colon : Text
  /-- With an indent, each element has a line of its own, moved right by that many spaces for each
  level. -/
  indent : Option Nat

namespace Style

/-- The form in which payloads and queries travel: no spaces, only what must be escaped is. -/
def canonical : Style := ⟨false, ",", ":", none⟩

/-- No spaces, and ASCII only. -/
def portable : Style := ⟨true, ",", ":", none⟩

/-- One line with a space after each comma and colon, ASCII only. -/
def spaced : Style := ⟨true, ", ", ": ", none⟩

/-- Two spaces for each level. -/
def indented : Style := ⟨false, ",", ": ", some 2⟩

/-- The end of a line and the indent of the next one, at a level. -/
def lineBreak (style : Style) (level : Nat) : Text :=
  match style.indent with
  | none => []
  | some width => .scalar '\n' :: List.replicate (width * level) (.scalar ' ')

end Style

/-- Numbers have the fewest digits that identify them. They are positional from 10^(-4) on and
below 10^16, and otherwise have an exponent of at least two digits. -/
def numberStyle : Binary64.Style := ⟨-4, 16, 2, "NaN", "Infinity"⟩

def unicodeEscape (unit : Nat) : Text := "\\u" ++ Text.hex 4 unit

/-- One code point between the quotes of a string. -/
def escape (ascii : Bool) (c : CodePoint) : Text :=
  if c = .scalar '"' then "\\\""
  else if c = .scalar '\\' then "\\\\"
  else if c = .scalar '\n' then "\\n"
  else if c = .scalar '\r' then "\\r"
  else if c = .scalar '\t' then "\\t"
  else if c = .scalar '\x0c' then "\\f"
  else if c = .scalar '\x08' then "\\b"
  else if c.val < 0x20 then unicodeEscape c.val
  else if !ascii || c.val ≤ 0x7E then [c]
  else if c.val < 0x10000 then unicodeEscape c.val
  else
    let (high, low) := Wide.splitSurrogates c.val
    unicodeEscape high ++ unicodeEscape low

def writeString (ascii : Bool) (t : Text) : Text :=
  .scalar '"' :: (t.flatMap (escape ascii) ++ [.scalar '"'])

/-- Brackets around parts that are written already. No parts leave the brackets empty. -/
def bracket (style : Style) (level : Nat) (opening closing : Char) (parts : List Text) : Text :=
  match parts with
  | [] => [.scalar opening, .scalar closing]
  | _ =>
    let inner := style.lineBreak (level + 1)
    .scalar opening :: (inner ++ Text.join (style.comma ++ inner) parts ++ style.lineBreak level
      ++ [.scalar closing])

mutual

/-- The text of a value at a level of nesting. -/
def writeAt (style : Style) (level : Nat) : Json → Text
  | null => "null"
  | bool true => "true"
  | bool false => "false"
  | int n => Text.ofInt n
  | float x => x.write numberStyle
  | string t => writeString style.ascii t
  | array xs => bracket style level '[' ']' (writeElements style (level + 1) xs)
  | object ms => bracket style level '{' '}' (writeMembers style (level + 1) ms)

def writeElements (style : Style) (level : Nat) : List Json → List Text
  | [] => []
  | x :: xs => writeAt style level x :: writeElements style level xs

def writeMembers (style : Style) (level : Nat) : List (Text × Json) → List Text
  | [] => []
  | (name, x) :: ms =>
    (writeString style.ascii name ++ style.colon ++ writeAt style level x)
      :: writeMembers style level ms

end

def write (style : Style) (v : Json) : Text := writeAt style 0 v

/-- The text that is hashed, embedded and sent: compact, in the order of insertion, with
characters beyond ASCII as they are. -/
def canonical (v : Json) : Text := write .canonical v

end DemurrageToken.Json
