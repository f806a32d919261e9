import DemurrageToken.Binary64.Style
import DemurrageToken.Json.Basic
import DemurrageToken.Text.Quoted
/-!
The readable text of a value, as amounts, log lines and error reports show it. It is not JSON:
a string stands for itself, and strings inside other values are quoted. An integer stands in all
its digits, however many there are.
-/
namespace DemurrageToken.Json

/-- As in JSON, but with small words for the values that are no decimals. -/
def displayNumberStyle : Binary64.Style := ⟨-4, 16, 2, "nan", "inf"⟩

mutual

/-- A value as a part of another one. -/
def displayPart : Json → Text
  | null => "None"
  | bool true => "True"
  | bool false => "False"
  | int n => Text.ofInt n
  | float x => x.write displayNumberStyle
  | string t => t.quoted
  | array xs => .scalar '[' :: (Text.join ", " (displayElements xs) ++ [.scalar ']'])
  | object ms => .scalar '{' :: (Text.join ", " (displayMembers ms) ++ [.scalar '}'])

def displayElements : List Json → List Text
  | [] => []
  | x :: xs => displayPart x :: displayElements xs

def displayMembers : List (Text × Json) → List Text
  | [] => []
  | (name, x) :: ms => (name.quoted ++ ": " ++ displayPart x) :: displayMembers ms

end

/-- The text of a value that stands alone: a string is its own text. -/
def display : Json → Text
  | string t => t
  | v => displayPart v

/-- The word for the kind of a value. -/
def kindName : Json → Text
  | null => "NoneType"
  | bool _ => "bool"
  | int _ => "int"
  | float _ => "float"
  | string _ => "str"
  | array _ => "list"
  | object _ => "dict"

end DemurrageToken.Json
