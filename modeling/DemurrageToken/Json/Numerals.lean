import DemurrageToken.Json.Display
import DemurrageToken.Text.Integer
import DemurrageToken.Text.Utf8
/-!
Integers with too many digits. A value that holds one is not written at all, be it as JSON text or
as readable text.
-/
namespace DemurrageToken.Json

mutual

/-- Whether every integer in a value, at any depth, has few enough digits to be written. -/
def hasNumerals : Json → Bool
  | int n => Text.hasNumeral n
  | array xs => elementsHaveNumerals xs
  | object ms => membersHaveNumerals ms
  | _ => true

def elementsHaveNumerals : List Json → Bool
  | [] => true
  | x :: xs => hasNumerals x && elementsHaveNumerals xs

def membersHaveNumerals : List (Text × Json) → Bool
  | [] => true
  | (_, x) :: ms => hasNumerals x && membersHaveNumerals ms

end

/-- Why a value is not written; the second reason excludes the first. -/
inductive Unwritable where
  /-- An integer has too many digits. -/
  | tooManyDigits
  /-- The text has no UTF-8. -/
  | surrogates (run : Utf8.SurrogateRun)
deriving DecidableEq

def Unwritable.message : Unwritable → Text
  | tooManyDigits => Text.numeralLimitMessage
  | surrogates run => run.message

/-- The readable text of a value, if it has one. -/
def readable (v : Json) : Except Unwritable Text :=
  if v.hasNumerals then .ok v.display else .error .tooManyDigits

end DemurrageToken.Json
