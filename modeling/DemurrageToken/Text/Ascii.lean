import DemurrageToken.Text.Basic
/-!
Texts that have to be ASCII.
-/
namespace DemurrageToken.Text

/-- The first maximal run of code points beyond ASCII in a text: the position of the run, its first
code point and its length. -/
structure RunBeyondAscii where
  position : Nat
  first : CodePoint
  length : Nat
deriving DecidableEq

/-- The first maximal run beyond ASCII, positions counted from the given one. -/
def runBeyondAscii? (position : Nat) : Text → Option RunBeyondAscii
  | [] => none
  | c :: rest =>
    if c.isAscii then runBeyondAscii? (position + 1) rest
    else some ⟨position, c, ((c :: rest).takeWhile fun d => !d.isAscii).length⟩

def RunBeyondAscii.message (r : RunBeyondAscii) : Text :=
  let n := r.first.val
  let number : Text :=
    if n < 0x100 then "\\x" ++ hex 2 n
    else if n < 0x10000 then "\\u" ++ hex 4 n
    else "\\U" ++ hex 8 n
  let place : Text :=
    if r.length = 1 then "character '" ++ number ++ "' in position " ++ ofNat r.position
    else
      "characters in position " ++ ofNat r.position ++ "-" ++ ofNat (r.position + r.length - 1)
  "'ascii' codec can't encode " ++ place ++ ": ordinal not in range(128)"

end DemurrageToken.Text
