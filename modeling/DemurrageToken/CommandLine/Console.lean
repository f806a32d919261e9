import DemurrageToken.Text.Utf8
/-!
The two outputs of a command line, and how it ends.
-/
namespace DemurrageToken.CommandLine

/-- What follows a terminal sequence at the front of a text: `ESC [`, parameters, intermediates and
one final character, each of a range of ASCII of its own. -/
def afterSequence? : Text → Option Text
  | .scalar '\x1b' :: .scalar '[' :: rest =>
    let isBetween (low high : Nat) (c : CodePoint) : Bool := low ≤ c.val && c.val ≤ high
    match (rest.dropWhile (isBetween 0x30 0x3F)).dropWhile (isBetween 0x20 0x2F) with
    | c :: left => if isBetween 0x40 0x7E c then some left else none
    | [] => none
  | _ => none

/-- A text without terminal sequences, after some code points that belong to one. -/
def stripSequencesAfter : Nat → Text → Text
  | _, [] => []
  | skip + 1, _ :: rest => stripSequencesAfter skip rest
  | 0, c :: rest =>
    match afterSequence? (c :: rest) with
    | some left => stripSequencesAfter (rest.length - left.length) rest
    | none => c :: stripSequencesAfter 0 rest

/-- A text without terminal sequences, which are for terminals only. -/
def stripSequences (t : Text) : Text := stripSequencesAfter 0 t

/-- A text for the error output: surrogates, which have no UTF-8, are named by their numbers. -/
def nameSurrogates (t : Text) : Text :=
  t.flatMap fun c => if c.isSurrogate then "\\u" ++ Text.hex 4 c.val else [c]

/-- The lines for the error output. -/
def errorText (lines : List Text) : Text :=
  lines.flatMap fun line => nameSurrogates (stripSequences line) ++ "\n"

/-- Write lines one after the other to the standard output. A line without UTF-8 stops the
writing, and what came before it stays written. -/
def writeLines : List Text → Text × Option Utf8.SurrogateRun
  | [] => ([], none)
  | line :: rest =>
    let shown := stripSequences line ++ "\n"
    match Utf8.surrogateRun? 0 shown with
    | some run => ([], some run)
    | none =>
      let (written, fault?) := writeLines rest
      (shown ++ written, fault?)

end DemurrageToken.CommandLine
