import DemurrageToken.Text.Blank
/-!
The text of a settings file: lines `NAME=value`, with comments, quotes and an optional `export`.
A line that does not parse is skipped from where reading stopped to its end.
-/
namespace DemurrageToken.Settings

/-- A name that a file binds. A name without `=` has no value. -/
structure Binding where
  name : Text
  value : Option Text
deriving DecidableEq

/-- Whether a code point ends a line. -/
def endsLine (c : CodePoint) : Bool := c = .scalar '\n' || c = .scalar '\r'

/-- The code points that a backslash may stand before, with what the two mean together. -/
abbrev Escapes := List (Char × Char)

def singleQuoteEscapes : Escapes := [('\\', '\\'), ('\'', '\'')]

def doubleQuoteEscapes : Escapes :=
  [('\\', '\\'), ('\'', '\''), ('"', '"'), ('a', '\x07'), ('b', '\x08'), ('f', '\x0c'),
    ('n', '\n'), ('r', '\r'), ('t', '\t'), ('v', '\x0b')]

/-- The text between quotes, with its escapes as they are, and what follows the closing quote. A
backslash keeps the code point after it from closing the text. -/
def quotedPart (quote : CodePoint) : Text → Option (Text × Text)
  | [] => none
  | c :: rest =>
    if c = quote then some ([], rest)
    else if c = .scalar '\\' then
      match rest with
      | [] => none
      | d :: more => (quotedPart quote more).map fun (part, left) => (c :: d :: part, left)
    else (quotedPart quote rest).map fun (part, left) => (c :: part, left)

/-- Replace the escapes from left to right. A backslash before anything else stays. -/
def unescape (escapes : Escapes) : Text → Text
  | c :: d :: rest =>
    if c = .scalar '\\' then
      match escapes.find? fun (letter, _) => d = .scalar letter with
      | some (_, meaning) => .scalar meaning :: unescape escapes rest
      | none => c :: unescape escapes (d :: rest)
    else c :: unescape escapes (d :: rest)
  | [c] => [c]
  | [] => []

/-- Cut a line before the first white space that a `#` follows. -/
def beforeComment : Text → Text
  | [] => []
  | c :: rest =>
    if c.isBlank && (rest.dropWhile CodePoint.isBlank).head? = some (.scalar '#') then []
    else c :: beforeComment rest

/-- The value after `=`, and what follows it; `spaced` tells whether white space stood between
the two. -/
def readValue (spaced : Bool) (t : Text) : Option (Text × Text) :=
  match t with
  | .scalar '\'' :: rest =>
    (quotedPart '\'' rest).map fun (part, left) => (unescape singleQuoteEscapes part, left)
  | .scalar '"' :: rest =>
    (quotedPart '"' rest).map fun (part, left) => (unescape doubleQuoteEscapes part, left)
  | _ =>
    if spaced && t.head? = some (.scalar '#') then some ([], t)
    else
      let (line, left) := t.span (!endsLine ·)
      some (Text.dropEndWhile CodePoint.isBlank (beforeComment line), left)

/-- The name that begins a line, and what follows it. -/
def readName (t : Text) : Option (Text × Text) :=
  match t with
  | .scalar '\'' :: rest =>
    match rest.span (· ≠ .scalar '\'') with
    | (name, _ :: left) => if name = [] then none else some (name, left)
    | (_, []) => none
  | _ =>
    let stops (c : CodePoint) : Bool := c = .scalar '=' || c = .scalar '#' || c.isBlank
    match t.span (!stops ·) with
    | ([], _) => none
    | found => some found

/-- Drop `export` with the white space after it, if there is some. -/
def skipExport (t : Text) : Text :=
  match Text.dropStart? "export" t with
  | some (c :: rest) => if c.isInnerBlank then rest.dropWhile CodePoint.isInnerBlank else t
  | _ => t

/-- Drop a comment and the end of the line. Nothing else may stand before the end. -/
def skipLineEnd (t : Text) : Option Text :=
  match t.dropWhile CodePoint.isInnerBlank with
  | [] => some []
  | c :: rest =>
    if c = .scalar '#' then some ((rest.dropWhile (!endsLine ·)).drop 1)
    else if endsLine c then some rest
    else none

/-- Drop the rest of a line and its end. -/
def skipLine (t : Text) : Text := (t.dropWhile (!endsLine ·)).drop 1

/-- The value of a name, if `=` follows it. Failing, it tells where reading stopped. -/
def readAssigned (t : Text) : Except Text (Option Text × Text) :=
  match t.dropWhile CodePoint.isInnerBlank with
  | .scalar '=' :: rest =>
    let start := rest.dropWhile CodePoint.isInnerBlank
    match readValue (start.length < rest.length) start with
    | some (value, left) => .ok (some value, left)
    | none => .error start
  | left => .ok (none, left)

/-- One line of a file that begins with no white space, and what follows it. A value in quotes can
make it several lines. -/
def readLine (t : Text) : Option Binding × Text :=
  let start := skipExport t
  let name? := if start.head? = some (.scalar '#') then some ([], start) else readName start
  match name? with
  | none => (none, skipLine start)
  | some (name, afterName) =>
    match readAssigned afterName with
    | .error stopped => (none, skipLine stopped)
    | .ok (value, afterValue) =>
      match skipLineEnd afterValue with
      | none => (none, skipLine afterValue)
      | some left => (if name = [] then none else some ⟨name, value⟩, left)

/-- The bindings of a text, at most one for each line up to a bound. -/
def bindingsWithin : Nat → Text → List Binding
  | 0, _ => []
  | bound + 1, t =>
    match t.dropWhile CodePoint.isBlank with
    | [] => []
    | start =>
      let (binding?, left) := readLine start
      binding?.toList ++ bindingsWithin bound left

/-- The bindings of a text in order. Each line takes at least one character. -/
def bindings (t : Text) : List Binding := bindingsWithin t.length t

end DemurrageToken.Settings
