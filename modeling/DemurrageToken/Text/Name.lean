import DemurrageToken.Text.Basic
import DemurrageToken.Text.NameTable
/-!
Characters by name. Names of letters and symbols are in a table, those of Korean syllables are put
together from their sounds, and those of Chinese characters hold their numbers.
-/
namespace DemurrageToken.CodePoint

/-! ### The table -/

/-- The words of a name that follows another one in a run. -/
def nameWords (before : List Text) (entry : Text) : List Text :=
  match entry with
  | [] => []
  | c :: rest =>
    if 49 ≤ c.val ∧ c.val ≤ 57 then
      before.take (c.val - 48) ++ if rest = [] then [] else List.splitOn (.scalar ' ') rest
    else List.splitOn (.scalar ' ') entry

/-- The words of all names in a run. -/
def runWords (before : List Text) : List Text → List (List Text)
  | [] => []
  | entry :: rest =>
    let words := nameWords before entry
    words :: runWords (if words = [] then before else words) rest

/-- The character that the table gives to a name in upper case. -/
def listed? (name : Text) : Option CodePoint :=
  let words := List.splitOn (.scalar ' ') name
  let inRuns := nameRuns.findSome? fun (first, names) =>
    ((runWords [] (List.splitOn (.scalar ';') (Text.ofString names))).idxOf? words).map (first + ·)
  let further := (aliases.find? fun (other, _) => Text.ofString other = name).map Prod.snd
  (inRuns <|> further).map ofNat

/-! ### Syllables and ideographs -/

def leadingSounds : List String :=
  ["G", "GG", "N", "D", "DD", "R", "M", "B", "BB", "S", "SS", "", "J", "JJ", "C", "K", "T", "P",
    "H"]

def vowelSounds : List String :=
  ["A", "AE", "YA", "YAE", "EO", "E", "YEO", "YE", "O", "WA", "WAE", "OE", "YO", "U", "WEO", "WE",
    "WI", "YU", "EU", "YI", "I"]

def trailingSounds : List String :=
  ["", "G", "GG", "GS", "N", "NJ", "NH", "D", "L", "LG", "LM", "LB", "LS", "LT", "LP", "LH", "M",
    "B", "BS", "S", "SS", "NG", "J", "C", "K", "T", "P", "H"]

/-- The place of the longest sound that a text begins with, and the rest of the text. -/
def longestSound? (sounds : List String) (t : Text) : Option (Nat × Text) :=
  let found := sounds.zipIdx.filterMap fun (sound, index) =>
    (Text.dropStart? (Text.ofString sound) t).map fun rest => (index, rest)
  found.foldl (fun best next =>
    match best with
    | none => some next
    | some b => if next.2.length < b.2.length then some next else best) none

/-- The syllable of some sounds. -/
def ofSounds? (sounds : Text) : Option CodePoint := do
  let (leading, rest) ← longestSound? leadingSounds sounds
  let (vowel, rest) ← longestSound? vowelSounds rest
  let (trailing, rest) ← longestSound? trailingSounds rest
  if rest = [] then return ofNat (0xAC00 + (leading * 21 + vowel) * 28 + trailing) else none

/-- The ideographs that are named by their numbers. -/
def ideographRanges : List (Nat × Nat) :=
  [(0x3400, 0x4DBF), (0x4E00, 0x9FFF), (0x20000, 0x2A6DF), (0x2A700, 0x2B738), (0x2B740, 0x2B81D),
    (0x2B820, 0x2CEA1), (0x2CEB0, 0x2EBE0), (0x30000, 0x3134A)]

def upperHexDigit? (c : CodePoint) : Option Nat :=
  if 48 ≤ c.val ∧ c.val ≤ 57 then some (c.val - 48)
  else if 65 ≤ c.val ∧ c.val ≤ 70 then some (c.val - 55)
  else none

/-- The ideograph with a number of four or five hexadecimal digits. -/
def ideograph? (digits : Text) : Option CodePoint := do
  if digits.length ≠ 4 ∧ digits.length ≠ 5 then none
  let n ← digits.foldlM (fun n c => (upperHexDigit? c).map (n * 16 + ·)) 0
  if (ofNat n).isWithin ideographRanges then return ofNat n else none

/-- The character of a name. Only in names from the table does the case not count. -/
def ofName? (name : Text) : Option CodePoint :=
  match Text.dropStart? "HANGUL SYLLABLE " name, Text.dropStart? "CJK UNIFIED IDEOGRAPH-" name with
  | some sounds, _ => ofSounds? sounds
  | none, some digits => ideograph? digits
  | none, none =>
    listed? (name.map fun
      | .scalar c => .scalar c.toUpper
      | .surrogate i => .surrogate i)

end DemurrageToken.CodePoint
