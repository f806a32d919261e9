import DemurrageToken.Json.Reader
import DemurrageToken.Proofs.Entries

/-! The grammar of JSON text, as relations between a text and what it stands
for. Nothing here reads: a derivation says how a text is put together from
smaller ones, and a text may be cut up in any way that the rules allow. Only
the type of string pieces is shared with the reader. -/
namespace DemurrageToken.Json.Grammar

/-- Any number of spaces, tabs, line feeds and carriage returns. -/
def Blank (t : Text) : Prop := ∀ c ∈ t, c ∈ Text.ofString " \t\n\r"

/-! ### Strings -/

/-- A hexadecimal digit in either case. -/
def HexDigit (c : CodePoint) (n : Nat) : Prop :=
  n < 16 ∧ (c = .scalar n.digitChar ∨ c = .scalar n.digitChar.toUpper)

/-- The letters that a backslash may stand before, and what the two mean. -/
def shortEscapes : List (Char × Char) :=
  [('"', '"'), ('\\', '\\'), ('/', '/'), ('b', '\x08'), ('f', '\x0c'), ('n', '\n'), ('r', '\r'),
    ('t', '\t')]

/-- What stands between the quotes of a string. Controls, the quote and the
backslash do not stand for themselves. -/
inductive Spelling : Text → List Piece → Prop where
  | nil : Spelling [] []
  | plain {c : CodePoint} {t : Text} {ps : List Piece} (hControl : 0x20 ≤ c.val)
      (hQuote : c ≠ .scalar '"') (hBackslash : c ≠ .scalar '\\') (rest : Spelling t ps) :
      Spelling (c :: t) (.plain c :: ps)
  | short {letter meaning : Char} {t : Text} {ps : List Piece}
      (h : (letter, meaning) ∈ shortEscapes) (rest : Spelling t ps) :
      Spelling (.scalar '\\' :: .scalar letter :: t) (.plain (.scalar meaning) :: ps)
  | unit {c₁ c₂ c₃ c₄ : CodePoint} {n₁ n₂ n₃ n₄ : Nat} {t : Text} {ps : List Piece}
      (h₁ : HexDigit c₁ n₁) (h₂ : HexDigit c₂ n₂) (h₃ : HexDigit c₃ n₃) (h₄ : HexDigit c₄ n₄)
      (rest : Spelling t ps) :
      Spelling (.scalar '\\' :: .scalar 'u' :: c₁ :: c₂ :: c₃ :: c₄ :: t)
        (.unit (n₁ * 0x1000 + n₂ * 0x100 + n₃ * 0x10 + n₄) :: ps)

def IsHigh (unit : Nat) : Prop := 0xD800 ≤ unit ∧ unit ≤ 0xDBFF

def IsLow (unit : Nat) : Prop := 0xDC00 ≤ unit ∧ unit ≤ 0xDFFF

/-- The text of pieces. From left to right, a high surrogate unit directly
before a low one makes one character with it; every other unit is the code
point of its number, which may be a lone surrogate. -/
inductive Joined : List Piece → Text → Prop where
  | nil : Joined [] []
  | plain {c : CodePoint} {ps : List Piece} {s : Text} (rest : Joined ps s) :
      Joined (.plain c :: ps) (c :: s)
  | pair {high low : Nat} {ps : List Piece} {s : Text} (hHigh : IsHigh high) (hLow : IsLow low)
      (rest : Joined ps s) :
      Joined (.unit high :: .unit low :: ps)
        (CodePoint.ofNat (0x10000 + (high - 0xD800) * 0x400 + (low - 0xDC00)) :: s)
  | alone {n : Nat} {ps : List Piece} {s : Text}
      (hAlone : ∀ low more, ps = .unit low :: more → ¬(IsHigh n ∧ IsLow low))
      (rest : Joined ps s) :
      Joined (.unit n :: ps) (CodePoint.ofNat n :: s)

/-- A string in its quotes. -/
inductive Quoted : Text → Text → Prop where
  | mk {t : Text} {ps : List Piece} {s : Text} (spelling : Spelling t ps) (joined : Joined ps s) :
      Quoted (.scalar '"' :: (t ++ [.scalar '"'])) s

/-! ### Numbers -/

/-- One decimal digit or more. -/
def Digits (ds : List Char) : Prop := ds ≠ [] ∧ ∀ d ∈ ds, d.isDigit = true

/-- A single zero, or digits that begin with another one. -/
def Whole (ds : List Char) : Prop := ds = ['0'] ∨ Digits ds ∧ ds.head? ≠ some '0'

def sign (negative : Bool) : Text := if negative then [.scalar '-'] else []

def signed (negative : Bool) (size : Nat) : Int := if negative then -(size : Int) else size

/-- Nothing, or a point and the digits after it. -/
inductive Fraction : Text → List Char → Prop where
  | absent : Fraction [] []
  | digits {ds : List Char} (h : Digits ds) : Fraction (.scalar '.' :: Text.ofChars ds) ds

inductive PowerSign : Text → Bool → Prop where
  | absent : PowerSign [] false
  | plus : PowerSign [.scalar '+'] false
  | minus : PowerSign [.scalar '-'] true

/-- Nothing, or a mark, an optional sign and the digits of a power of ten. -/
inductive Power : Text → Option Int → Prop where
  | absent : Power [] none
  | digits {mark : Char} {s : Text} {negative : Bool} {ds : List Char}
      (hMark : mark = 'e' ∨ mark = 'E') (hSign : PowerSign s negative) (h : Digits ds) :
      Power (.scalar mark :: (s ++ Text.ofChars ds))
        (some (signed negative (Nat.ofDigitChars 10 ds 0)))

/-- A number without fraction and power is an integer, of a bounded number of
digits; any other is the binary64 number nearest to its decimal. -/
inductive Number : Text → Json → Prop where
  | integer {negative : Bool} {whole : List Char} (hWhole : Whole whole)
      (hLimit : whole.length ≤ Text.integerDigitLimit) :
      Number (sign negative ++ Text.ofChars whole)
        (.int (signed negative (Nat.ofDigitChars 10 whole 0)))
  | float {negative : Bool} {whole fraction : List Char} {f p : Text} {power? : Option Int}
      (hWhole : Whole whole) (hFraction : Fraction f fraction) (hPower : Power p power?)
      (hFloat : fraction ≠ [] ∨ power? ≠ none) :
      Number (sign negative ++ Text.ofChars whole ++ f ++ p)
        (.float (Binary64.ofDecimal negative
          ⟨Nat.ofDigitChars 10 (whole ++ fraction) 0, power?.getD 0 - fraction.length⟩))

/-! ### Values -/

/-- The values that are written as words. -/
inductive Word : Text → Json → Prop where
  | null : Word "null" .null
  | true : Word "true" (.bool true)
  | false : Word "false" (.bool false)
  | nan : Word "NaN" (.float .nan)
  | infinity : Word "Infinity" (.float (.infinite false))
  | negativeInfinity : Word "-Infinity" (.float (.infinite true))

/-- One item or more, a comma between neighbours, blanks around the comma and
after the last item. -/
inductive Series {α : Type} (Item : Text → α → Prop) : Text → List α → Prop where
  | last {t b : Text} {x : α} (item : Item t x) (blank : Blank b) : Series Item (t ++ b) [x]
  | more {t b b' u : Text} {x : α} {xs : List α} (item : Item t x) (before : Blank b)
      (after : Blank b') (rest : Series Item u xs) :
      Series Item (t ++ b ++ .scalar ',' :: (b' ++ u)) (x :: xs)

/-- A name, a colon and a value. -/
inductive Member (Item : Text → Json → Prop) : Text → Text × Json → Prop where
  | mk {k b b' t name : Text} {v : Json} (quoted : Quoted k name) (before : Blank b)
      (after : Blank b') (item : Item t v) :
      Member Item (k ++ b ++ .scalar ':' :: (b' ++ t)) (name, v)

/-- The object of members that may repeat a name: a name keeps its first
place and takes its last value. -/
structure Merged (ms table : List (Text × Json)) : Prop where
  names : table.map Prod.fst = (ms.map Prod.fst).eraseDups
  values : ∀ name, table.lookup name = ms.reverse.lookup name

/-- Merging has one result, the table that entering the members in order gives. -/
theorem merged_iff {ms table : List (Text × Json)} :
    Merged ms table ↔ table = Entries.ofList ms := by
  constructor
  · rintro ⟨hNames, hValues⟩
    rw [← Entries.names_ofList] at hNames
    refine Entries.eq_of_lookup hNames (hNames ▸ Entries.nodup_names_ofList ms) fun name => ?_
    rw [hValues, Entries.lookup_ofList]
  · rintro rfl
    exact ⟨Entries.names_ofList ms, Entries.lookup_ofList ms⟩

inductive Value : Text → Json → Prop where
  | word {t : Text} {v : Json} (h : Word t v) : Value t v
  | number {t : Text} {v : Json} (h : Number t v) : Value t v
  | string {t s : Text} (h : Quoted t s) : Value t (.string s)
  | emptyArray {b : Text} (blank : Blank b) :
      Value (.scalar '[' :: (b ++ [.scalar ']'])) (.array [])
  | array {b t : Text} {vs : List Json} (blank : Blank b) (elements : Series Value t vs) :
      Value (.scalar '[' :: (b ++ t ++ [.scalar ']'])) (.array vs)
  | emptyObject {b : Text} (blank : Blank b) :
      Value (.scalar '\x7b' :: (b ++ [.scalar '\x7d'])) (.object [])
  | object {b t : Text} {ms table : List (Text × Json)} (blank : Blank b)
      (members : Series (Member Value) t ms) (merged : Merged ms table) :
      Value (.scalar '\x7b' :: (b ++ t ++ [.scalar '\x7d'])) (.object table)

/-- A whole text: one value, and nothing but blanks around it. -/
inductive Document : Text → Json → Prop where
  | mk {b t b' : Text} {v : Json} (before : Blank b) (value : Value t v) (after : Blank b') :
      Document (b ++ t ++ b') v

end DemurrageToken.Json.Grammar
