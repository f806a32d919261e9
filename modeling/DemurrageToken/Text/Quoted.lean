import DemurrageToken.Text.Printable
/-!
A text in quotes on one printable line. Apostrophes stand around it, or double quotes where that
saves an escape; what is not printable is escaped by its number.
-/
namespace DemurrageToken.Text

/-- The quote for a text: an apostrophe, unless the text holds one and no double quote. -/
def quoteFor (t : Text) : CodePoint :=
  if t.contains (.scalar '\'') && !t.contains (.scalar '"') then .scalar '"' else .scalar '\''

/-- One code point between quotes. The number of what is not printable is written in the shortest
of the three forms. -/
def escapeFor (quote c : CodePoint) : Text :=
  if c = .scalar '\\' ∨ c = quote then ['\\', c]
  else if c = .scalar '\n' then "\\n"
  else if c = .scalar '\r' then "\\r"
  else if c = .scalar '\t' then "\\t"
  else if c.isPrintable then [c]
  else if c.val < 0x100 then "\\x" ++ hex 2 c.val
  else if c.val < 0x10000 then "\\u" ++ hex 4 c.val
  else "\\U" ++ hex 8 c.val

def quoted (t : Text) : Text :=
  let quote := quoteFor t
  quote :: (t.flatMap (escapeFor quote) ++ [quote])

end DemurrageToken.Text
