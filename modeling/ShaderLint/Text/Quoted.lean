/-
Texts as they are shown inside a message: in quotes, on one line, and not too long.

The quote is the apostrophe, or the double quote where the text holds an apostrophe and no double
quote; so at most one kind of quote ever needs a backslash. Line feeds, carriage returns, tabs and
backslashes have short escapes, other characters that do not print are shown by number with two,
four or eight digits, and everything else stands for itself. A shown text of more than fifty bytes
keeps its beginning and its end, cut between characters.
-/
import ShaderLint.Text.Hex
import ShaderLint.Text.Interval
import ShaderLint.Text.PrintableTable

set_option autoImplicit false

namespace ShaderLint.Text

/-- Whether a character can be shown as it is. -/
def isPrintable (c : Char) : Bool :=
  if c.toNat < 0x80 then 0x20 ≤ c.toNat && c.toNat < 0x7F
  else inIntervals printableIntervals c.toNat

/-- The quote that goes around a text. -/
def quoteFor (cs : List Char) : Char :=
  if cs.contains '\'' && !cs.contains '"' then '"' else '\''

/-- One character between quotes. -/
def quotedChar (quote c : Char) : List Char :=
  if c = quote ∨ c = '\\' then ['\\', c]
  else if c = '\n' then ['\\', 'n']
  else if c = '\r' then ['\\', 'r']
  else if c = '\t' then ['\\', 't']
  else if isPrintable c then [c]
  else if c.toNat < 0x100 then '\\' :: 'x' :: hexDigits 2 c.toNat
  else if c.toNat < 0x10000 then '\\' :: 'u' :: hexDigits 4 c.toNat
  else '\\' :: 'U' :: hexDigits 8 c.toNat

def quoted (cs : List Char) : List Char :=
  let quote := quoteFor cs
  quote :: (cs.flatMap (quotedChar quote) ++ [quote])

/-! ## Cutting to fifty bytes -/

/-- As many characters from the front as fit into `budget` bytes. -/
def fitBytes (budget : Nat) : List Char → List Char
  | [] => []
  | c :: cs => if c.utf8Size ≤ budget then c :: fitBytes (budget - c.utf8Size) cs else []

/-- Number of bytes of a text. -/
def byteCount (cs : List Char) : Nat := cs.foldl (fun n c => n + c.utf8Size) 0

/-- The longest a shown value may be, in bytes. -/
def shownLimit : Nat := 50

/-- How many bytes are kept of the beginning of a value that is too long. -/
def shownHead : Nat := 25

/-- How many bytes are kept of the end of a value that is too long. -/
def shownTail : Nat := 24

/-- A shown value, its middle replaced by three points if it is too long. A character that would be
cut in two is left out. -/
def abbreviated (cs : List Char) : List Char :=
  if byteCount cs ≤ shownLimit then cs
  else fitBytes shownHead cs ++ ['.', '.', '.'] ++ (fitBytes shownTail cs.reverse).reverse

end ShaderLint.Text
