/-
Physical lines.

A line ends at a line feed, and a carriage return directly before the line feed belongs to the
break. Nothing else breaks a line: a carriage return on its own, a vertical tab, U+0085 and U+2028
stay inside. So there is one line more than there are line feeds, and every line number that is
ever reported counts these.
-/

set_option autoImplicit false

namespace ShaderLint.Text

/-- Takes a carriage return off the front. Lines are gathered backwards, so that is their end. -/
def dropReturn : List Char → List Char
  | c :: cs => if c = '\r' then cs else c :: cs
  | [] => []

/-- Splits what is left, given the finished lines and the current one, both backwards. -/
def splitLines (done : List (List Char)) (current : List Char) : List Char → List (List Char)
  | [] => (current.reverse :: done).reverse
  | c :: cs =>
    if c = '\n' then splitLines ((dropReturn current).reverse :: done) [] cs
    else splitLines done (c :: current) cs

/-- The physical lines of a text, without their breaks. -/
def lines (cs : List Char) : List (List Char) := splitLines [] [] cs

/-! ## Putting lines together -/

/-- The two ways to end a line. -/
inductive Break where
  | lineFeed
  | returnLineFeed
  deriving DecidableEq, Repr

/-- The characters of a break. -/
def Break.chars : Break → List Char
  | .lineFeed => ['\n']
  | .returnLineFeed => ['\r', '\n']

/-- A first line, and further lines with the break before each. -/
def joinLines (first : List Char) (rest : List (Break × List Char)) : List Char :=
  first ++ rest.flatMap fun (b, line) => b.chars ++ line

end ShaderLint.Text
