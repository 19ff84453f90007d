/-
Comments and lines, read in one pass over a whole source.

This is the account of comments that a reader of the dialect has in mind: one walk through the
source, line breaks included, that is in code, in a line comment or in a block comment, and takes
each opening and closing token at one go. It says what the line-by-line reader of `Comment` has to
agree with; nothing is computed with it.
-/
import ShaderLint.Classify

set_option autoImplicit false

namespace ShaderLint.Scan

/-- Where the walk stands. -/
inductive Mode where
  | code
  | line
  | block
  deriving DecidableEq, Repr

/-- Where the walk stands after a line feed: a line comment ends, a block comment goes on. -/
def Mode.nextLine : Mode → Mode
  | .block => .block
  | .code | .line => .code

/-- Puts a character at the front of the first line. -/
def keep (c : Char) : List (List Char) → List (List Char)
  | [] => [[c]]
  | first :: rest => (c :: first) :: rest

/-- The characters that are code, one list for each physical line. -/
def codeLines : Mode → List Char → List (List Char)
  | _, [] => [[]]
  | .code, '/' :: '*' :: cs => codeLines .block cs
  | .code, '/' :: '/' :: cs => codeLines .line cs
  | .block, '*' :: '/' :: cs => codeLines .code cs
  | mode, c :: cs =>
    if c = '\n' then [] :: codeLines mode.nextLine cs
    else match mode with
      | .code => keep c (codeLines .code cs)
      | .line | .block => codeLines mode cs

/-- The mode after a text. -/
def finalMode : Mode → List Char → Mode
  | mode, [] => mode
  | .code, '/' :: '*' :: cs => finalMode .block cs
  | .code, '/' :: '/' :: cs => finalMode .line cs
  | .block, '*' :: '/' :: cs => finalMode .code cs
  | mode, c :: cs => finalMode (if c = '\n' then mode.nextLine else mode) cs

/-- The statements of a source by this account. -/
def statements (source : String) : List Statement :=
  Statement.ofLines (codeLines .code source.toList)

end ShaderLint.Scan
