/-
Word characters, and the small steps that read words and blanks.

A word character is a letter, a number or the low line, over all of Unicode; the ASCII part is
decided by comparison and the rest by the table. No word character is blank, which is why a run of
the one always ends where a run of the other may begin: reading the longest run is never a wrong
choice, and nothing here ever has to go back.
-/
import ShaderLint.Text.Blank
import ShaderLint.Text.Interval
import ShaderLint.Text.WordTable

set_option autoImplicit false

namespace ShaderLint.Text

/-- A letter, a number or the low line. -/
def isWord (c : Char) : Bool :=
  if c.toNat < 0x80 then c.isAlphanum || c == '_' else inIntervals wordIntervals c.toNat

/-! ## Reading from the front

Each of these takes the text that is left and gives back what is left after the step, or nothing
where the step does not apply. -/

/-- What follows `lead`, if the text begins with it. -/
def after? : (lead cs : List Char) → Option (List Char)
  | [], cs => some cs
  | _ :: _, [] => none
  | l :: ls, c :: cs => if l = c then after? ls cs else none

/-- What follows a run of blanks, which may not be empty. -/
def afterBlanks? : List Char → Option (List Char)
  | [] => none
  | c :: cs => if isBlank c then some (trimStart cs) else none

/-- A word that may not be empty, with what follows it. -/
def word? (cs : List Char) : Option (List Char × List Char) :=
  match cs.takeWhile isWord with
  | [] => none
  | w :: ws => some (w :: ws, cs.dropWhile isWord)

/-- Whether `mark` stands at the front, blanks before it aside. -/
def opensWith (mark : Char) (cs : List Char) : Bool := (trimStart cs).head? == some mark

/-- A word between blanks and an opening mark, as in the ` name (` of a function header: blanks,
the word, blanks or none, the mark. -/
def named? (mark : Char) (cs : List Char) : Option (List Char) := do
  let (name, rest) ← word? (← afterBlanks? cs)
  if opensWith mark rest then some name else none

end ShaderLint.Text
