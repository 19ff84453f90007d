/-
Comments, taken out of one line at a time.

The stripper, `strip_comments`, reads a line once, character by character, and never looks ahead:
where a token may have begun (a slash in code, a star in a block comment) it remembers just that,
and the next character decides. What a line needs to know of the lines before it is whether a block comment is
open, and that is all it hands to the next one; a line comment ends with its line.

The two halves of an opening token are both consumed, so `/*/` opens a comment and leaves it open,
and in `//*` the line comment comes first.
-/

set_option autoImplicit false

namespace ShaderLint.Comment

/-- Where the reader stands between two characters. -/
inductive Mode where
  /-- In code. -/
  | code
  /-- In code, directly after a slash that is not written out yet. -/
  | slash
  /-- In a line comment. -/
  | line
  /-- In a block comment. -/
  | block
  /-- In a block comment, directly after a star. -/
  | star
  deriving DecidableEq, Repr

/-- Where the reader stands before the first character of a line. -/
def Mode.entering (inBlock : Bool) : Mode := if inBlock then .block else .code

/-- Where the reader stands after a character. -/
def Mode.next (mode : Mode) (c : Char) : Mode :=
  match mode with
  | .code => if c = '/' then .slash else .code
  | .slash => if c = '/' then .line else if c = '*' then .block else .code
  | .line => .line
  | .block => if c = '*' then .star else .block
  | .star => if c = '/' then .code else if c = '*' then .star else .block

/-- What a character adds to the code. A slash is written out once the next character shows that it
opens no comment. -/
def Mode.adds (mode : Mode) (c : Char) : List Char :=
  match mode with
  | .code => if c = '/' then [] else [c]
  | .slash => if c = '/' ∨ c = '*' then [] else ['/', c]
  | .line | .block | .star => []

/-- What the end of the line adds to the code. -/
def Mode.rest : Mode → List Char
  | .slash => ['/']
  | .code | .line | .block | .star => []

/-- Whether a block comment is open. -/
def Mode.inBlock : Mode → Bool
  | .block | .star => true
  | .code | .slash | .line => false

/-! ## Reading a line -/

/-- The reader: its mode, and the code read so far, backwards. -/
structure Reader where
  mode : Mode
  kept : List Char

/-- One character. -/
def Reader.feed (r : Reader) (c : Char) : Reader :=
  ⟨r.mode.next c, (r.mode.adds c).reverse ++ r.kept⟩

/-- The code of a line, and whether a block comment is open at its end. -/
structure Stripped where
  text : List Char
  inBlock : Bool
  deriving DecidableEq, Repr

/-- The end of the line. -/
def Reader.close (r : Reader) : Stripped :=
  ⟨(r.mode.rest.reverse ++ r.kept).reverse, r.mode.inBlock⟩

/-- Takes the comments out of one line, given whether a block comment is open before it:
`strip_comments`. -/
def strip (inBlock : Bool) (line : List Char) : Stripped :=
  (line.foldl Reader.feed ⟨.entering inBlock, []⟩).close

/-- The lines still to come, after those already stripped, which stand backwards. -/
def stripFrom (done : List Stripped) (inBlock : Bool) : List (List Char) → List Stripped
  | [] => done.reverse
  | line :: lines =>
    let stripped := strip inBlock line
    stripFrom (stripped :: done) stripped.inBlock lines

/-- Takes the comments out of consecutive lines, each line handing on whether a block comment is
open. -/
def stripAll (inBlock : Bool) (lines : List (List Char)) : List Stripped :=
  stripFrom [] inBlock lines

end ShaderLint.Comment
