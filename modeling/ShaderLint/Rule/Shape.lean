/-
The shapes of lines.

One test per shape, on the characters of a line. They are meant for lines without comments and
without blanks at either end, but each gives an answer for any text at all, line breaks included,
and the documentation of each says exactly which texts it accepts.
-/
import ShaderLint.Dialect
import ShaderLint.Text.Word

set_option autoImplicit false

namespace ShaderLint.Shape

open Text

/-! ## Shapes told by the beginning -/

/-- Begins with a number sign, or with a directive keyword and a blank. -/
def directive (cs : List Char) : Bool :=
  cs.head? == some '#' ||
    Dialect.directiveKeywords.any fun keyword =>
      ((after? keyword.toList cs).bind afterBlanks?).isSome

/-- What follows a phrase, in which a space stands for a run of blanks that is not empty. -/
def afterPhrase? : (phrase cs : List Char) → Option (List Char)
  | [], cs => some cs
  | p :: ps, cs =>
    if p = ' ' then (afterBlanks? cs).bind (afterPhrase? ps)
    else match cs with
      | [] => none
      | c :: cs => if p = c then afterPhrase? ps cs else none

/-- Begins with a control-flow keyword, blanks or none, and a parenthesis; or is the word `else`
alone, which a line feed may follow. -/
def controlFlow (cs : List Char) : Bool :=
  (Dialect.controlFlowKeywords.any fun keyword =>
      (afterPhrase? keyword.toList cs).any (opensWith '('))
    || cs == "else".toList || cs == "else\n".toList

/-- Begins with `struct`, a name between blanks, and a brace. -/
def structOpener (cs : List Char) : Bool :=
  ((after? "struct".toList cs).bind (named? '{')).isSome

/-- Whether a function may return a type of this name. -/
def isReturnType (name : List Char) : Bool :=
  Dialect.returnTypes.any (·.toList == name)
    || Dialect.samplerStems.any fun stem => (after? stem.toList name).isSome

/-- Begins with a return type, a name between blanks, and a parenthesis. -/
def functionHeader (cs : List Char) : Bool :=
  match word? cs with
  | some (type, rest) => isReturnType type && (named? '(' rest).isSome
  | none => false

/-! ## Shapes told by the end, or by the whole line -/

/-- Whether a text ends with another. -/
def endsWith (ending cs : List Char) : Bool := (after? ending.reverse cs.reverse).isSome

/-- Endings of lines that open, close or continue a block or a list. -/
def blockEndings : List String := ["\x7b", "\x7d", "\x7d;", ","]

/-- Ends with a brace, with a closed brace and a semicolon, or with a comma. -/
def blockDelimiter (cs : List Char) : Bool := blockEndings.any fun e => endsWith e.toList cs

/-- Is one brace, blanks aside. -/
def loneBrace (cs : List Char) : Bool :=
  match trimStart cs with
  | [] => false
  | c :: rest => (c == '{' || c == '}') && rest.all isBlank

/-! ## Shapes told by something inside -/

/-- Whether the equals sign between two characters before it and the character after it assigns: it
completes a shift, or it is no part of a comparison. -/
def assigns (before₂ before₁ after : Option Char) : Bool :=
  (before₂ == some '<' && before₁ == some '<') || (before₂ == some '>' && before₁ == some '>')
    || (!(before₁ == some '=' || before₁ == some '!' || before₁ == some '<' || before₁ == some '>')
      && after != some '=')

/-- Looks for an assignment in what is left, given the two characters before it. -/
def assignmentFrom (before₂ before₁ : Option Char) : List Char → Bool
  | [] => false
  | c :: cs =>
    if c = '=' && assigns before₂ before₁ cs.head? then true
    else assignmentFrom before₁ (some c) cs

/-- Holds an equals sign that assigns. -/
def assignment (cs : List Char) : Bool := assignmentFrom none none cs

/-- Looks for a word in what is left, given the character before it. -/
def wordFrom (word : List Char) (before : Option Char) : List Char → Bool
  | [] => false
  | c :: cs =>
    match after? word (c :: cs) with
    | some rest =>
      if !before.any isWord && !rest.head?.any isWord then true else wordFrom word (some c) cs
    | none => wordFrom word (some c) cs

/-- Holds the word `return`, as a word of its own. -/
def returnStatement (cs : List Char) : Bool := wordFrom "return".toList none cs

/-! A call: a word character, blanks or none, an opening parenthesis, anything on one line, and the
closing parenthesis that ends the text. -/

/-- What has been seen of a text that is searched for a call. -/
structure CallSearch where
  /-- The last character that is no blank. -/
  last : Option Char
  /-- Whether a parenthesis after a word character is open on the current line. -/
  opened : Bool

/-- One more character. -/
def CallSearch.feed (s : CallSearch) (c : Char) : CallSearch where
  last := if isBlank c then s.last else some c
  opened := c != '\n' && (s.opened || (c == '(' && s.last.any isWord))

/-- Ends, blanks aside, with a closing parenthesis, and a parenthesis that follows a word character
opens on the same line. -/
def callStatement (cs : List Char) : Bool :=
  match cs.reverse.dropWhile isBlank with
  | [] => false
  | c :: rest => c == ')' && (rest.reverse.foldl CallSearch.feed ⟨none, false⟩).opened

end ShaderLint.Shape
