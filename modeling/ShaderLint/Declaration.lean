/-
The two declarations a source makes about itself: its shader type and its entry point.

Both have one form, a keyword, a name and a closing mark, as in `shader_type sky;` and `void sky(`.
Blanks, line breaks included, separate the keyword from the name and may stand before the mark, and
the keyword may not be the tail of a longer word. The first place in the source where the form is
complete decides, comments not excepted; an attempt that fails half-way, as in `shader_type a b;`,
is passed over and the search goes on one character further.

Blanks and word characters are disjoint, so at any one place there is at most one way to read the
form, and reading the longest runs finds it.
-/
import ShaderLint.Dialect
import ShaderLint.Text.Word

set_option autoImplicit false

namespace ShaderLint

open Text

/-- The form of a declaration. -/
structure Declaration where
  /-- The word that opens it. -/
  keyword : String
  /-- The mark that completes it. -/
  mark : Char
  /-- Which names may stand in it. -/
  admits : String → Bool

namespace Declaration

/-- `shader_type NAME ;`, for any name. -/
def shaderType : Declaration := ⟨"shader_type", ';', fun _ => true⟩

/-- `void NAME (`, for the entry points of the dialect. -/
def entryPoint : Declaration := ⟨"void", '(', Dialect.entryPoints.contains⟩

/-- The name, if the declaration stands at the front of the text. -/
def read? (d : Declaration) (cs : List Char) : Option String := do
  let name := String.ofList (← named? d.mark (← after? d.keyword.toList cs))
  if d.admits name then some name else none

/-- Whether a keyword may begin after a character, or after none. -/
def boundary (before : Option Char) : Bool := !before.any isWord

/-- The first declaration in what is left of a source, given the character before it. -/
def search (d : Declaration) (before : Option Char) : List Char → Option String
  | [] => none
  | c :: cs =>
    match d.read? (c :: cs) with
    | some name =>
      -- the tail of a longer word is no keyword, and another place may still be right
      if boundary before then some name else d.search (some c) cs
    | none => d.search (some c) cs

/-- The name in the first declaration of this form in a source: `_first_capture`. -/
def find? (d : Declaration) (source : List Char) : Option String := d.search none source

end Declaration

end ShaderLint
