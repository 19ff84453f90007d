/-
The byte-order mark.

A text that comes from a file or over a wire may begin with a mark that tells how its bytes are
ordered. It is no part of the text. Only the first character can be that mark; a second one after
it is an ordinary character.
-/

set_option autoImplicit false

namespace ShaderLint.Text

/-- A text without the byte-order mark at its beginning. -/
def withoutMark : List Char → List Char
  | c :: rest => if c = '\uFEFF' then rest else c :: rest
  | [] => []

end ShaderLint.Text
