/-
Blank characters, and trimming them off.

One set serves everywhere: what separates the words of a declaration, what may stand between a name
and its opening parenthesis, and what is cut off both ends of a line. It is the white space of
Unicode together with the four information separators U+001C to U+001F. A zero-width space, a
byte-order mark and the Mongolian vowel separator are *not* blank.
-/

set_option autoImplicit false

namespace ShaderLint.Text

/-- White space and the information separators. -/
def isBlank (c : Char) : Bool :=
  let n := c.toNat
  (9 ≤ n && n ≤ 13) || (28 ≤ n && n ≤ 32) || n == 0x85 || n == 0xA0 || n == 0x1680
    || (0x2000 ≤ n && n ≤ 0x200A) || n == 0x2028 || n == 0x2029 || n == 0x202F || n == 0x205F
    || n == 0x3000

/-- Without the blanks it begins with. -/
def trimStart (cs : List Char) : List Char := cs.dropWhile isBlank

/-- Without the blanks it ends with. -/
def trimEnd (cs : List Char) : List Char := (cs.reverse.dropWhile isBlank).reverse

/-- Without the blanks at either end. -/
def trim (cs : List Char) : List Char := trimEnd (trimStart cs)

end ShaderLint.Text
