/-
Paths of requests.

Two paths are the same place if they differ in what does not tell places apart: a query, a fragment,
the first slash, which may be left out, slashes at the end, and characters written as percent
escapes. Escapes are undone twice, once where a request is sent and once where it is received. An
escape of a character beyond ASCII is left, since no place has such a character in its path.
-/
import ShaderLint.Text.Hex

set_option autoImplicit false

namespace ShaderLint.Path

/-- The character that an escape stands for, if its percent sign is `c` and its digits come
next. -/
def escaped? (c : Char) (next : List Char) : Option Char :=
  match next with
  | a :: b :: _ => do
    guard (c = '%')
    let high ← Text.hexValue? a
    let low ← Text.hexValue? b
    guard (high < 8)
    return Char.ofNat (16 * high + low)
  | _ => none

/-- Undoes the percent escapes in what is left of a path, given what is done, backwards, after
passing over the rest of an escape that is done. -/
def unescapeFrom (done : List Char) : (passOver : Nat) → List Char → List Char
  | _, [] => done.reverse
  | n + 1, _ :: cs => unescapeFrom done n cs
  | 0, c :: cs =>
    match escaped? c cs with
    | some e => unescapeFrom (e :: done) 2 cs
    | none => unescapeFrom (c :: done) 0 cs

/-- A path without its percent escapes. -/
def unescape (cs : List Char) : List Char := unescapeFrom [] 0 cs

/-- A path with a slash in front. -/
def rooted (cs : List Char) : List Char := if cs.head? = some '/' then cs else '/' :: cs

/-- A path without the slashes at its end, unless it is nothing but one slash. -/
def trimmed (cs : List Char) : List Char :=
  if cs = ['/'] then cs else (cs.reverse.dropWhile (· == '/')).reverse

/-- The place that a path names. -/
def place (path : String) : String :=
  let cs := path.toList.takeWhile fun c => c != '?' && c != '#'
  String.ofList (trimmed (unescape (unescape (rooted cs))))

end ShaderLint.Path
