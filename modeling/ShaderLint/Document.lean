/-
Classified sources: what is known of a source once its lines have been classified.

A document need not come from a source. It may also be handed in from outside, and then its
statements are whatever the sender says: in any order, under any rule name, with flags that need
not agree with the text.
-/
import ShaderLint.LineNumber

set_option autoImplicit false

namespace ShaderLint

/-- One line of code, not blank and without its comments: `ClassifiedStatement`. -/
structure Statement where
  /-- The line of the source. -/
  line : LineNumber
  /-- The code of the line. -/
  text : String
  /-- Whether a line of this shape has to end with a semicolon. -/
  requiresSemicolon : Bool
  /-- Whether it does. -/
  endsWithSemicolon : Bool
  /-- The name of the rule that decided. -/
  rule : String
  deriving DecidableEq, Repr

/-- A source as the checks see it: `ShaderDocument`. -/
structure Document where
  /-- The shader type that the source declares. -/
  shaderType : Option String := none
  /-- The entry point that the source defines. -/
  entryPoint : Option String := none
  /-- The lines of code, in source order. -/
  statements : List Statement := []
  deriving DecidableEq, Repr

end ShaderLint
