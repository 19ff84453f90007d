/-
What a client sends: a source to be checked or classified.
-/
import ShaderLint.Schema.Coercion

set_option autoImplicit false

namespace ShaderLint

/-- A source as it is sent in. -/
structure Submission where
  source : String
  deriving DecidableEq, Repr

namespace Submission

def title : String := "ShaderSourceRequest"

def toJson (s : Submission) : Json := .obj [("source", .str s.source)]

/-- Reads a submission from an object; anything else is refused for the given cause. -/
def readFrom (cause : Cause) (input : Json) : Reading Submission :=
  (readMembers cause input).andThen fun members =>
    Submission.mk <$> required "source" readText members

def read (input : Json) : Reading Submission := readFrom (.notAModel title) input

end Submission

end ShaderLint
