/-
Diagnostics and reports as JSON.

Both are written with all their fields. A report is read without a check that its verdict agrees
with its list.
-/
import ShaderLint.Diagnostic
import ShaderLint.Schema.Coercion

set_option autoImplicit false

namespace ShaderLint

namespace Diagnostic

def title : String := "Diagnostic"

def toJson (d : Diagnostic) : Json :=
  .obj [("line", .int d.line.val), ("message", .str d.message), ("code", .str d.code.name)]

/-- Reads a kind of defect by its name. -/
def readCode : Json → Reading ErrorCode :=
  readOneOf .notInEnumeration (ErrorCode.all.map fun code => (code.name, code))

def read (input : Json) : Reading Diagnostic :=
  (readMembers (.notAModel title) input).andThen fun members =>
    Diagnostic.mk <$> required "line" readLineNumber members
      <*> required "message" readText members
      <*> required "code" readCode members

end Diagnostic

namespace Report

def title : String := "ValidationResult"

def toJson (r : Report) : Json :=
  .obj [("valid", .bool r.valid), ("errors", .arr (r.errors.map Diagnostic.toJson))]

def read (input : Json) : Reading Report :=
  (readMembers (.notAModel title) input).andThen fun members =>
    Report.mk <$> required "valid" readBoolean members
      <*> withDefault "errors" [] (readList Diagnostic.read) members

end Report

end ShaderLint
