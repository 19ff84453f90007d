/-
Diagnostics, and the report that gathers them.

A diagnostic names one defect and the line it was found at. A report says whether there was any and
lists them in the order of discovery. A report that the checks build is valid exactly when its list
is empty; one that comes from elsewhere may claim anything.
-/
import ShaderLint.LineNumber

set_option autoImplicit false

namespace ShaderLint

inductive ErrorCode where
  | missingOrInvalidShaderType
  | missingOrInvalidEntryPoint
  | missingStatementTerminator
  deriving DecidableEq, Repr

/-- The name a kind of defect is reported by. -/
def ErrorCode.name : ErrorCode → String
  | .missingOrInvalidShaderType => "MISSING_OR_INVALID_SHADER_TYPE"
  | .missingOrInvalidEntryPoint => "MISSING_OR_INVALID_ENTRY_POINT"
  | .missingStatementTerminator => "MISSING_STATEMENT_TERMINATOR"

def ErrorCode.all : List ErrorCode :=
  [.missingOrInvalidShaderType, .missingOrInvalidEntryPoint, .missingStatementTerminator]

structure Diagnostic where
  /-- The line it was found at. -/
  line : LineNumber
  message : String
  code : ErrorCode
  deriving DecidableEq, Repr

/-- The outcome of checking a source: `ValidationResult`. -/
structure Report where
  /-- Whether no defect was found. -/
  valid : Bool
  /-- The defects, in order of discovery. -/
  errors : List Diagnostic := []
  deriving DecidableEq, Repr

/-- The report on the defects that were found: `ValidationResult.build`. -/
def Report.ofErrors (errors : List Diagnostic) : Report := ⟨errors.isEmpty, errors⟩

end ShaderLint
