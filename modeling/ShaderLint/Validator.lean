/-
Validators: the single checks.

A validator has a name and looks at a classified document; it either returns its diagnostics in
order of discovery or fails. Any function of that form will do. The three that every chain starts
with report a missing or unknown shader type and a missing or unsuitable entry point at line one,
and each statement without its semicolon at its own line; they never fail.
-/
import ShaderLint.Diagnostic.Json
import ShaderLint.Dialect
import ShaderLint.Document
import ShaderLint.Failure

set_option autoImplicit false

namespace ShaderLint

/-- One check. -/
structure Validator where
  name : String
  run : Document → Except Failure (List Diagnostic)

namespace Validator

/-! ## The shader type -/

/-- The diagnostic for a missing or unknown shader type. -/
def shaderTypeError : Diagnostic where
  line := .first
  message := "Missing or invalid shader_type declaration (e.g. shader_type spatial;)."
  code := .missingOrInvalidShaderType

/-- Whether the document declares a shader type of the dialect. -/
def hasShaderType (d : Document) : Bool := d.shaderType.any Dialect.shaderTypes.contains

/-- Reports a missing or unknown shader type. -/
def shaderType : Validator where
  name := "ShaderTypeValidator"
  run d := .ok (if hasShaderType d then [] else [shaderTypeError])

/-! ## The entry point -/

/-- The diagnostic for a missing or unsuitable entry point, with a suggestion for the type that the
document declares. -/
def entryPointError (shaderType : Option String) : Diagnostic where
  line := .first
  message :=
    "Missing or invalid entrypoint (e.g. " ++ Dialect.entryPointHint shaderType ++ ")."
  code := .missingOrInvalidEntryPoint

/-- Whether the document has an entry point of the dialect that its shader type, if it is a known
one, is entered through. -/
def hasEntryPoint (d : Document) : Bool :=
  d.entryPoint.any fun entry =>
    Dialect.entryPoints.contains entry && Dialect.admitsEntry d.shaderType entry

/-- Reports a missing or unsuitable entry point. -/
def entryPoint : Validator where
  name := "EntryPointValidator"
  run d := .ok (if hasEntryPoint d then [] else [entryPointError d.shaderType])

/-! ## The semicolons -/

/-- Whether a statement lacks the semicolon that it needs. -/
def isUnterminated (s : Statement) : Bool := s.requiresSemicolon && !s.endsWithSemicolon

/-- The diagnostic for a statement without its semicolon. -/
def terminatorError (s : Statement) : Diagnostic where
  line := s.line
  message := "Expected ';' at end of statement."
  code := .missingStatementTerminator

/-- The diagnostics for the statements without their semicolons. -/
def terminatorErrors (d : Document) : List Diagnostic :=
  (d.statements.filter isUnterminated).map terminatorError

/-- Reports every statement without its semicolon. -/
def terminator : Validator where
  name := "TerminatorValidator"
  run d := .ok (terminatorErrors d)

/-- The checks that every chain starts with, in order. -/
def builtIn : List Validator := [shaderType, entryPoint, terminator]

/-! ## Checks of fixed outcome -/

/-- Diagnostics from data, in order; the first that does not fit is the failure. -/
def readDiagnostics : List Json → Except Failure (List Diagnostic)
  | [] => .ok []
  | draft :: drafts =>
    match (Diagnostic.read draft).titled Diagnostic.title with
    | .error rejection => .error (.rejected rejection)
    | .ok diagnostic => (readDiagnostics drafts).map (diagnostic :: ·)

/-- A check that reports the same diagnostics on every document. They are handed in as data, and
are read each time the check runs. -/
def reporting (name : String) (drafts : List Json) : Validator := ⟨name, fun _ => readDiagnostics drafts⟩

/-- A check that always breaks. -/
def breaking (name kind message : String) : Validator := ⟨name, fun _ => .error (.fault kind message)⟩

end Validator

end ShaderLint
