/-
The rules that decide whether a line needs a semicolon.

The table is ordered and the first rule that accepts a line decides, so a rule further down never
overrides one further up: the line of a block, a directive, a loop and a function header are
exempt even where they also look like an assignment or a call. The last rule accepts everything,
so every line is decided.
-/
import ShaderLint.Rule.Shape

set_option autoImplicit false

namespace ShaderLint

/-- The rules, in the order in which they are asked. -/
inductive Rule where
  | directive
  | blockDelimiter
  | loneBrace
  | controlFlow
  | structOpener
  | functionHeader
  | assignment
  | returnStatement
  | callStatement
  | unclassified
  deriving DecidableEq, Repr

namespace Rule

/-- The rules in order: `SEMICOLON_RULES`. -/
def table : List Rule :=
  [.directive, .blockDelimiter, .loneBrace, .controlFlow, .structOpener, .functionHeader,
   .assignment, .returnStatement, .callStatement, .unclassified]

/-- The name a rule is reported by. -/
def name : Rule → String
  | .directive => "directive"
  | .blockDelimiter => "block_delimiter"
  | .loneBrace => "lone_brace"
  | .controlFlow => "control_flow"
  | .structOpener => "struct_opener"
  | .functionHeader => "function_header"
  | .assignment => "assignment"
  | .returnStatement => "return_statement"
  | .callStatement => "call_statement"
  | .unclassified => "unclassified"

/-- Whether the lines that a rule decides need a semicolon. -/
def requiresSemicolon : Rule → Bool
  | .assignment | .returnStatement | .callStatement => true
  | .directive | .blockDelimiter | .loneBrace | .controlFlow | .structOpener | .functionHeader
  | .unclassified => false

/-- Whether a rule accepts a line. -/
def accepts : Rule → List Char → Bool
  | .directive => Shape.directive
  | .blockDelimiter => Shape.blockDelimiter
  | .loneBrace => Shape.loneBrace
  | .controlFlow => Shape.controlFlow
  | .structOpener => Shape.structOpener
  | .functionHeader => Shape.functionHeader
  | .assignment => Shape.assignment
  | .returnStatement => Shape.returnStatement
  | .callStatement => Shape.callStatement
  | .unclassified => fun _ => true

/-- All rules that accept a line. -/
def accepting (text : List Char) : List Rule := table.filter (·.accepts text)

/-- The rule that decides a line, the first that accepts it: `classify_statement`. -/
def deciding (text : List Char) : Rule := (table.find? (·.accepts text)).getD .unclassified

/-- The table leaves no rule out. -/
theorem mem_table (r : Rule) : r ∈ table := by cases r <;> decide

end Rule

end ShaderLint
