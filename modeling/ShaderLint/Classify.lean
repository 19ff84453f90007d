/-
From a source to a document: `classify`.

The source is cut into physical lines, the lines lose their comments, and each line that is not
blank then becomes a statement under its number, decided by the first rule that accepts it. The
shader type and the entry point are read from the source as it stands. Every text is accepted: one
without declarations and without code gives a document without either.
-/
import ShaderLint.Comment
import ShaderLint.Declaration
import ShaderLint.Document
import ShaderLint.Rule
import ShaderLint.Text.Line

set_option autoImplicit false

namespace ShaderLint

open Text

/-- The statement that a line of code makes, or none if the code is blank. Lines are given by the
number of lines before them. -/
def Statement.ofCode? (linesBefore : Nat) (code : List Char) : Option Statement :=
  let text := trim code
  if text.isEmpty then none
  else
    let rule := Rule.deciding text
    some
      { line := .preceded linesBefore
        text := String.ofList text
        requiresSemicolon := rule.requiresSemicolon
        endsWithSemicolon := Shape.endsWith [';'] text
        rule := rule.name }

/-- The statements of consecutive lines of code, the first of them with no line before it. -/
def Statement.ofLines (codes : List (List Char)) : List Statement :=
  codes.zipIdx.filterMap fun (code, linesBefore) => Statement.ofCode? linesBefore code

def classify (source : String) : Document :=
  let cs := source.toList
  { shaderType := Declaration.shaderType.find? cs
    entryPoint := Declaration.entryPoint.find? cs
    statements := Statement.ofLines ((Comment.stripAll false (lines cs)).map (·.text)) }

end ShaderLint
