/-
Documents as JSON.

A document is written with all its fields and read back field by field. Reading is more lenient
than writing, so that a document may come from elsewhere: members that are no fields are passed
over, the declarations and the statements may be left out, and scalars may come in other clothes.
-/
import ShaderLint.Document
import ShaderLint.Schema.Coercion

set_option autoImplicit false

namespace ShaderLint

namespace Statement

def title : String := "ClassifiedStatement"

def toJson (s : Statement) : Json :=
  .obj
    [("line", .int s.line.val),
     ("text", .str s.text),
     ("requires_semicolon", .bool s.requiresSemicolon),
     ("ends_with_semicolon", .bool s.endsWithSemicolon),
     ("rule", .str s.rule)]

def read (input : Json) : Reading Statement :=
  (readMembers (.notAModel title) input).andThen fun members =>
    Statement.mk <$> required "line" readLineNumber members
      <*> required "text" readText members
      <*> required "requires_semicolon" readBoolean members
      <*> required "ends_with_semicolon" readBoolean members
      <*> required "rule" readText members

end Statement

namespace Document

def title : String := "ShaderDocument"

def toJson (d : Document) : Json :=
  .obj
    [("shader_type", .ofOption d.shaderType),
     ("entry_point", .ofOption d.entryPoint),
     ("statements", .arr (d.statements.map Statement.toJson))]

def read (input : Json) : Reading Document :=
  (readMembers (.notAModel title) input).andThen fun members =>
    Document.mk <$> withDefault "shader_type" none readTextOrNull members
      <*> withDefault "entry_point" none readTextOrNull members
      <*> withDefault "statements" [] (readList Statement.read) members

end Document

end ShaderLint
