/-
The dialect: which shader types there are, through which functions each of them is entered, and the
words that give a line its shape.

Every check reads its words from these tables, so that another dialect is another set of tables.
Three of them have to agree with one another, and the statements at the end say that they do: the
types with a row of entry points are the shader types, and every entry point of a row is an entry
point of the dialect.
-/

set_option autoImplicit false

namespace ShaderLint.Dialect

/-! ## Shader types and entry points -/

/-- The types a shader may declare. -/
def shaderTypes : List String := ["spatial", "canvas_item", "particles", "sky", "fog"]

/-- The functions a shader may be entered through, whatever its type. -/
def entryPoints : List String :=
  ["vertex", "fragment", "light", "start", "process", "sky", "fog"]

/-- The functions each shader type is entered through. -/
def shaderEntryPoints : List (String × List String) :=
  [("spatial", ["vertex", "fragment", "light"]),
   ("canvas_item", ["vertex", "fragment", "light"]),
   ("particles", ["start", "process"]),
   ("sky", ["sky"]),
   ("fog", ["fog"])]

/-- What is suggested where the entry point is missing, for the types with a suggestion of their
own. -/
def entryPointHints : List (String × String) :=
  [("sky", "void sky()"),
   ("fog", "void fog()"),
   ("particles", "void start() or void process()")]

/-- What is suggested for every other type, and where there is no type. -/
def defaultEntryPointHint : String := "void fragment() or void vertex()"

/-- The suggestion for a shader type. -/
def entryPointHint (shaderType : Option String) : String :=
  (shaderType.bind (entryPointHints.lookup ·)).getD defaultEntryPointHint

/-- Whether a shader of a type may be entered through a function. A type without a row sets no
limit of its own: that it is no shader type is reported elsewhere. -/
def admitsEntry (shaderType : Option String) (entry : String) : Bool :=
  match shaderType.bind (shaderEntryPoints.lookup ·) with
  | some row => row.contains entry
  | none => true

/-! ## The shapes of lines -/

/-- Words that open a declaration which is a line of its own and no statement. -/
def directiveKeywords : List String := ["shader_type", "render_mode"]

/-- Words that open a control structure. A space stands for any run of blanks. -/
def controlFlowKeywords : List String := ["if", "else if", "for", "while", "do", "switch"]

/-- Types that a function may return. -/
def returnTypes : List String :=
  ["void", "float", "int", "uint", "bool",
   "vec2", "vec3", "vec4",
   "ivec2", "ivec3", "ivec4",
   "uvec2", "uvec3", "uvec4",
   "bvec2", "bvec3", "bvec4",
   "mat2", "mat3", "mat4"]

/-- Beginnings of the names of opaque sampler types, which a function may return as well. -/
def samplerStems : List String := ["sampler", "isampler", "usampler"]

/-! ## Agreement of the tables -/

theorem shaderEntryPoints_keys : shaderEntryPoints.map Prod.fst = shaderTypes := rfl

theorem entryPoints_of_row :
    ∀ row ∈ shaderEntryPoints, ∀ entry ∈ row.2, entry ∈ entryPoints := by decide

end ShaderLint.Dialect
