/-
Requests and responses.

A request is what a client sends; names of headers are compared without regard to case. A response
has a status and a body, which is JSON or plain text, and the headers by which it lets pages of
other origins use it. Not every value can be sent as JSON: a number that is not finite cannot, and
the client is then told so instead.
-/
import ShaderLint.Json.Writer
import ShaderLint.Service.Path
import ShaderLint.Text.Lower

set_option autoImplicit false

namespace ShaderLint

structure Request where
  method : String
  /-- The path, with the query if there is one. -/
  path : String
  headers : List (String × String) := []
  /-- The text of the body, empty if there is none. -/
  body : String := ""
  /-- For how many hundredths of a second the service has been running when the request comes in, if
  that is known. -/
  uptime : Option Nat := none
  deriving DecidableEq, Repr

namespace Request

/-- The value of a header, given its name in lower case. -/
def header? (r : Request) (name : String) : Option String :=
  (r.headers.find? fun (n, _) => Text.lower n == name).map Prod.snd

/-- The place that the request is for. -/
def place (r : Request) : String := Path.place r.path

end Request

inductive Body where
  | json (value : Json)
  | text (text : String)
  deriving Repr

/-- The text that is sent of a body. -/
def Body.written : Body → String
  | .json value => value.write
  | .text plain => plain

structure Response where
  status : Nat
  body : Body
  /-- The headers for pages of other origins. -/
  sharing : List (String × String) := []
  deriving Repr

namespace Response

def json (status : Nat) (value : Json) : Response := ⟨status, .json value, []⟩

/-- A refusal with its reason. -/
def refusal (status : Nat) (reason : String) : Response :=
  json status (.obj [("detail", .str reason)])

/-- The response to input that is to blame for a failure: `value_error_handler`. -/
def invalidInput (message : String) : Response :=
  json 422 (.obj [("error", .str "validation_error"), ("message", .str message)])

/-- Whether a response of a status has a body. -/
def hasBody (status : Nat) : Bool := 200 ≤ status && !([204, 205, 304].contains status)

/-- A refusal with details. -/
def detailed (status : Nat) (detail : Json) : Response :=
  if !hasBody status then ⟨status, .text "", []⟩
  else if detail.allFinite then json status (.obj [("detail", detail)])
  else invalidInput "Out of range float values are not JSON compliant"

end Response

end ShaderLint
