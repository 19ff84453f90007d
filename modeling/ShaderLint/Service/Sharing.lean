/-
Requests from pages of other origins.

A browser names the origin of the page in a request, and asks beforehand whether a method may be
used at all. The service lets every origin use it, with credentials, and says so by naming the
origin back; a question beforehand is answered without looking at the path.
-/
import ShaderLint.Service.Message

set_option autoImplicit false

namespace ShaderLint.Sharing

/-- The methods that pages of other origins may use. -/
def methods : List String :=
  ["DELETE", "GET", "HEAD", "OPTIONS", "PATCH", "POST", "PUT", "QUERY"]

/-- For how many seconds an answer given beforehand holds. -/
def maxAge : Nat := 600

/-- The headers of every response to a page of another origin. -/
def headers (origin : String) : List (String × String) :=
  [("access-control-allow-origin", origin), ("access-control-allow-credentials", "true")]

/-- The answer to a question beforehand, if the request is one: it comes from a page of another
origin and names the method that the page wants to use. -/
def preflight? (r : Request) : Option Response := do
  guard (r.method == "OPTIONS")
  let origin ← r.header? "origin"
  let method ← r.header? "access-control-request-method"
  let asked := match r.header? "access-control-request-headers" with
    | some names => [("access-control-allow-headers", names)]
    | none => []
  let sharing := headers origin
    ++ [("access-control-max-age", toString maxAge),
        ("access-control-allow-methods", ", ".intercalate methods)]
    ++ asked
  return if methods.contains method then ⟨200, .text "OK", sharing⟩
    else ⟨400, .text "Disallowed CORS method", sharing⟩

/-- Adds the headers for the page that a request comes from, if it comes from one. -/
def share (r : Request) (response : Response) : Response :=
  match r.header? "origin" with
  | some origin => { response with sharing := headers origin }
  | none => response

end ShaderLint.Sharing
