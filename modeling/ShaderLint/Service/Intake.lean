/-
Taking in a submission from the body of a request.

The body is read as JSON if the content type says so and is taken for a mere text otherwise. A body
that does not give a submission is refused with the issues found, each at its place in the body; a
text that is no JSON gives one issue of its own, at the position of the fault. What is refused for
its size, or cannot be read as a text at all, gets no more than a sentence.

A body may hold halves of surrogate pairs. It is read with either set of stand-ins for them, and the
points of the source are told from the two readings.
-/
import ShaderLint.Json.Reader
import ShaderLint.Service.Message
import ShaderLint.Service.Submission
import ShaderLint.Text.Encoding
import ShaderLint.Text.Half
import ShaderLint.Text.Mark

set_option autoImplicit false

namespace ShaderLint.Intake

/-! ## The form of the body -/

/-- Whether a content type is JSON: the main type `application`, and the subtype `json` or one that
ends in `+json`. Parameters after a semicolon do not matter, nor does case. -/
def isJsonType (contentType : String) : Bool :=
  let media := Text.trim ((Text.lower contentType).toList.takeWhile (· != ';'))
  let main := media.takeWhile (· != '/')
  match media.drop main.length with
  | _ :: subtype =>
    main == "application".toList && !subtype.contains '/'
      && (subtype == "json".toList || "+json".toList.isSuffixOf subtype)
  | [] => false

/-- What a body holds. -/
inductive Content where
  | nothing
  | value (json : Json)
  | malformed (error : Json.SyntaxError)
  /-- No text in the encoding that it seems to have. -/
  | undecodable

/-- What the body of a request holds, with stand-ins for halves. -/
def content (set : Text.StandIns) (r : Request) : Content :=
  if r.body.isEmpty then .nothing
  else if (r.header? "content-type").any isJsonType then
    match Text.decoded? set r.body.toList with
    | none => .undecodable
    | some cs =>
      match Json.read (Text.withoutMark cs) set with
      | .ok json => .value json
      | .error e => .malformed e
  else .value (.str r.body)

/-! ## Refusals -/

/-- Why a body is refused. -/
inductive Refusal where
  /-- It does not fit the model. -/
  | issues (issues : List Issue)
  /-- It is no JSON. -/
  | malformed (error : Json.SyntaxError)
  /-- It is no text, is too deep or holds too long a number. -/
  | unreadable

/-- An issue as it is reported to a client. -/
def issueJson (issue : Issue) : Json :=
  .obj
    [("type", .str issue.cause.type),
     ("loc", .arr (issue.place.map Step.toJson)),
     ("msg", .str issue.cause.message),
     ("input", issue.input)]

/-- A fault in a JSON text as it is reported to a client. -/
def malformedJson (e : Json.SyntaxError) : Json :=
  .obj
    [("type", .str "json_invalid"),
     ("loc", .arr [.str "body", .int e.position]),
     ("msg", .str "JSON decode error"),
     ("input", .obj []),
     ("ctx", .obj [("error", .str e.fault.message)])]

/-- The response to a body that is refused. -/
def Refusal.response : Refusal → Response
  | .issues found => .detailed 422 (.arr (found.map issueJson))
  | .malformed e => .detailed 422 (.arr [malformedJson e])
  | .unreadable => .refusal 400 "There was an error parsing the body"

/-- The submission in the body of a request, with stand-ins for halves. -/
def submission (set : Text.StandIns) (r : Request) : Except Refusal Submission :=
  match content set r with
  | .nothing => .error (.issues [⟨[.field "body"], .missing, .null⟩])
  | .undecodable => .error .unreadable
  | .malformed e => .error (if e.fault.isLimit then .unreadable else .malformed e)
  | .value json =>
    match (Submission.readFrom .notAnObject json).under (.field "body") with
    | .good s => .ok s
    | .bad issues => .error (.issues issues)

/-- The source in the body of a request. A body is refused unless it can be taken in with either
set of stand-ins, and so there may be two versions of the refusal. -/
def source (r : Request) : Except (Text.StandIns → Response) (List Text.Point) :=
  match submission .first r, submission .second r with
  | .ok a, .ok b => .ok (Text.pointsOf a.source b.source)
  | .error a, .error b => .error fun
    | .first => a.response
    | .second => b.response
  | .error refusal, .ok _ | .ok _, .error refusal => .error fun _ => refusal.response

end ShaderLint.Intake
