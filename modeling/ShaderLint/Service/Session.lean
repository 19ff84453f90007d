/-
The service in operation.

A session is everything that an answer can depend on: the validators in use, the environment, the
settings file, and the settings once they have been read; besides these, the words of the libraries.
Settings are read when something first needs them and are kept until they are cleared; a failed
attempt is not kept, so the next one reads again. A request changes nothing else.

A submission is measured before any work is done on it: one that is too long is refused without
being classified. Of the failures of a validator, those for which the input is to blame are told to
the client; an answer of the validator's own is passed on; any other failure is logged, and the
client only learns that there was one.

Validators look at texts. A source with halves of surrogate pairs in it is worked on with either set
of stand-ins, and if the two responses differ, the halves have got into what is to be sent.
-/
import ShaderLint.Chain
import ShaderLint.Document.Json
import ShaderLint.Service.Health
import ShaderLint.Service.Intake
import ShaderLint.Service.Library
import ShaderLint.Service.Sharing
import ShaderLint.Settings.File

set_option autoImplicit false

namespace ShaderLint

/-- The state of the service. -/
structure Session where
  /-- The validators in use: `validation_engine`. -/
  chain : Chain := Chain.default
  /-- The environment variables. -/
  environment : Variables := []
  /-- The text of the settings file, empty if there is none. -/
  file : String := ""
  /-- The settings, if they have been read. -/
  settings : Option Settings := none
  library : Library := {}

namespace Session

/-! ## Settings -/

/-- The settings that the environment and the file give now. -/
def readSettings (s : Session) : Except Rejection Settings :=
  Settings.read s.environment (SettingsFile.entries s.environment s.file)

/-- The settings in force, as `get_settings` gives them: those that have been read, or else those
that would be read now. -/
def currentSettings (s : Session) : Except Rejection Settings :=
  match s.settings with
  | some settings => .ok settings
  | none => s.readSettings

/-- The session after the settings have been asked for. -/
def afterReading (s : Session) : Session := { s with settings := s.currentSettings.toOption }

/-! ## Handling a submission -/

/-- What is asked of a submission. -/
inductive Task where
  | validate
  | classify
  deriving DecidableEq, Repr

/-- The response to a failure, and what is logged of it, by `value_error_handler`, by
`global_exception_handler` or by neither. A failure that is logged is answered outside the service
proper, so its response carries no headers for other origins. -/
def failureResponse (library : Library) (r : Request) : Failure → Response × List Event
  | .rejected rejection => (Sharing.share r (.invalidInput (rejection.message library.help)), [])
  | .badValue message => (Sharing.share r (.invalidInput message), [])
  | .refusal _ _ status detail => (Sharing.share r (.detailed status detail), [])
  | .fault kind message =>
    (.json 500
      (.obj
        [("error", .str "internal_server_error"),
         ("message", .str "An unexpected error occurred. Please try again.")]),
     [.unhandledFailure r.place r.method message kind])

/-- The refusal of a source that is too long. -/
def tooLong (length : Nat) (limit : Int) : Response :=
  .refusal 413
    ("Shader source is " ++ toString length ++ " characters; the limit is " ++ toString limit
      ++ ".")

/-- Does what is asked of a text: `validate_shader` and `classify_shader` past the check of the
size. -/
def perform (library : Library) (chain : Chain) (r : Request) (task : Task) (text : String) :
    Response × List Event :=
  match task with
  | .classify => (Sharing.share r (.json 200 (classify text).toJson), [])
  | .validate =>
    match chain.checkSource text with
    | (.ok report, log) => (Sharing.share r (.json 200 report.toJson), log)
    | (.error failure, log) =>
      let (response, more) := failureResponse library r failure
      (response, log ++ more)

/-- What is sent, given the response with either set of stand-ins. If they differ, there is a half
in what was to be sent, and that cannot be encoded. -/
def sent (library : Library) (r : Request) (made : Text.StandIns → Response) : Response :=
  if (made .first).body.written = (made .second).body.written then made .first
  else Sharing.share r (.invalidInput (library.encodingFault fun set => (made set).body))

/-- Does what is asked of a source. -/
def work (library : Library) (chain : Chain) (r : Request) (task : Task)
    (source : List Text.Point) : Response × List Event :=
  let reply (set : Text.StandIns) := perform library chain r task (set.fill source)
  (sent library r fun set => (reply set).1, (reply .first).2)

/-- Measures a source against the settings in force, if there are any: `_check_size`. A source that
is too long is refused; any other is handed to `work`. -/
def measured (library : Library) (r : Request) (inForce : Except Rejection Settings)
    (source : List Text.Point) (work : List Text.Point → Response × List Event) :
    Response × List Event :=
  match inForce with
  | .error rejection => failureResponse library r (.rejected rejection)
  | .ok settings =>
    if settings.maxSourceLength < source.length then
      (Sharing.share r (tooLong source.length settings.maxSourceLength),
        [.sourceRejected source.length settings.maxSourceLength])
    else work source

/-- Handles a submission: takes it in, measures it, and does what is asked. -/
def submit (s : Session) (r : Request) (task : Task) : Session × Response × List Event :=
  match Intake.source r with
  | .error refusal => (s, sent s.library r fun set => Sharing.share r (refusal set), [])
  | .ok source =>
    (s.afterReading,
      measured s.library r s.currentSettings source (work s.library s.chain r task))

/-! ## Routes -/

inductive Route where
  | root
  | health
  | task (task : Task)
  | page (page : Page)
  deriving DecidableEq, Repr

/-- The route to a place. -/
def Route.ofPlace? : String → Option Route
  | "/" => some .root
  | "/api/v1/health" => some .health
  | "/api/v1/validate" => some (.task .validate)
  | "/api/v1/classify" => some (.task .classify)
  | "/docs" => some (.page .docs)
  | "/docs/oauth2-redirect" => some (.page .docsRedirect)
  | "/redoc" => some (.page .redoc)
  | "/openapi.json" => some (.page .schema)
  | _ => none

/-- The methods that a route takes. -/
def Route.methods : Route → List String
  | .root | .health => ["GET"]
  | .task _ => ["POST"]
  | .page _ => ["GET", "HEAD"]

/-- What the service says about itself: `root`. -/
def about : Json :=
  .obj
    [("name", .str "shadercheck"),
     ("version", .str serviceVersion),
     ("description", .str "Static validator for GDShader-like shader source"),
     ("docs", .str "/docs"),
     ("health", .str "/api/v1/health"),
     ("validate", .str "/api/v1/validate")]

/-- The state of health at a time, `health_check`: with the time if it is known. -/
def health (s : Session) (uptime : Option Nat) : Json :=
  let names := s.chain.names
  let seconds (hundredths : Nat) : Json := .real (.ofDecimal false hundredths (-2))
  .obj
    ([("status", .str (Health.statusOf names).name), ("version", .str serviceVersion)]
      ++ (uptime.map fun hundredths => ("uptime_seconds", seconds hundredths)).toList
      ++ [("validators", .ofStrings names)])

/-- A response to a request for which only the status line counts has no body. -/
def withoutBody (r : Request) (response : Response) : Response :=
  if r.method = "HEAD" then { response with body := .text "" } else response

def handle (s : Session) (r : Request) : Session × Response × List Event :=
  match Sharing.preflight? r with
  | some response => (s, response, [])
  | none =>
    match Route.ofPlace? r.place with
    | none => (s, withoutBody r (Sharing.share r (.refusal 404 "Not Found")), [])
    | some route =>
      if r.method ∉ route.methods then
        (s, withoutBody r (Sharing.share r (.refusal 405 "Method Not Allowed")), [])
      else match route with
        | .root => (s, Sharing.share r (.json 200 about), [])
        | .health => (s, Sharing.share r (.json 200 (s.health r.uptime)), [])
        | .page page => (s, withoutBody r (Sharing.share r ⟨200, s.library.page page, []⟩), [])
        | .task task => s.submit r task

/-! ## A session in use -/

/-- What may happen to a session. -/
inductive Action where
  | request (r : Request)
  /-- Sets environment variables; one without a value is unset. -/
  | setVariables (vars : Variables)
  /-- Puts a text into the settings file. -/
  | writeFile (text : String)
  | clearSettings
  | start
  | stop
  | addValidator (v : Validator)
  | removeValidator (name : String)

/-- What is answered to an action. -/
inductive Answer where
  | response (r : Response)
  /-- The names of the validators in use. -/
  | validators (names : List String)
  | failed (rejection : Rejection)

/-- One action: the session after it, the answer, and what is logged. -/
def step (s : Session) : Action → Session × Answer × List Event
  | .request r =>
    let (next, response, log) := s.handle r
    (next, .response response, log)
  | .setVariables vars =>
    let environment := vars.foldl (fun done (name, value) => done.change name value) s.environment
    ({ s with environment }, .validators s.chain.names, [])
  | .writeFile text => ({ s with file := text }, .validators s.chain.names, [])
  | .clearSettings => ({ s with settings := none }, .validators s.chain.names, [])
  | .start =>
    match s.currentSettings with
    | .ok settings =>
      (s.afterReading, .validators s.chain.names,
        [.starting settings.debug settings.maxSourceLength])
    | .error rejection => (s.afterReading, .failed rejection, [])
  | .stop => (s, .validators s.chain.names, [.stopped])
  | .addValidator v =>
    let chain := s.chain.add v
    ({ s with chain }, .validators chain.names, [])
  | .removeValidator name =>
    let chain := s.chain.remove name
    ({ s with chain }, .validators chain.names, [])

/-- A sequence of actions: the session after them, and for each the answer and the log. -/
def run (s : Session) : List Action → Session × List (Answer × List Event)
  | [] => (s, [])
  | action :: actions =>
    let (next, answer, log) := s.step action
    let (last, answers) := next.run actions
    (last, (answer, log) :: answers)

end Session

end ShaderLint
