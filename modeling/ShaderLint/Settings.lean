/-
Settings of the service: `Settings`, and what the first call of `get_settings` makes of an
environment.

Every setting has a default. It is looked for under its name, without regard to case, first among
the environment variables and then in the settings file; a value found there is a text and is read
as the type of the setting asks. Other environment variables are nobody's business here, but a name
in the settings file that is no setting is refused.
-/
import ShaderLint.Schema.Coercion
import ShaderLint.Text.Lower

set_option autoImplicit false

namespace ShaderLint

structure Settings where
  /-- The address to listen at. -/
  host : String := "0.0.0.0"
  /-- The port to listen at. -/
  port : Int := 8000
  /-- Whether to start over whenever the program changes. -/
  debug : Bool := false
  /-- The least grave events that are logged. -/
  logLevel : String := "info"
  /-- The greatest length of a source, in characters. -/
  maxSourceLength : Int := 200000
  deriving DecidableEq, Repr

/-- Names with their values, in the order in which they were set. A name may stand without a
value. -/
abbrev Variables := List (String × Option String)

namespace Variables

/-- The value under a name in lower case, the last one set under any spelling of the name. -/
def get? (name : String) (vars : Variables) : Option String :=
  vars.foldl (fun found (n, value) => if Text.lower n = name then value else found) none

/-- Sets a variable: in its place if its name is there in the same spelling, at the end
otherwise. -/
def set (name : String) (value : Option String) : Variables → Variables
  | [] => [(name, value)]
  | (n, v) :: rest => if n = name then (n, value) :: rest else (n, v) :: set name value rest

def erase (name : String) (vars : Variables) : Variables := vars.filter (·.1 != name)

/-- Sets a variable to a value, or takes it away where there is none. -/
def change (vars : Variables) (name : String) (value : Option String) : Variables :=
  if value.isSome then vars.set name value else vars.erase name

/-- Every name in lower case, once, where it was first set, with the value that was last set. -/
def merged (vars : Variables) : Variables :=
  vars.foldl (fun done (n, value) => set (Text.lower n) value done) []

end Variables

namespace Settings

def title : String := "Settings"

/-- The names of the settings, in order. -/
def names : List String := ["HOST", "PORT", "DEBUG", "LOG_LEVEL", "MAX_SOURCE_LENGTH"]

def toJson (s : Settings) : Json :=
  .obj
    [("HOST", .str s.host),
     ("PORT", .int s.port),
     ("DEBUG", .bool s.debug),
     ("LOG_LEVEL", .str s.logLevel),
     ("MAX_SOURCE_LENGTH", .int s.maxSourceLength)]

/-- The values that were given for the settings: from the environment or else from the file. -/
def given (environment file : Variables) : Json.Members :=
  names.filterMap fun name =>
    ((environment.get? (Text.lower name)).or (file.get? (Text.lower name))).map
      fun value => (name, .str value)

/-- The issues with names in the file that are no settings. A name without a value is let pass. -/
def unknownNames (file : Variables) : List Issue :=
  file.merged.filterMap fun (name, value?) =>
    match value? with
    | none => none
    | some value =>
      if value.isEmpty || names.any (fun n => Text.lower n == name) then none
      else some ⟨[.field name], .unknownName, .str value⟩

/-- Reads the settings, or says all that is wrong with what was given. -/
def read (environment file : Variables) : Except Rejection Settings :=
  let members := given environment file
  let defaults : Settings := {}
  let fields : Reading Settings :=
    Settings.mk <$> withDefault "HOST" defaults.host readText members
      <*> withDefault "PORT" defaults.port readInteger members
      <*> withDefault "DEBUG" defaults.debug readBoolean members
      <*> withDefault "LOG_LEVEL" defaults.logLevel readText members
      <*> withDefault "MAX_SOURCE_LENGTH" defaults.maxSourceLength readInteger members
  let others : Reading Unit := match unknownNames file with
    | [] => .good ()
    | issues => .bad issues
  Reading.titled title ((fun settings _ => settings) <$> fields <*> others)

end Settings

/-! ## Launching -/

structure Launch where
  /-- The application to serve. -/
  application : String := "shadercheck.main:app"
  host : String
  port : Int
  logLevel : String
  /-- Whether to start over whenever the program changes. -/
  reload : Bool
  deriving DecidableEq, Repr

/-- The launch that the settings ask for: `run`. -/
def Launch.ofSettings (s : Settings) : Launch :=
  { host := s.host, port := s.port, logLevel := s.logLevel, reload := s.debug }

def Launch.toJson (l : Launch) : Json :=
  .obj
    [("application", .str l.application),
     ("host", .str l.host),
     ("port", .int l.port),
     ("log_level", .str l.logLevel),
     ("reload", .bool l.reload)]

end ShaderLint
