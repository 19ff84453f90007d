/-
The state of health of the service, as it is reported to a client.
-/
import ShaderLint.Schema.Coercion

set_option autoImplicit false

namespace ShaderLint

/-- How the service is doing. -/
inductive HealthStatus where
  | healthy
  | unhealthy
  | degraded
  deriving DecidableEq, Repr

/-- The name of a state of health. -/
def HealthStatus.name : HealthStatus → String
  | .healthy => "healthy"
  | .unhealthy => "unhealthy"
  | .degraded => "degraded"

def HealthStatus.all : List HealthStatus := [.healthy, .unhealthy, .degraded]

def serviceVersion : String := "1.0.0"

structure Health where
  status : HealthStatus
  version : String := serviceVersion
  /-- For how many seconds the service has been running. -/
  uptimeSeconds : Binary64
  /-- The names of the validators in use. -/
  validators : List String
  deriving Repr

namespace Health

def title : String := "HealthResponse"

/-- A report on the service as JSON. -/
def toJson (h : Health) : Json :=
  .obj
    [("status", .str h.status.name),
     ("version", .str h.version),
     ("uptime_seconds", .real h.uptimeSeconds),
     ("validators", .ofStrings h.validators)]

/-- Reads a report on the service. -/
def read (input : Json) : Reading Health :=
  (readMembers (.notAModel title) input).andThen fun members =>
    Health.mk
      <$> required "status"
        (readOneOf .notAChoice (HealthStatus.all.map fun status => (status.name, status))) members
      <*> withDefault "version" serviceVersion readText members
      <*> required "uptime_seconds" readNumber members
      <*> required "validators" (readList readText) members

/-- A service without validators finds no defects, which is no sound state. -/
def statusOf (validators : List String) : HealthStatus :=
  if validators.isEmpty then .degraded else .healthy

end Health

end ShaderLint
