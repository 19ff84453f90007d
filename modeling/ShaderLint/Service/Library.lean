/-
What is said to a client in words that are not the service's own.

The service stands on libraries, and some of what it sends comes from them as it is: the pages on
its interface, the address in the message of a rejection, the words for a response that cannot be
encoded. They change with the versions of the libraries, and nothing here depends on them.
-/
import ShaderLint.Service.Message
import ShaderLint.Text.Half

set_option autoImplicit false

namespace ShaderLint

/-- A page on the interface of the service. -/
inductive Page where
  /-- The interface, to be tried out. -/
  | docs
  /-- Where a client that tries it out comes back to from signing in. -/
  | docsRedirect
  /-- The interface, to be read. -/
  | redoc
  /-- The interface as data. -/
  | schema
  deriving DecidableEq, Repr

structure Library where
  /-- The address at which more is to be read about a cause, up to the name of the cause. -/
  help : String := "https://errors.pydantic.dev/2.14/v/"
  /-- What is said of a body with halves in it, given what it is with either set of stand-ins. -/
  encodingFault : (Text.StandIns → Body) → String := fun _ => "surrogates not allowed"
  page : Page → Body := fun _ => .text ""

end ShaderLint
