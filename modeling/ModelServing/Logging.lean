/-!
# Logging

How the program logs, and what goes wrong if it is set up twice. Nothing of what is logged is part of this library.
-/

namespace ModelServing

/-- The form of the log, and what is logged unless the environment says otherwise. -/
structure Logging where
  json : Bool := true
  defaultFilter : String := "info,inference=debug,kube=info,tower=warn,hyper=warn"
deriving DecidableEq

/-- Logging could not be set up. -/
inductive LoggingError where
  | alreadyInstalled
deriving DecidableEq

/-- The text of a logging error. -/
def LoggingError.message : LoggingError → String
  | alreadyInstalled =>
    "failed to initialize tracing subscriber: a global default trace dispatcher has already been set"

/-- Sets logging up, where it may be `installed` already. -/
def Logging.install (_ : Logging) (installed : Bool) : Except LoggingError Unit :=
  if installed then .error .alreadyInstalled else .ok ()

end ModelServing
