import ModelServing.Component
import ModelServing.Text.Quoted

/-!
# Failures

What can go wrong in a pass, and how it is told.

* `Refusal` is an answer of the cluster that says no, `ClientFailure` any way in which talking to the cluster fails;
* `Failure` is a failure of a pass: a failure at its root, inside wrappers that say which step it stopped;
* `Failure.message` is its text, `Failure.causes` the texts of what lies under it, from the outside in;
* `Failure.retryable`, `Failure.notFound` and `Failure.conflict` decide what happens next.
-/

namespace ModelServing

/-- An answer of the cluster that refuses a request. -/
structure Refusal where
  status : String
  message : String
  reason : String
  code : Nat
deriving DecidableEq

namespace Refusal

/-- The text of a refusal. -/
def text (r : Refusal) : String := r.message ++ ": " ++ r.reason

/-- All fields of a refusal. -/
def details (r : Refusal) : String :=
  "ErrorResponse \x7b status: " ++ Text.quoted r.status ++ ", message: " ++ Text.quoted r.message ++
    ", reason: " ++ Text.quoted r.reason ++ ", code: " ++ toString r.code ++ " \x7d"

/-- The refusal of a request for an object that does not exist. -/
def absent (plural name : String) : Refusal :=
  ⟨"Failure", plural ++ " \"" ++ name ++ "\" not found", "NotFound", 404⟩

/-- The refusal of a write over a version that is no longer there. -/
def modified : Refusal := ⟨"Failure", "the object has been modified", "Conflict", 409⟩

/-- Whether the same request may succeed later: anything but a fault of the client, and of these a lost race or a
throttled request. -/
def retryable (r : Refusal) : Bool := r.code == 409 || r.code == 429 || !(400 ≤ r.code && r.code < 500)

end Refusal

/-- Why an address cannot be sent. -/
inductive AddressFault where
  /-- A character cannot stand in it. -/
  | character
  /-- It is too long. -/
  | length
deriving DecidableEq

/-- The text of a fault of an address. -/
def AddressFault.text : AddressFault → String
  | character => "invalid uri character"
  | length => "uri too long"

/-- A request to the cluster that came to nothing. What lies under it is known by its texts, from the outside in. -/
inductive ClientFailure where
  /-- The cluster refused it. -/
  | refused (r : Refusal)
  /-- The connection failed, because of something that may have causes of its own. -/
  | broken (message : String) (under : List String := [])
  /-- The connection has to be encrypted and cannot be. -/
  | tlsRequired
  /-- A stream of lines had no line end. -/
  | brokenLines
  /-- The name of the object was empty. -/
  | emptyName
  /-- The name or namespace of the object cannot stand in an address. -/
  | badAddress (f : AddressFault)
  /-- The answer could not be read as what was asked for; the reader says why. -/
  | unreadable (complaint : String)
  /-- Anything else that a client may run into. -/
  | other (message : String) (under : List String)
deriving DecidableEq

namespace ClientFailure

/-- The text of a failed request. -/
def message : ClientFailure → String
  | refused r => "ApiError: " ++ r.text ++ " (" ++ r.details ++ ")"
  | broken m _ => "ServiceError: " ++ m
  | tlsRequired => "TLS required but no TLS stack selected"
  | brokenLines => "Error finding newline character"
  | emptyName => "Failed to build request: failed to validate request: A non-empty name is required"
  | badAddress f => "Failed to build request: failed to build request: " ++ f.text
  | unreadable complaint => "Error deserializing response: " ++ complaint
  | other m _ => m

/-- The texts of what lies under a failed request. -/
def causes : ClientFailure → List String
  | refused r => [r.text]
  | broken m under => m :: under
  | tlsRequired => []
  | brokenLines => []
  | emptyName => ["failed to validate request: A non-empty name is required"]
  | badAddress f => ["failed to build request: " ++ f.text, f.text]
  | unreadable complaint => [complaint]
  | other _ under => under

/-- Whether the same request may succeed later. -/
def retryable : ClientFailure → Bool
  | refused r => r.retryable
  | _ => true

/-- Whether the cluster refused with that code. -/
def hasCode (code : Nat) : ClientFailure → Bool
  | refused r => r.code == code
  | _ => false

end ClientFailure

/-- A failure of a pass. -/
inductive Failure where
  /-- A request to the cluster failed. -/
  | client (e : ClientFailure)
  /-- The service, or the configuration, is not acceptable. -/
  | invalid (service message : String)
  /-- The reconciler of a component failed. -/
  | component (kind : Kind) (cause : Failure)
  /-- The ingress reconciler failed. -/
  | ingress (cause : Failure)
  /-- The status could not be written. -/
  | statusWrite (service : String) (cause : Failure)
  /-- Something else went wrong. -/
  | internal (context message : String)
deriving DecidableEq

namespace Failure

/-- What stands for a service or a context that nobody named. -/
def unnamed : String := "unknown"

/-- The service disappeared during the pass. -/
def gone (name : String) : Failure := client (.refused (Refusal.absent "inferenceservices" name))

/-- The service has no namespace. -/
def unscoped (name : String) : Failure := invalid name "InferenceService must be namespaced"

/-- The text of a failure. -/
def message : Failure → String
  | client e => "kubernetes error: " ++ e.message
  | invalid service m => "validation error for " ++ service ++ ": " ++ m
  | component kind cause => "failed to reconcile " ++ kind.name ++ " component: " ++ cause.message
  | ingress cause => "failed to reconcile ingress: " ++ cause.message
  | statusWrite service cause => "failed to update status for " ++ service ++ ": " ++ cause.message
  | internal context m => "internal error [" ++ context ++ "]: " ++ m

/-- The texts of what lies under a failure, from the outside in. -/
def causes : Failure → List String
  | client e => e.message :: e.causes
  | invalid _ _ => []
  | component _ cause => cause.message :: cause.causes
  | ingress cause => cause.message :: cause.causes
  | statusWrite _ cause => cause.message :: cause.causes
  | internal _ _ => []

/-- Whether another pass may succeed although nothing about the service changed. -/
def retryable : Failure → Bool
  | client e => e.retryable
  | invalid _ _ => false
  | component _ cause => cause.retryable
  | ingress cause => cause.retryable
  | statusWrite _ cause => cause.retryable
  | internal _ _ => true

/-- Whether the cluster refused with that code, directly or when the status was written. -/
def hasCode (code : Nat) : Failure → Bool
  | client e => e.hasCode code
  | statusWrite _ cause => cause.hasCode code
  | _ => false

/-- Whether the service no longer exists. -/
def notFound (e : Failure) : Bool := e.hasCode 404

/-- Whether a write lost a race. -/
def conflict (e : Failure) : Bool := e.hasCode 409

/-- The component whose reconciler failed. -/
def failedComponent? : Failure → Option Kind
  | component kind _ => some kind
  | _ => none

end Failure

end ModelServing
