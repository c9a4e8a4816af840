import ModelServing.Service

/-!
# Events

What the controller tells people about a service. Telling is all: nothing waits for an event, and one that gets lost
changes nothing else.

* `Event.failed`, `Event.writeFailed` and `Event.flipped?` are the events of a pass.
-/

namespace ModelServing

/-- Whether an event is good news. -/
inductive EventType where
  | normal
  | warning
deriving DecidableEq

/-- The type as text. -/
def EventType.text : EventType → String
  | .normal => "Normal"
  | .warning => "Warning"

/-- Something that happened to the object that `regarding` points at. -/
structure Event where
  type : EventType
  reason : String
  action : String
  note : Option String
  regarding : Reference
deriving DecidableEq

namespace Event

/-! ### reasons and actions -/

/-- A component or the ingress could not be reconciled. -/
def internalError : String := "InternalError"

/-- The status could not be written. -/
def updateFailed : String := "UpdateFailed"

/-- The service became ready. -/
def ready : String := "InferenceServiceReady"

/-- The service was ready and no longer is. -/
def notReady : String := "InferenceServiceNotReady"

/-- Components and ingress were being reconciled. -/
def reconcile : String := "Reconcile"

/-- The status was being written. -/
def updateStatus : String := "UpdateStatus"

/-! ### the events of a pass -/

/-- A step named `step` failed with `message`. -/
def failed (regarding : Reference) (step message : String) : Event :=
  ⟨.warning, internalError, reconcile, some ("Failed to reconcile " ++ step ++ ": " ++ message), regarding⟩

/-- The status of the service `name` could not be written. -/
def writeFailed (regarding : Reference) (name message : String) : Event :=
  ⟨.warning, updateFailed, updateStatus,
    some ("Failed to update status for InferenceService \"" ++ name ++ "\": " ++ message), regarding⟩

/-- The event of a move of readiness, if it calls for one. -/
def flipped? (regarding : Reference) (name : String) : Transition → Option Event
  | .becameReady => some
    ⟨.normal, ready, updateStatus, some ("InferenceService [" ++ name ++ "] is Ready"), regarding⟩
  | .becameNotReady => some
    ⟨.warning, notReady, updateStatus, some ("InferenceService [" ++ name ++ "] is no longer Ready"), regarding⟩
  | .unchanged => none

end Event

end ModelServing
