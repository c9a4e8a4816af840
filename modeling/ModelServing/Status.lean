import ModelServing.Component
import ModelServing.Condition

/-!
# The status of a service

What the controller publishes about a service.

* `Status.condition?` reads the first condition of a type, `Status.place` puts one in;
* `Status.address?` is the endpoint that a component published;
* `Status.isReady` says whether the condition `Ready` is true; a service without status is not ready.
-/

namespace ModelServing

/-- The observed state of a service; `observedGeneration` is that of the spec that it was computed from. -/
structure Status where
  conditions : List Condition := []
  url : Option String := none
  address : Option String := none
  components : KindMap ComponentStatus := ⟨none, none, none⟩
  observedGeneration : Option Int64 := none
deriving DecidableEq, Inhabited

namespace Status

/-- The first condition of a type. -/
def condition? (s : Status) (type : String) : Option Condition := Condition.first type s.conditions

/-- The status with a condition put in. -/
def place (s : Status) (c : Condition) : Status := { s with conditions := c.place s.conditions }

/-- The condition of the service as a whole. -/
def ready? (s : Status) : Option Condition := s.condition? Condition.ready

/-- The endpoint of a component, once it is published. -/
def address? (s : Status) (k : Kind) : Option String := (s.components.get k).bind (·.address)

/-- The status with a new observation of one component. -/
def observe (s : Status) (k : Kind) (c : ComponentStatus) : Status := { s with components := s.components.set k c }

/-- Whether a status, if there is one, has a true condition `Ready`. -/
def isReady : Option Status → Bool
  | none => false
  | some s => (s.ready?.map Condition.holds).getD false

theorem condition?_place (s : Status) (c : Condition) (type : String) :
    (s.place c).condition? type =
      if type = c.type then some ((s.condition? type).elim c c.follow) else s.condition? type :=
  Condition.first_place c type s.conditions

end Status

/-- How readiness moved from one status to the next. -/
inductive Transition where
  | becameReady
  | becameNotReady
  | unchanged
deriving DecidableEq

namespace Transition

/-- The move from `old` to `new`. -/
def between (old new : Option Status) : Transition :=
  match Status.isReady old, Status.isReady new with
  | false, true => .becameReady
  | true, false => .becameNotReady
  | _, _ => .unchanged

/-- The move as text. -/
def text : Transition → String
  | becameReady => "BecameReady"
  | becameNotReady => "BecameNotReady"
  | unchanged => "Unchanged"

end Transition

end ModelServing
