import ModelServing.Time.Instant

/-!
# Conditions

A condition is one observation about a service under a type of its own, with the time since when its value holds.

* `Truth` is its value;
* `Condition.place` puts a condition into a list: over the first one of its type, whose time stays if the value does,
  or at the end;
* `first_place` says what is found afterwards, `Condition.first` being the first condition of a type.
-/

namespace ModelServing

/-- The value of a condition. -/
inductive Truth where
  | yes
  | no
  | unknown
deriving DecidableEq, Inhabited

namespace Truth

/-- Every value. -/
def all : List Truth := [yes, no, unknown]

/-- The value as text. -/
def text : Truth → String
  | yes => "True"
  | no => "False"
  | unknown => "Unknown"

/-- The value that a text stands for. -/
def ofText? (s : String) : Option Truth := all.find? fun v => v.text == s

theorem ofText?_text (v : Truth) : ofText? v.text = some v := by cases v <;> decide

end Truth

/-- One observation: its type, value, reason for programs and message for people, and since when the value holds. -/
structure Condition where
  type : String
  status : Truth
  reason : String
  message : String
  since : Instant
deriving DecidableEq

namespace Condition

/-! ### well-known types -/

/-- Whether the service as a whole serves. -/
def ready : String := "Ready"

/-- Whether traffic reaches the service. -/
def ingressReady : String := "IngressReady"

/-- Whether the value is plainly true. -/
def holds (c : Condition) : Bool := c.status == .yes

/-! ### lists of conditions -/

/-- `c` as the successor of `old`: the time of `old` stays as long as the value does. -/
def follow (c old : Condition) : Condition := if old.status = c.status then { c with since := old.since } else c

/-- `c` over the first condition of its type, or at the end. -/
def place (c : Condition) : List Condition → List Condition
  | [] => [c]
  | old :: r => if old.type = c.type then c.follow old :: r else old :: place c r

/-- The first condition of a type. -/
def first (type : String) : List Condition → Option Condition
  | [] => none
  | c :: r => if c.type = type then some c else first type r

@[simp] theorem follow_type (c old : Condition) : (c.follow old).type = c.type := by
  unfold follow; split <;> rfl

@[simp] theorem follow_status (c old : Condition) : (c.follow old).status = c.status := by
  unfold follow; split <;> rfl

theorem first_place (c : Condition) (type : String) (l : List Condition) :
    first type (place c l) =
      if type = c.type then some ((first type l).elim c c.follow) else first type l := by
  induction l with
  | nil =>
    by_cases h : type = c.type
    · simp [place, first, h]
    · simp [place, first, h, Ne.symm h]
  | cons old r ih =>
    by_cases ho : old.type = c.type
    · by_cases h : type = c.type
      · simp [place, first, ho, h]
      · simp [place, first, ho, h, Ne.symm h]
    · by_cases h : old.type = type
      · have : ¬ type = c.type := fun h' => ho (h.trans h')
        simp [place, first, h, this]
      · simp [place, first, ho, h, ih]

end Condition

end ModelServing
