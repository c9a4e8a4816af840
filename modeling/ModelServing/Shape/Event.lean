import ModelServing.Shape

/-!
# Shapes of events

`Shape.event` is an event as the cluster keeps it. One that is told more than once says when it was told last.
-/

namespace ModelServing.Shape

/-- What an event points at. -/
def reference : Shape :=
  record (each text ["apiVersion", "fieldPath", "kind", "name", "namespace", "resourceVersion", "uid"])

/-- The fields of an event which stand there for older clients. -/
def eventHistory : List (String × Shape) := [
  ("deprecatedCount", int32),
  ("deprecatedFirstTimestamp", instant),
  ("deprecatedLastTimestamp", instant),
  ("deprecatedSource", record (each text ["component", "host"]))]

/-- An event. -/
def event : Shape :=
  record (eventHistory ++ each text ["action", "note", "reason", "reportingController", "reportingInstance", "type"] ++
    each reference ["regarding", "related"] ++ [
    ("eventTime", instant),
    ("metadata", metadata),
    ("series", record [("count", int32), ("lastObservedTime", instant)])])

end ModelServing.Shape
