import ModelServing.Api.Client
import ModelServing.Shape.Event

/-!
# Recorders

A recorder files events with the cluster. The first event of its kind is posted; one that is told again, whatever its
note, only raises the count of the first.

* `Recorder.record` is the record to be sent for an event, `Recorder.publish` sends it and remembers it if it arrived;
* an event that does not arrive is dropped.
-/

namespace ModelServing

/-- What makes two events the same. -/
structure EventKey where
  type : EventType
  action : String
  reason : String
  regarding : Reference
deriving DecidableEq

/-- What makes an event the same as another. -/
def Event.key (e : Event) : EventKey := ⟨e.type, e.action, e.reason, e.regarding⟩

/-- A recorder: who reports, and the records so far with the names they are filed under. -/
structure Recorder where
  controller : String
  instanceName : String
  records : Table EventKey (String × EventRecord) := Table.empty

namespace Recorder

/-- The recorder of the controller, in the pod of that name. -/
def forPod (pod : Option String) : Recorder := ⟨Client.fieldManager, pod.getD Client.fieldManager, Table.empty⟩

/-- The record of an event that is told now, and the name to file it under: the first one of its kind, or one more of
them. -/
def record (r : Recorder) (e : Event) (now : Instant) : String × EventRecord :=
  match r.records.get? e.key with
  | some (name, old) => (name, { old with count := some ((old.count.getD 1) + 1), time := now })
  | none =>
    (e.regarding.name.getD r.controller ++ "." ++ String.ofList (Nat.toDigits 16 r.records.entries.length),
      ⟨e, none, now, r.controller, r.instanceName⟩)

/-- Where an event is filed: with what it is about, or in the default namespace if that has none. -/
def path (e : Event) : String := "/apis/events.k8s.io/v1/namespaces/" ++ e.regarding.ns.getD "default" ++ "/events"

/-- The request that files a record: a new one is posted, an old one patched. -/
def request (name : String) (record : EventRecord) : Except AddressFault Request :=
  match record.count with
  | none => Request.ofUrl "POST" (path record.event ++ "?") (some "application/json") (.event name record)
  | some _ =>
    Request.ofUrl "PATCH" (path record.event ++ "/" ++ name ++ "?") (some "application/merge-patch+json")
      (.event name record)

/-- Whether the series of an event, if it is one, says when the event was told last, and never leaves that open. -/
def dated (members : List (String × Json)) : Bool :=
  (members.filter (·.1 == "series")).all fun m =>
    match m.2 with
    | .obj series =>
      let times := series.filter (·.1 == "lastObservedTime")
      !times.isEmpty && times.all fun t => (Instant.ofJson? t.2).isSome
    | _ => true

/-- An event, which is only checked. -/
def event? (j : Json) : Option Unit := do
  let members ← j.ofType? "events.k8s.io/v1" "Event"
  if dated members && Shape.event.accepts [] j then some () else none

/-- Files an event that is told now. -/
def publish (r : Recorder) (e : Event) (now : Instant) : Exchange Recorder :=
  let (name, record) := r.record e now
  (Client.send event? (request name record)).bind fun
    | .ok _ => .done { r with records := r.records.insert e.key (name, record) }
    | .error _ => .done r

end Recorder

end ModelServing
