import ModelServing.Deployment
import ModelServing.Shape.Pod

/-!
# Workloads as JSON

A workload is a plain object whose spec has to fit although nobody reads it. What it reports about itself is read field
by field, and written again without what is missing.
-/

namespace ModelServing

namespace DeploymentCondition

/-- Type and status are always written. -/
def toJson (c : DeploymentCondition) : Json :=
  Json.ofMembers [
    ("type", some (.str c.type)),
    ("status", some (.str c.status)),
    ("reason", c.reason.map .str),
    ("message", c.message.map .str),
    ("lastTransitionTime", c.lastTransitionTime.map Instant.toJson),
    ("lastUpdateTime", c.lastUpdateTime.map Instant.toJson)]

/-- Type and status may be missing and are then empty. -/
def ofJson? (j : Json) : Option DeploymentCondition := do
  let ms ← j.obj?
  let type ← Json.field? Json.str? ms "type"
  let status ← Json.field? Json.str? ms "status"
  let reason ← Json.field? Json.str? ms "reason"
  let message ← Json.field? Json.str? ms "message"
  let lastTransitionTime ← Json.field? Instant.ofJson? ms "lastTransitionTime"
  let lastUpdateTime ← Json.field? Instant.ofJson? ms "lastUpdateTime"
  some ⟨type.getD "", status.getD "", reason, message, lastTransitionTime, lastUpdateTime⟩

end DeploymentCondition

namespace DeploymentStatus

/-- A number of replicas, written. -/
def count (n : Option Int32) : Option Json := n.map fun n => .int n.toInt

/-- The fields that are there. -/
def toJson (s : DeploymentStatus) : Json :=
  Json.ofMembers [
    ("replicas", count s.replicas),
    ("readyReplicas", count s.readyReplicas),
    ("availableReplicas", count s.availableReplicas),
    ("unavailableReplicas", count s.unavailableReplicas),
    ("updatedReplicas", count s.updatedReplicas),
    ("collisionCount", count s.collisionCount),
    ("observedGeneration", s.observedGeneration.map fun n => .int n.toInt),
    ("conditions", s.conditions.map fun cs => .arr (cs.map DeploymentCondition.toJson))]

/-- Every field may be missing. -/
def ofJson? (j : Json) : Option DeploymentStatus := do
  let ms ← j.obj?
  let replicas ← Json.field? Int32.ofJson? ms "replicas"
  let readyReplicas ← Json.field? Int32.ofJson? ms "readyReplicas"
  let availableReplicas ← Json.field? Int32.ofJson? ms "availableReplicas"
  let unavailableReplicas ← Json.field? Int32.ofJson? ms "unavailableReplicas"
  let updatedReplicas ← Json.field? Int32.ofJson? ms "updatedReplicas"
  let collisionCount ← Json.field? Int32.ofJson? ms "collisionCount"
  let observedGeneration ← Json.field? Int64.ofJson? ms "observedGeneration"
  let conditions ← Json.field? (Json.list? DeploymentCondition.ofJson?) ms "conditions"
  some ⟨replicas, readyReplicas, availableReplicas, unavailableReplicas, updatedReplicas, collisionCount,
    observedGeneration, conditions⟩

end DeploymentStatus

namespace Deployment

/-- The fields of a workload that are only checked. -/
def unread : Shape := .record [("spec", .deploymentSpec)]

/-- A workload; metadata and status may be missing. -/
def ofJson? (j : Json) : Option Deployment := do
  let ms ← j.ofType? "apps/v1" "Deployment"
  let metadata ← Json.field? Metadata.ofJson? ms "metadata"
  let status ← Json.field? DeploymentStatus.ofJson? ms "status"
  if unread.accepts [] j then some ⟨metadata.getD {}, status⟩ else none

end Deployment

end ModelServing
