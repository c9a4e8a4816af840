import ModelServing.Metadata

/-!
# Workloads

A deployment runs the pods of one component. Somebody else writes its spec; what it reports about itself is all that
the controller looks at.
-/

namespace ModelServing

/-- A condition that a workload reports about itself. -/
structure DeploymentCondition where
  type : String := ""
  status : String := ""
  reason : Option String := none
  message : Option String := none
  lastTransitionTime : Option Instant := none
  lastUpdateTime : Option Instant := none
deriving DecidableEq

/-- What a workload reports about itself. -/
structure DeploymentStatus where
  replicas : Option Int32 := none
  readyReplicas : Option Int32 := none
  availableReplicas : Option Int32 := none
  unavailableReplicas : Option Int32 := none
  updatedReplicas : Option Int32 := none
  collisionCount : Option Int32 := none
  observedGeneration : Option Int64 := none
  conditions : Option (List DeploymentCondition) := none
deriving DecidableEq

/-- A workload. -/
structure Deployment where
  metadata : Metadata := {}
  status : Option DeploymentStatus := none
deriving DecidableEq

end ModelServing
