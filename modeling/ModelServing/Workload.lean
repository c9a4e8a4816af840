import ModelServing.Reconciler

/-!
# Components by their workloads

The reconciler of a component that is served by a workload of its own, which somebody else builds. It looks at the
workload, publishes the endpoint of the component once the workload serves, and sets the condition of the component.
Transformer and explainer wait for the endpoint of the predictor before they are looked at.

* `Workload.name` and `Workload.address` are the names that the workload goes by;
* `Observation` is what a look at it shows, `Workload.waiting` and `Workload.observed` are the status afterwards;
* `Workload.reconcile` is the reconciler.
-/

namespace ModelServing

/-- What a look at a workload shows. -/
inductive Observation where
  | missing
  | unavailable (ready : Int32)
  | available (ready : Int32)
deriving DecidableEq

namespace Observation

/-- Whether the workload says that it is available. -/
def saysAvailable (s : DeploymentStatus) : Bool :=
  (s.conditions.getD []).any fun c => c.type == "Available" && c.status == "True"

/-- A workload is available if it says so and has a ready replica. -/
def ofDeployment : Option Deployment → Observation
  | none => missing
  | some d =>
    let s := d.status.getD {}
    let ready := s.readyReplicas.getD 0
    if saysAvailable s && decide (0 < ready) then available ready else unavailable ready

end Observation

namespace Workload

/-- The name of the workload that serves a component. -/
def name (service : String) (k : Kind) : String := service ++ "-" ++ k.name

/-- The endpoint of a workload inside the cluster. -/
def address (clusterDomain workload ns : String) : String :=
  "http://" ++ workload ++ "." ++ ns ++ ".svc." ++ clusterDomain

/-- The component as the observation shows it; `endpoint` is published if it serves. -/
def component (endpoint : String) : Observation → ComponentStatus
  | .missing => {}
  | .unavailable ready => ⟨ready, none⟩
  | .available ready => ⟨ready, some endpoint⟩

/-- The condition of the component as the observation of `workload` shows it. -/
def condition (k : Kind) (workload : String) (now : Instant) : Observation → Condition
  | .missing =>
    ⟨k.conditionType, .unknown, "WorkloadNotFound", "Deployment " ++ workload ++ " not found", now⟩
  | .unavailable _ =>
    ⟨k.conditionType, .no, "WorkloadUnavailable", "Deployment " ++ workload ++ " is not available", now⟩
  | .available _ =>
    ⟨k.conditionType, .yes, "WorkloadAvailable", "Deployment " ++ workload ++ " is available", now⟩

/-- The status after the component was found to wait for the predictor. -/
def waiting (k : Kind) (now : Instant) (s : Status) : Status :=
  (s.observe k {}).place
    ⟨k.conditionType, .no, "PredictorNotReady", "Waiting for the predictor to publish its endpoint", now⟩

/-- The status after a look at the workload. -/
def observed (k : Kind) (workload endpoint : String) (o : Observation) (now : Instant) (s : Status) : Status :=
  (s.observe k (component endpoint o)).place (condition k workload now o)

/-- Whether the component has to wait: it is not the predictor, and the predictor has no endpoint. -/
def blocked (k : Kind) (s : Status) : Bool := k != .predictor && (s.address? .predictor).isNone

/-- The reconciler of a component. -/
def reconcile (clusterDomain : String) (k : Kind) : Reconciler := fun s =>
  match s.metadata.ns with
  | none => .done ⟨s, some (.unscoped s.name)⟩
  | some ns =>
    let status := s.statusOrEmpty
    if blocked k status then
      .ask .clock fun now => .done ⟨s.withStatus (waiting k now status), none⟩
    else
      let workload := name s.name k
      .ask (.deployment ⟨ns, workload⟩) fun
        | .error e => .done ⟨s.withStatus status, some e⟩
        | .ok found => .ask .clock fun now =>
          .done ⟨s.withStatus (observed k workload (address clusterDomain workload ns)
            (.ofDeployment found) now status), none⟩

end Workload

end ModelServing
