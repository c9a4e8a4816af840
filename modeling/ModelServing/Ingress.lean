import ModelServing.Config
import ModelServing.Reconciler
import ModelServing.Text.Blank

/-!
# Ingress

The reconciler that runs after all components: it forgets components that are no longer asked for, publishes where
traffic enters and under which address the world reaches the service, and sums the conditions of the components up in
the condition `Ready`.

* `Ingress.prune` forgets, `Ingress.entry` is the component where traffic enters;
* `Ingress.reports` are the conditions that count, `Ingress.summary` is their sum: one that is false decides, else one
  that is unknown, and the first such one gives the reason;
* `Ingress.reconcile` is the reconciler.
-/

namespace ModelServing.Ingress

/-- The status without what belongs to components that are not requested. -/
def prune (requested : List Kind) (s : Status) : Status :=
  { s with
    components := s.components.restrict requested
    conditions := s.conditions.filter fun c =>
      Kind.all.all fun k => decide (k ∈ requested ∨ c.type ≠ k.conditionType) }

/-- The component where traffic enters: the transformer if there is one. -/
def entry (requested : List Kind) : Kind := if Kind.transformer ∈ requested then .transformer else .predictor

/-- Whether traffic can enter. -/
def routeCondition (entry : Kind) (address : Option String) (now : Instant) : Condition :=
  match address with
  | some _ => ⟨Condition.ingressReady, .yes, "RouteReady", "Traffic routed to the " ++ entry.name, now⟩
  | none => ⟨Condition.ingressReady, .no, "EndpointNotPublished",
      "Waiting for the " ++ entry.name ++ " to publish its endpoint", now⟩

/-- A condition as it counts for readiness. -/
structure Report where
  type : String
  value : Truth
  message : String
deriving DecidableEq

/-- What the first condition of a type says; one that is absent is unknown. -/
def report (s : Status) (type : String) : Report :=
  match s.condition? type with
  | some c => ⟨type, c.status, c.message⟩
  | none => ⟨type, .unknown, type ++ " not reported"⟩

/-- The reports of the requested components, in order, and of the ingress. -/
def reports (s : Status) (requested : List Kind) : List Report :=
  (requested.map Kind.conditionType ++ [Condition.ingressReady]).map (report s)

/-- The sum of reports. -/
def summary (reports : List Report) (now : Instant) : Condition :=
  match reports.find? (·.value == .no), reports.find? (·.value == .unknown) with
  | some r, _ => ⟨Condition.ready, .no, r.type ++ "False", r.message, now⟩
  | none, some r => ⟨Condition.ready, .unknown, r.type ++ "Unknown", r.message, now⟩
  | none, none => ⟨Condition.ready, .yes, "AllComponentsReady", "InferenceService is serving", now⟩

/-- The status with the entry and the outside address published. -/
def route (url : String) (requested : List Kind) (now : Instant) (s : Status) : Status :=
  let address := s.address? (entry requested)
  { s with address := address, url := some url }.place (routeCondition (entry requested) address now)

/-- The status after the ingress: pruned, routed at `now`, and summed up at `later`. -/
def settled (url : String) (requested : List Kind) (generation : Option Int64) (now later : Instant) (s : Status) :
    Status :=
  let routed := route url requested now (prune requested s)
  { routed.place (summary (reports routed requested) later) with observedGeneration := generation }

/-- The reconciler of the ingress. -/
def reconcile (config : IngressConfig) : Reconciler := fun s =>
  match s.metadata.ns with
  | none => .done ⟨s, some (.unscoped s.name)⟩
  | some ns =>
    if Text.isBlank config.domain then .done ⟨s, some (.invalid s.name "ingress domain must not be empty")⟩
    else
      .ask .clock fun now => .ask .clock fun later =>
        .done ⟨s.withStatus (settled (config.url s.name ns) s.spec.requested s.metadata.generation now later
          s.statusOrEmpty), none⟩

end ModelServing.Ingress
