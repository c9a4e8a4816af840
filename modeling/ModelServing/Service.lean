import ModelServing.Metadata
import ModelServing.Status

/-!
# Services

A service is a namespaced object of the cluster: metadata, a spec that people write, and a status that the controller
writes.

* `Spec.requested` are the kinds of its components, in order;
* `Service.name` is the name it goes by, `Key` its identity, `Service.reference` how events point at it.
-/

namespace ModelServing

/-- The components that are asked for; there is always a predictor. -/
structure Spec where
  predictor : ComponentSpec
  transformer : Option ComponentSpec := none
  explainer : Option ComponentSpec := none
deriving DecidableEq, Inhabited

namespace Spec

/-- What is asked of a component, if it is asked for. -/
def component? (s : Spec) : Kind → Option ComponentSpec
  | .predictor => some s.predictor
  | .transformer => s.transformer
  | .explainer => s.explainer

/-- The kinds that are asked for, in order. -/
def requested (s : Spec) : List Kind := Kind.all.filter fun k => (s.component? k).isSome

theorem mem_requested {s : Spec} {k : Kind} : k ∈ s.requested ↔ (s.component? k).isSome = true := by
  simp [requested, Kind.mem_all]

theorem nodup_requested (s : Spec) : s.requested.Nodup := List.Pairwise.filter _ (by decide)

end Spec

/-- An inference service. -/
structure Service where
  metadata : Metadata
  spec : Spec
  status : Option Status := none
deriving DecidableEq, Inhabited

/-- The identity of a service: its namespace and its name. -/
structure Key where
  ns : String
  name : String
deriving DecidableEq, Inhabited

/-- The key as text. -/
def Key.text (k : Key) : String := k.ns ++ "/" ++ k.name

namespace Service

/-! ### the type of the objects -/

/-- The API group. -/
def group : String := "serving.kubeflow.org"

/-- The version within the group. -/
def version : String := "v1beta1"

/-- Group and version. -/
def apiVersion : String := group ++ "/" ++ version

/-- The name of the type. -/
def kindName : String := "InferenceService"

/-- The name of the type in paths. -/
def plural : String := "inferenceservices"

/-! ### identity -/

/-- The name of the object, or the stem of the name that it is about to get. -/
def name (s : Service) : String :=
  match s.metadata.name with
  | some n => n
  | none => s.metadata.generateName.getD ""

/-- The namespace and name of the object, if it has a namespace. -/
def key? (s : Service) : Option Key := s.metadata.ns.map (⟨·, s.name⟩)

/-- The reference of events about the object. -/
def reference (s : Service) : Reference :=
  { apiVersion := some apiVersion, kind := some kindName, name := s.metadata.name, ns := s.metadata.ns
    uid := s.metadata.uid }

/-- The object with another status. -/
def withStatus (s : Service) (status : Status) : Service := { s with status := some status }

/-- The status, the empty one if there is none. -/
def statusOrEmpty (s : Service) : Status := s.status.getD {}

end Service

end ModelServing
