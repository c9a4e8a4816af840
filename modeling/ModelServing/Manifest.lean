import ModelServing.Service
import ModelServing.Yaml

/-!
# The resource definition

The definition by which a cluster learns about inference services: names, versions, the columns of listings, and the
schema of spec and status.

* `Manifest.json` is the definition, `Manifest.yaml` its document, `Manifest.name` the name of the definition itself;
* `Manifest.path` is the path of all services, or of those in one namespace.
-/

namespace ModelServing.Manifest

/-- The name of the definition. -/
def name : String := Service.plural ++ "." ++ Service.group

/-- The short names of the type. -/
def shortNames : List String := ["isvc"]

/-- The path of the services of a namespace, or of all. -/
def path (ns : Option String) : String :=
  let root := "/apis/" ++ Service.apiVersion
  match ns with
  | some ns => root ++ "/namespaces/" ++ ns ++ "/" ++ Service.plural
  | none => root ++ "/" ++ Service.plural

/-! ### schemas -/

/-- A text. -/
def text (description : String) (more : List (String × Json)) : Json :=
  .obj (("description", .str description) :: more ++ [("type", .str "string")])

/-- A whole number in a format. -/
def number (description format : String) (more : List (String × Json)) : Json :=
  .obj ([("description", .str description), ("format", .str format)] ++ more ++ [("type", .str "integer")])

/-- A value that may be null. -/
def nullable : String × Json := ("nullable", .bool true)

/-- Zero with a fraction, as bounds are written. -/
def zero : Json := .float ⟨false, 0, 0⟩

/-- The number of replicas, bounded on one side. -/
def replicas (description : String) : Json := number description "uint32" [("minimum", zero), nullable]

/-- The spec of a component. -/
def component (description : String) (optional : Bool) : Json :=
  .obj (("description", .str description) :: (if optional then [nullable] else []) ++ [
    ("properties", .obj [
      ("maxReplicas", replicas "Maximum number of replicas"),
      ("minReplicas", replicas "Minimum number of replicas"),
      ("parameters", .obj [
        ("additionalProperties", .obj [("type", .str "string")]),
        ("description", .str "Component-specific parameters, passed through to the component reconciler"),
        ("type", .str "object")]),
      ("serviceAccountName", text "Service account the component's pods run as" [nullable])]),
    ("type", .str "object")])

/-- The spec. -/
def spec : Json :=
  .obj [
    ("description", .str "Desired serving topology"),
    ("properties", .obj [
      ("explainer", component "Optional explainer for predictor outputs" true),
      ("predictor", component "Model server; always reconciled first" false),
      ("transformer", component "Optional pre/post-processor in front of the predictor" true)]),
    ("required", .arr [.str "predictor"]),
    ("type", .str "object")]

/-- The status of a component. -/
def componentStatus : Json :=
  .obj [
    ("description", .str "Observed state of a single component"),
    ("properties", .obj [
      ("address", text "Cluster-internal endpoint published once the component is serving" [nullable]),
      ("readyReplicas", .obj [
        ("default", .int 0),
        ("description", .str "Ready replicas of the component's workload"),
        ("format", .str "int32"),
        ("type", .str "integer")])]),
    ("type", .str "object")]

/-- A text that is empty unless it is given. -/
def optionalText (description : String) : Json :=
  .obj [("default", .str ""), ("description", .str description), ("type", .str "string")]

/-- A condition. -/
def condition : Json :=
  .obj [
    ("description", .str "Kubernetes-style condition for status reporting"),
    ("properties", .obj [
      ("lastTransitionTime", .obj [
        ("description", .str "Last time the condition's status changed"),
        ("format", .str "date-time"),
        ("type", .str "string")]),
      ("message", optionalText "Human-readable message"),
      ("reason", optionalText "Machine-readable reason for the condition"),
      ("status", text "Status of the condition (True, False, Unknown)"
        [("enum", .arr (Truth.all.map fun v => .str v.text))]),
      ("type", text "Type of condition (e.g., Ready, PredictorReady)" [])]),
    ("required", .arr [.str "lastTransitionTime", .str "status", .str "type"]),
    ("type", .str "object")]

/-- The status. -/
def status : Json :=
  .obj [
    ("description", .str "Observed state of an InferenceService"),
    nullable,
    ("properties", .obj [
      ("address", text "Cluster-internal address traffic enters through" [nullable]),
      ("components", .obj [
        ("additionalProperties", componentStatus),
        ("description", .str "Per-component state"),
        ("type", .str "object")]),
      ("conditions", .obj [
        ("description", .str "Conditions, including the distinguished \x60Ready\x60 condition"),
        ("items", condition),
        ("type", .str "array")]),
      ("observedGeneration",
        number "Generation of the spec this status was computed from" "int64" [nullable]),
      ("url", text "External URL of the service" [nullable])]),
    ("type", .str "object")]

/-- The whole object. -/
def schema : Json :=
  .obj [
    ("description", .str "Auto-generated derived type for InferenceServiceSpec via \x60CustomResource\x60"),
    ("properties", .obj [("spec", spec), ("status", status)]),
    ("required", .arr [.str "spec"]),
    ("title", .str Service.kindName),
    ("type", .str "object")]

/-! ### the definition -/

/-- A column of listings. -/
def column (path name type : String) : Json :=
  .obj [("jsonPath", .str path), ("name", .str name), ("type", .str type)]

/-- The definition as a value. -/
def json : Json :=
  .obj [
    ("apiVersion", .str "apiextensions.k8s.io/v1"),
    ("kind", .str "CustomResourceDefinition"),
    ("metadata", .obj [("name", .str name)]),
    ("spec", .obj [
      ("group", .str Service.group),
      ("names", .obj [
        ("categories", .arr []),
        ("kind", .str Service.kindName),
        ("plural", .str Service.plural),
        ("shortNames", .arr (shortNames.map .str)),
        ("singular", .str "inferenceservice")]),
      ("scope", .str "Namespaced"),
      ("versions", .arr [.obj [
        ("additionalPrinterColumns", .arr [
          column ".status.url" "URL" "string",
          column ".status.conditions[?(@.type==\"Ready\")].status" "Ready" "string",
          column ".metadata.creationTimestamp" "Age" "date"]),
        ("name", .str Service.version),
        ("schema", .obj [("openAPIV3Schema", schema)]),
        ("served", .bool true),
        ("storage", .bool true),
        ("subresources", .obj [("status", .obj [])])]])])]

/-- The definition as a document. -/
def yaml : String := Yaml.render json

end ModelServing.Manifest
