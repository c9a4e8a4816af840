import ModelServing.Api.Request
import ModelServing.Deployment.Encoding
import ModelServing.Manifest
import ModelServing.Reconciler
import ModelServing.Shape.Definition

/-!
# The client

What the controller asks of the cluster, as requests.

* `Client.fetchService` and `Client.fetchDeployment` read an object, one that does not exist being no failure;
* `Client.writeStatus` applies the status of a service over the version that it carries;
* `Client.install` applies the resource definition.
-/

namespace ModelServing

namespace Client

/-- The name under which the controller owns what it applies. -/
def fieldManager : String := "inference-service-controller"

/-- The path of the workloads of a namespace, or of all. -/
def deployments (ns : Option String) : String :=
  match ns with
  | some ns => "/apis/apps/v1/namespaces/" ++ ns ++ "/deployments"
  | none => "/apis/apps/v1/deployments"

/-- The query of an apply that takes over the fields of others. -/
def applyQuery : String := "?&force=true&fieldManager=" ++ fieldManager

/-- The content type of an apply. -/
def applyType : String := "application/apply-patch+yaml"

/-- Sends a request, if its address allows, and reads its reply. -/
def send {α : Type} (decode : Json → Option α) (r : Except AddressFault Request) :
    Exchange (Except ClientFailure α) :=
  match r with
  | .error f => .done (.error (.badAddress f))
  | .ok r => .ask r fun reply => .done (reply.read decode)

/-- The object `name` under `path`, if it exists. -/
def get? {α : Type} (decode : Json → Option α) (path name : String) : Exchange (Except Failure (Option α)) :=
  if name = "" then .done (.error (.client .emptyName))
  else
    (send decode (Request.ofUrl "GET" (path ++ "/" ++ name) none .none)).bind fun
      | .ok a => .done (.ok (some a))
      | .error (.refused r) => .done (if r.reason = "NotFound" then .ok none else .error (.client (.refused r)))
      | .error e => .done (.error (.client e))

/-- The stored service. -/
def fetchService (key : Key) : Exchange (Except Failure (Option Service)) :=
  get? Service.ofJson? (Manifest.path (some key.ns)) key.name

/-- The workload. -/
def fetchDeployment (key : Key) : Exchange (Except Failure (Option Deployment)) :=
  get? Deployment.ofJson? (deployments (some key.ns)) key.name

/-- What is sent to write a status: the whole status, and the version that it is meant for. -/
def statusPatch (s : Service) (ns : String) : Json :=
  .obj [
    ("apiVersion", .str Service.apiVersion),
    ("kind", .str Service.kindName),
    ("metadata", .obj [
      ("name", .str s.name),
      ("namespace", .str ns),
      ("resourceVersion", Json.orNull (s.metadata.resourceVersion.map .str))]),
    ("status", Json.orNull (s.status.map Status.toJson))]

/-- The request that writes a status. -/
def statusRequest (s : Service) (ns : String) : Except AddressFault Request :=
  Request.ofUrl "PATCH" (Manifest.path (some ns) ++ "/" ++ s.name ++ "/status" ++ applyQuery) (some applyType)
    (.json (statusPatch s ns))

/-- Writes the status of a service. -/
def writeStatus (s : Service) : Exchange (Except Failure Unit) :=
  match s.metadata.ns with
  | none => .done (.error (.unscoped s.name))
  | some ns =>
    if s.name = "" then .done (.error (.client .emptyName))
    else
      (send Service.ofJson? (statusRequest s ns)).bind fun
        | .ok _ => .done (.ok ())
        | .error e => .done (.error (.client e))

/-- The path of the resource definitions. -/
def definitions : String := "/apis/apiextensions.k8s.io/v1/customresourcedefinitions"

/-- A resource definition, which is only checked. -/
def definition? (j : Json) : Option Unit := do
  let _ ← j.ofType? "apiextensions.k8s.io/v1" "CustomResourceDefinition"
  if Shape.definition.accepts Shape.schemaFields j then some () else none

/-- Installs the resource definition; a failure is told as a text. -/
def install : Exchange (Except String Unit) :=
  let url := definitions ++ "/" ++ Manifest.name ++ applyQuery
  (send definition? (Request.ofUrl "PATCH" url (some applyType) (.json Manifest.json))).bind fun
    | .ok _ => .done (.ok ())
    | .error e => .done (.error ("failed to install " ++ Manifest.name ++ " CRD: " ++ e.message))

end Client

end ModelServing
