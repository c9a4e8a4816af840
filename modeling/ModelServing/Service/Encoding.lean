import ModelServing.Metadata.Encoding
import ModelServing.Service

/-!
# Services as JSON

How services and their parts are written, and what is read as one. A field that is empty or missing is not written.
Reading passes over unknown members, takes a missing field for its default where it has one, and accepts every record
but the metadata also as the array of its fields in order; only the array of a service has to be complete.

* `X.toJson` writes, `X.ofJson?` reads, for conditions, component specs and statuses, specs, statuses and services;
* `X.read?` reads in a given mode, for what has constants in it.
-/

namespace ModelServing

/-! ### components -/

namespace Kind

/-- A kind is written as its name. -/
def toJson (k : Kind) : Json := .str k.name

/-- The kind of a name. -/
def ofJson? (j : Json) : Option Kind := (j.constant? .direct).bind ofName?

end Kind

namespace ComponentSpec

/-- Settings that are absent are left out, and so are parameters of which there are none. -/
def toJson (c : ComponentSpec) : Json :=
  Json.ofMembers [
    ("minReplicas", c.minReplicas.map fun n => .int n.toNat),
    ("maxReplicas", c.maxReplicas.map fun n => .int n.toNat),
    ("serviceAccountName", c.serviceAccountName.map .str),
    ("parameters", if c.parameters.isEmpty then none else some c.parameters.toJson)]

/-- The fields of a component spec, in order. -/
def fields : List String := ["minReplicas", "maxReplicas", "serviceAccountName", "parameters"]

/-- Every setting may be missing; all but the parameters may be null. -/
def ofJson? (j : Json) : Option ComponentSpec := do
  match ← j.record? 0 fields with
  | [min, max, account, parameters] =>
    let min ← Json.optional UInt32.ofJson? min
    let max ← Json.optional UInt32.ofJson? max
    let account ← Json.optional Json.str? account
    let parameters ← Json.orElse Table.ofJson? Table.empty parameters
    some ⟨min, max, account, parameters⟩
  | _ => none

end ComponentSpec

namespace ComponentStatus

/-- The replicas are always written, the endpoint if there is one. -/
def toJson (c : ComponentStatus) : Json :=
  Json.ofMembers [("readyReplicas", some (.int c.readyReplicas.toInt)), ("address", c.address.map .str)]

/-- The fields of a component status, in order. -/
def fields : List String := ["readyReplicas", "address"]

/-- Missing replicas are none. -/
def ofJson? (j : Json) : Option ComponentStatus := do
  match ← j.record? 0 fields with
  | [replicas, address] =>
    let replicas ← Json.orElse Int32.ofJson? 0 replicas
    let address ← Json.optional Json.str? address
    some ⟨replicas, address⟩
  | _ => none

end ComponentStatus

/-! ### conditions -/

namespace Truth

/-- A truth value is written as its text. -/
def toJson (v : Truth) : Json := .str v.text

/-- The truth value of a text. -/
def read? (mode : Json.Mode) (j : Json) : Option Truth := (j.constant? mode).bind ofText?

/-- The truth value of a text, read as it comes. -/
def ofJson? (j : Json) : Option Truth := read? .direct j

end Truth

namespace Condition

/-- All fields of a condition are written. -/
def toJson (c : Condition) : Json :=
  .obj [("type", .str c.type), ("status", c.status.toJson), ("reason", .str c.reason), ("message", .str c.message),
    ("lastTransitionTime", .str c.since.text)]

/-- The fields of a condition, in order. -/
def fields : List String := ["type", "status", "reason", "message", "lastTransitionTime"]

/-- Reason and message may be missing and are then empty. -/
def read? (mode : Json.Mode) (j : Json) : Option Condition := do
  match ← j.record? 0 fields with
  | [type, status, reason, message, since] =>
    let type ← Json.require Json.str? type
    let status ← Json.require (Truth.read? mode) status
    let reason ← Json.orElse Json.str? "" reason
    let message ← Json.orElse Json.str? "" message
    let since ← Json.require Instant.ofJson? since
    some ⟨type, status, reason, message, since⟩
  | _ => none

/-- A condition, read as it comes. -/
def ofJson? (j : Json) : Option Condition := read? .direct j

end Condition

/-! ### statuses -/

namespace KindMap

variable {α : Type}

/-- The values under the names of their kinds. -/
def toJson (write : α → Json) (m : KindMap α) : Json := .obj (m.toList.map fun e => (e.1.name, write e.2))

/-- The map of a list of members; each name has to be that of a kind. -/
def ofMembers? (read : Json → Option α) : List (String × Json) → Option (KindMap α)
  | [] => some ⟨none, none, none⟩
  | m :: ms => do
    let k ← Kind.ofName? m.1
    let a ← read m.2
    let rest ← ofMembers? read ms
    some (if (rest.get k).isSome then rest else rest.set k a)

/-- An object whose members are named for kinds. -/
def ofJson? (read : Json → Option α) (j : Json) : Option (KindMap α) := j.obj?.bind (ofMembers? read)

end KindMap

namespace Status

/-- What is absent or empty is left out, so that the empty status is the empty object. -/
def toJson (s : Status) : Json :=
  Json.ofMembers [
    ("conditions", if s.conditions.isEmpty then none else some (.arr (s.conditions.map Condition.toJson))),
    ("url", s.url.map .str),
    ("address", s.address.map .str),
    ("components", if s.components.isEmpty then none else some (s.components.toJson ComponentStatus.toJson)),
    ("observedGeneration", s.observedGeneration.map fun n => .int n.toInt)]

/-- The fields of a status, in order. -/
def fields : List String := ["conditions", "url", "address", "components", "observedGeneration"]

/-- Every field may be missing; conditions and components may not be null. -/
def read? (mode : Json.Mode) (j : Json) : Option Status := do
  match ← j.record? 0 fields with
  | [conditions, url, address, components, generation] =>
    let conditions ← Json.orElse (Json.list? (Condition.read? mode)) [] conditions
    let url ← Json.optional Json.str? url
    let address ← Json.optional Json.str? address
    let components ← Json.orElse (KindMap.ofJson? ComponentStatus.ofJson?) ⟨none, none, none⟩ components
    let generation ← Json.optional Int64.ofJson? generation
    some ⟨conditions, url, address, components, generation⟩
  | _ => none

/-- A status, read as it comes. -/
def ofJson? (j : Json) : Option Status := read? .direct j

end Status

/-! ### services -/

namespace Spec

/-- The components that are asked for. -/
def toJson (s : Spec) : Json :=
  Json.ofMembers [
    ("predictor", some s.predictor.toJson),
    ("transformer", s.transformer.map ComponentSpec.toJson),
    ("explainer", s.explainer.map ComponentSpec.toJson)]

/-- The fields of a spec, in order. -/
def fields : List String := ["predictor", "transformer", "explainer"]

/-- The predictor has to be there. -/
def ofJson? (j : Json) : Option Spec := do
  match ← j.record? 0 fields with
  | [predictor, transformer, explainer] =>
    let predictor ← Json.require ComponentSpec.ofJson? predictor
    let transformer ← Json.optional ComponentSpec.ofJson? transformer
    let explainer ← Json.optional ComponentSpec.ofJson? explainer
    some ⟨predictor, transformer, explainer⟩
  | _ => none

end Spec

namespace Service

/-- A service is written with its type; a status only if there is one. -/
def toJson (s : Service) : Json :=
  Json.ofMembers [
    ("apiVersion", some (.str apiVersion)),
    ("kind", some (.str kindName)),
    ("metadata", some s.metadata.toJson),
    ("spec", some s.spec.toJson),
    ("status", s.status.map Status.toJson)]

/-- The fields of a service that are read, in order. -/
def fields : List String := ["metadata", "spec", "status"]

/-- Metadata and spec have to be there; what type the object claims to have does not matter. -/
def read? (mode : Json.Mode) (j : Json) : Option Service := do
  match ← j.record? 3 fields with
  | [metadata, spec, status] =>
    let metadata ← Json.require Metadata.ofJson? metadata
    let spec ← Json.require Spec.ofJson? spec
    let status ← Json.optional (Status.read? mode) status
    some ⟨metadata, spec, status⟩
  | _ => none

/-- A service, read as it comes. -/
def ofJson? (j : Json) : Option Service := read? .direct j

end Service

end ModelServing
