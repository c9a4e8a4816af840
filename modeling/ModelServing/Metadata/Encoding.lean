import ModelServing.Json.Typed
import ModelServing.Metadata

/-!
# Metadata as JSON

Metadata and references are plain objects: any field may be missing or null, a field that stands twice counts as it
stands last, and unknown members are passed over. What is missing is not written; times are written to the second.

* `X.toJson` writes, `X.ofJson?` reads, for owners, managers, metadata and references;
* `Metadata.ofObject?` reads the metadata of an object of any type;
* `Json.ofType?` reads an object that may name its type.
-/

namespace ModelServing

/-- An instant to the second, written. -/
def Instant.toJson (i : Instant) : Json := .str i.seconds.text

namespace Owner

/-- The names are always written. -/
def toJson (o : Owner) : Json :=
  Json.ofMembers [
    ("apiVersion", some (.str o.apiVersion)),
    ("kind", some (.str o.kind)),
    ("name", some (.str o.name)),
    ("uid", some (.str o.uid)),
    ("controller", o.controller.map .bool),
    ("blockOwnerDeletion", o.blockOwnerDeletion.map .bool)]

/-- Names that are missing are empty. -/
def ofJson? (j : Json) : Option Owner := do
  let ms ← j.obj?
  let apiVersion ← Json.field? Json.str? ms "apiVersion"
  let kind ← Json.field? Json.str? ms "kind"
  let name ← Json.field? Json.str? ms "name"
  let uid ← Json.field? Json.str? ms "uid"
  let controller ← Json.field? Json.bool? ms "controller"
  let blockOwnerDeletion ← Json.field? Json.bool? ms "blockOwnerDeletion"
  some ⟨apiVersion.getD "", kind.getD "", name.getD "", uid.getD "", controller, blockOwnerDeletion⟩

end Owner

namespace Manager

/-- The fields that are there. -/
def toJson (m : Manager) : Json :=
  Json.ofMembers [
    ("manager", m.manager.map .str),
    ("operation", m.operation.map .str),
    ("apiVersion", m.apiVersion.map .str),
    ("subresource", m.subresource.map .str),
    ("time", m.time.map Instant.toJson),
    ("fieldsType", m.fieldsType.map .str),
    ("fieldsV1", m.fields)]

/-- The fields owned are any data. -/
def ofJson? (j : Json) : Option Manager := do
  let ms ← j.obj?
  let manager ← Json.field? Json.str? ms "manager"
  let operation ← Json.field? Json.str? ms "operation"
  let apiVersion ← Json.field? Json.str? ms "apiVersion"
  let subresource ← Json.field? Json.str? ms "subresource"
  let time ← Json.field? Instant.ofJson? ms "time"
  let fieldsType ← Json.field? Json.str? ms "fieldsType"
  let fields ← Json.field? Json.data? ms "fieldsV1"
  some ⟨manager, operation, apiVersion, subresource, time, fieldsType, fields⟩

end Manager

namespace Metadata

/-- The fields that are there. -/
def toJson (m : Metadata) : Json :=
  Json.ofMembers [
    ("name", m.name.map .str),
    ("generateName", m.generateName.map .str),
    ("namespace", m.ns.map .str),
    ("uid", m.uid.map .str),
    ("resourceVersion", m.resourceVersion.map .str),
    ("generation", m.generation.map fun n => .int n.toInt),
    ("labels", m.labels.map Table.toJson),
    ("annotations", m.annotations.map Table.toJson),
    ("creationTimestamp", m.creationTimestamp.map Instant.toJson),
    ("deletionTimestamp", m.deletionTimestamp.map Instant.toJson),
    ("deletionGracePeriodSeconds", m.deletionGracePeriodSeconds.map fun n => .int n.toInt),
    ("finalizers", m.finalizers.map fun fs => .arr (fs.map .str)),
    ("ownerReferences", m.owners.map fun os => .arr (os.map Owner.toJson)),
    ("managedFields", m.managers.map fun ms => .arr (ms.map Manager.toJson)),
    ("selfLink", m.selfLink.map .str)]

/-- Every field may be missing. -/
def ofJson? (j : Json) : Option Metadata := do
  let ms ← j.obj?
  let name ← Json.field? Json.str? ms "name"
  let generateName ← Json.field? Json.str? ms "generateName"
  let ns ← Json.field? Json.str? ms "namespace"
  let uid ← Json.field? Json.str? ms "uid"
  let resourceVersion ← Json.field? Json.str? ms "resourceVersion"
  let generation ← Json.field? Int64.ofJson? ms "generation"
  let labels ← Json.field? Table.ofJson? ms "labels"
  let annotations ← Json.field? Table.ofJson? ms "annotations"
  let creationTimestamp ← Json.field? Instant.ofJson? ms "creationTimestamp"
  let deletionTimestamp ← Json.field? Instant.ofJson? ms "deletionTimestamp"
  let deletionGracePeriodSeconds ← Json.field? Int64.ofJson? ms "deletionGracePeriodSeconds"
  let finalizers ← Json.field? (Json.list? Json.str?) ms "finalizers"
  let owners ← Json.field? (Json.list? Owner.ofJson?) ms "ownerReferences"
  let managers ← Json.field? (Json.list? Manager.ofJson?) ms "managedFields"
  let selfLink ← Json.field? Json.str? ms "selfLink"
  some {
    name := name, generateName := generateName, ns := ns, uid := uid, resourceVersion := resourceVersion
    generation := generation, labels := labels, annotations := annotations, creationTimestamp := creationTimestamp
    deletionTimestamp := deletionTimestamp, deletionGracePeriodSeconds := deletionGracePeriodSeconds
    finalizers := finalizers, owners := owners, managers := managers, selfLink := selfLink }

/-- The metadata of an object, whatever else it holds. -/
def ofObject? (j : Json) : Option Metadata := do
  let ms ← j.obj?
  let metadata ← Json.single? ms "metadata"
  if Json.readableBut ["metadata"] ms then Json.orElse ofJson? {} metadata else none

end Metadata

namespace Reference

/-- The fields that are there. -/
def toJson (r : Reference) : Json :=
  Json.ofMembers [
    ("apiVersion", r.apiVersion.map .str),
    ("kind", r.kind.map .str),
    ("name", r.name.map .str),
    ("namespace", r.ns.map .str),
    ("uid", r.uid.map .str),
    ("resourceVersion", r.resourceVersion.map .str),
    ("fieldPath", r.fieldPath.map .str)]

/-- Every field may be missing. -/
def ofJson? (j : Json) : Option Reference := do
  let ms ← j.obj?
  let apiVersion ← Json.field? Json.str? ms "apiVersion"
  let kind ← Json.field? Json.str? ms "kind"
  let name ← Json.field? Json.str? ms "name"
  let ns ← Json.field? Json.str? ms "namespace"
  let uid ← Json.field? Json.str? ms "uid"
  let resourceVersion ← Json.field? Json.str? ms "resourceVersion"
  let fieldPath ← Json.field? Json.str? ms "fieldPath"
  some ⟨apiVersion, kind, name, ns, uid, resourceVersion, fieldPath⟩

end Reference

/-- The members of a plain object that does not claim to be of another type. -/
def Json.ofType? (apiVersion kind : String) (j : Json) : Option (List (String × Json)) := do
  let ms ← j.obj?
  Json.fixed? apiVersion ms "apiVersion"
  Json.fixed? kind ms "kind"
  some ms

end ModelServing
