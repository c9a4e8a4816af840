import ModelServing.Json
import ModelServing.Table
import ModelServing.Time.Instant

/-!
# Metadata

What the cluster knows an object by, and how one object points at another.

* `Metadata` holds names, versions and times of an object; `Owner` is an object that it belongs to, `Manager` a client
  that owns some of its fields;
* `Reference` points at an object.
-/

namespace ModelServing

/-- An object that another one belongs to. -/
structure Owner where
  apiVersion : String := ""
  kind : String := ""
  name : String := ""
  uid : String := ""
  controller : Option Bool := none
  blockOwnerDeletion : Option Bool := none
deriving DecidableEq, Inhabited

/-- A client that has written fields of an object, and which ones. -/
structure Manager where
  manager : Option String := none
  operation : Option String := none
  apiVersion : Option String := none
  subresource : Option String := none
  time : Option Instant := none
  fieldsType : Option String := none
  fields : Option Json := none
deriving DecidableEq, Inhabited

/-- What the cluster knows an object by. -/
structure Metadata where
  name : Option String := none
  generateName : Option String := none
  ns : Option String := none
  uid : Option String := none
  resourceVersion : Option String := none
  generation : Option Int64 := none
  labels : Option (Table String String) := none
  annotations : Option (Table String String) := none
  creationTimestamp : Option Instant := none
  deletionTimestamp : Option Instant := none
  deletionGracePeriodSeconds : Option Int64 := none
  finalizers : Option (List String) := none
  owners : Option (List Owner) := none
  managers : Option (List Manager) := none
  selfLink : Option String := none
deriving DecidableEq, Inhabited

/-- What an event points at. -/
structure Reference where
  apiVersion : Option String := none
  kind : Option String := none
  name : Option String := none
  ns : Option String := none
  uid : Option String := none
  resourceVersion : Option String := none
  fieldPath : Option String := none
deriving DecidableEq, Inhabited

end ModelServing
