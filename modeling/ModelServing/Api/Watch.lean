import ModelServing.Api.Request

/-!
# What a collection is told as

The page of a list, and the event on a line of a watch.

* `Page.ofJson?` reads a page, `WatchEvent.ofJson?` an event, given how the objects themselves are read;
* an event may name its type in front of its object or behind it; in the second case the object is read as data.
-/

namespace ModelServing

/-! ### pages -/

/-- A page of a list. -/
structure Page (α : Type) where
  items : List α
  /-- Whether more pages follow. -/
  more : Bool
  /-- Whether the page says which version of the collection it shows. -/
  versioned : Bool

namespace Page

/-- Where a page stands in its list: whether more pages follow, and whether it has a version. -/
def place? (j : Json) : Option (Bool × Bool) := do
  let ms ← j.obj?
  let next ← Json.field? Json.str? ms "continue"
  let _ ← Json.field? Int64.ofJson? ms "remainingItemCount"
  let version ← Json.field? Json.str? ms "resourceVersion"
  let _ ← Json.field? Json.str? ms "selfLink"
  some (next.any (· ≠ ""), version.any (· ≠ ""))

/-- The items have to be there, null standing for none; one that cannot be read spoils the page. -/
def ofJson? {α : Type} (read : Json → Option α) (j : Json) : Option (Page α) := do
  let ms ← j.obj?
  let items ← Json.single? ms "items"
  let items ← Json.require (fun j => Json.optional (Json.list? read) (some j)) items
  let metadata ← Json.single? ms "metadata"
  let (more, versioned) ← Json.orElse place? (false, false) metadata
  if Json.readableBut ["items", "metadata"] ms then some ⟨items.getD [], more, versioned⟩ else none

end Page

/-! ### events -/

/-- What a line of a watch says. -/
inductive WatchEvent (α : Type) where
  | stored (a : α)
  | removed (a : α)
  /-- Nothing happened so far. -/
  | bookmark
  | refused (r : Refusal)

namespace WatchEvent

/-- A bookmark, which is only checked: an object of some type with a version. -/
def bookmark? (j : Json) : Option Unit := do
  let ms ← j.obj?
  let _ ← Json.require Json.str? (← Json.single? ms "apiVersion")
  let _ ← Json.require Json.str? (← Json.single? ms "kind")
  let metadata ← Json.require (Json.record? 1 ["resourceVersion", "annotations"]) (← Json.single? ms "metadata")
  match metadata with
  | [version, annotations] =>
    let _ ← Json.require Json.str? version
    let _ ← Json.orElse Table.ofJson? Table.empty annotations
    if Json.readableBut ["metadata"] ms then some () else none
  | _ => none

variable {α : Type}

/-- The event of a type about an object. -/
def ofParts? (read : Json → Option α) (type : String) (object : Json) : Option (WatchEvent α) :=
  match type with
  | "ADDED" => (read object).map .stored
  | "MODIFIED" => (read object).map .stored
  | "DELETED" => (read object).map .removed
  | "BOOKMARK" => (bookmark? object).map fun _ => .bookmark
  | "ERROR" => (Refusal.ofJson? object).map .refused
  | _ => none

/-- An event is an object with a type and an object, or the array of the two. -/
def ofJson? (read : Json.Mode → Json → Option α) : Json → Option (WatchEvent α)
  | .arr [type, object] => (type.constant? .direct).bind (ofParts? (read .direct) · object)
  | .obj members =>
    match members.filter fun m => m.1 == "type" || m.1 == "object" with
    | [("type", type), ("object", object)] => (type.constant? .direct).bind (ofParts? (read .direct) · object)
    | [("object", object), ("type", type)] =>
      if object.data?.isSome then (type.constant? .direct).bind (ofParts? (read .deferred) · object) else none
    | _ => none
  | _ => none

end WatchEvent

end ModelServing
