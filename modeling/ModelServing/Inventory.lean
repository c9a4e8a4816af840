import ModelServing.Table
import ModelServing.Watcher

/-!
# The inventory of services

The services that a watcher has told of, by namespace and name. A service that is told of without a namespace is no
part of it.

* `Inventory.hear` takes news in: a list replaces the inventory when it is complete, not before (`get?_hear_found`,
  `get?_hear_complete`), and a service that is stored is known at once (`get?_hear_stored`);
* `Inventory.get?` looks a service up, `Inventory.isReady` says whether a list was ever complete.
-/

namespace ModelServing

/-- The services known, if a list was complete already, and those of the list under way. -/
structure Inventory where
  known : Option (Table Key Service) := none
  arriving : Table Key Service := Table.empty

namespace Inventory

/-- The table with a service in it. -/
def enter (s : Service) (t : Table Key Service) : Table Key Service :=
  match s.key? with
  | some key => t.insert key s
  | none => t

/-- The table without a service. -/
def strike (s : Service) (t : Table Key Service) : Table Key Service :=
  match s.key? with
  | some key => t.erase key
  | none => t

/-- Takes news in. -/
def hear (i : Inventory) : News Service → Inventory
  | .begun => { i with arriving := Table.empty }
  | .found s => { i with arriving := enter s i.arriving }
  | .complete => ⟨some i.arriving, Table.empty⟩
  | .stored s => { i with known := i.known.map (enter s) }
  | .removed s => { i with known := i.known.map (strike s) }

/-- Whether a list was ever complete. -/
def isReady (i : Inventory) : Bool := i.known.isSome

/-- The service of a key. -/
def get? (i : Inventory) (key : Key) : Option Service := i.known.bind fun t => t.get? key

theorem get?_hear_found (i : Inventory) (s : Service) (key : Key) : (i.hear (.found s)).get? key = i.get? key := rfl

theorem get?_hear_complete (i : Inventory) (key : Key) : (i.hear .complete).get? key = i.arriving.get? key := rfl

theorem get?_hear_stored {i : Inventory} {s : Service} {key : Key} (hi : i.isReady = true) (hs : s.key? = some key)
    (x : Key) : (i.hear (.stored s)).get? x = if x = key then some s else i.get? x := by
  obtain ⟨t, ht⟩ := Option.isSome_iff_exists.1 hi
  simp [hear, get?, enter, ht, hs, Table.get?_insert]

theorem get?_hear_removed {i : Inventory} {s : Service} {key : Key} (hs : s.key? = some key) (x : Key) :
    (i.hear (.removed s)).get? x = if x = key then none else i.get? x := by
  cases ht : i.known with
  | none => simp [hear, get?, ht]
  | some t => simp [hear, get?, strike, ht, hs, Table.get?_erase]

end Inventory

end ModelServing
