import ModelServing.Api.Client
import ModelServing.Text.Digits
import ModelServing.Store

/-!
# A server in memory

The part of the API of a cluster that the controller uses, over objects kept as they were sent.

* `Server.put` and `Server.delete` are what other clients do, `Server.items` is what a collection holds;
* `FaultRule` lets chosen requests fail; `Server.handle` answers a request, and notes it;
* `Change` is what those who watch get to hear of every write.
-/

namespace ModelServing

/-- Which object: its type, its namespace and its name. -/
structure ObjectPath where
  plural : String
  key : Key
deriving DecidableEq

/-- A fault that strikes the next requests that it matches. -/
structure FaultRule where
  method : Option String := none
  contains : Option String := none
  reply : Reply
  times : Nat

/-- Whether the second list occurs in the first. -/
def occursIn (part : List Char) : List Char → Bool
  | [] => part.isEmpty
  | c :: r => part.isPrefixOf (c :: r) || occursIn part r

/-- Whether the rule strikes a request. -/
def FaultRule.strikes (f : FaultRule) (r : Request) : Bool :=
  (f.method.all (· == r.method)) && (f.contains.all fun part => occursIn part.toList r.path.toList)

/-- The objects of one type, in one namespace or in all. -/
structure Collection where
  plural : String
  ns : Option String := none
deriving DecidableEq

/-- Whether an object belongs to a collection. -/
def Collection.holds (c : Collection) (path : ObjectPath) : Bool :=
  c.plural == path.plural && c.ns.all (· == path.key.ns)

/-- An object that was stored, or the object that was removed. -/
structure Change where
  path : ObjectPath
  object : Json
  removed : Bool

/-- The server: its objects, the faults to come, the requests so far, and all changes so far. -/
structure Server where
  objects : Table ObjectPath Json := Table.empty
  faults : List FaultRule := []
  log : List Request := []
  changes : List Change := []

namespace Server

/-! ### objects -/

/-- Stores an object. -/
def put (s : Server) (path : ObjectPath) (j : Json) : Server :=
  { s with objects := s.objects.insert path j, changes := s.changes ++ [⟨path, j, false⟩] }

/-- Removes an object. -/
def delete (s : Server) (path : ObjectPath) : Server :=
  match s.objects.get? path with
  | some j => { s with objects := s.objects.erase path, changes := s.changes ++ [⟨path, j, true⟩] }
  | none => s

/-- The objects of a collection with their keys, by namespace and name. -/
def items (s : Server) (c : Collection) : List (Key × Json) :=
  ((s.objects.entries.filter fun e => c.holds e.1).map fun e => (e.1.key, e.2)).mergeSort fun a b =>
    decide (a.1.ns < b.1.ns ∨ (a.1.ns = b.1.ns ∧ a.1.name ≤ b.1.name))

/-- A collection, written: all of it on one page, at the version that the changes so far make up. -/
def page (s : Server) (c : Collection) : Json :=
  .obj [("metadata", .obj [("resourceVersion", .str (toString (s.changes.length + 1)))]),
    ("items", .arr ((s.items c).map (·.2)))]

/-! ### requests -/

/-- What a request is about. -/
inductive Target where
  | object (path : ObjectPath)
  | collection (c : Collection)
  | status (path : ObjectPath)
  | events
  | definitions

/-- What a request is about: objects and collections are read, and of an object only the status is written. -/
def target? (r : Request) : Option Target :=
  match r.method, r.path.splitOn "/" with
  | _, "" :: "apis" :: "events.k8s.io" :: _ => some .events
  | "GET", ["", "apis", _, _, "namespaces", ns, plural, name] => some (.object ⟨plural, ns, name⟩)
  | "GET", ["", "apis", _, _, "namespaces", ns, plural] => some (.collection ⟨plural, some ns⟩)
  | "GET", ["", "apis", _, _, plural] => some (.collection ⟨plural, none⟩)
  | "PATCH", ["", "apis", _, _, "namespaces", ns, plural, name, "status"] => some (.status ⟨plural, ns, name⟩)
  | _, ["", "apis", _, _, "customresourcedefinitions", _] => some .definitions
  | _, _ => none

/-- An answer with a JSON body. -/
def respond (code : Nat) (j : Json) : Reply := .answer code j.compact

/-- An answer that refuses. -/
def refuse (r : Refusal) : Reply := respond r.code r.toJson

/-- The version that an object has, or that a patch of it is meant for. -/
def version? (j : Json) : Option Json := (j.get? "metadata").bind (·.present? "resourceVersion")

/-- An object after its status was written: status, and the next version. -/
def withStatus (object status : Json) : Json :=
  let metadata := (object.get? "metadata").getD (.obj [])
  let moved := match metadata.get? "resourceVersion" with
    | some (.str v) => object.set "metadata" (metadata.set "resourceVersion" (.str (nextVersion v)))
    | _ => object
  moved.set "status" status

/-- Writes a status, unless the version that it is meant for is not the stored one. -/
def writeStatus (s : Server) (path : ObjectPath) (patch : Json) : Reply × Server :=
  match s.objects.get? path with
  | none => (refuse (Refusal.absent path.plural path.key.name), s)
  | some object =>
    if (version? patch).any fun v => !(version? object == some v) then (refuse Refusal.modified, s)
    else
      let object := withStatus object ((patch.get? "status").getD .null)
      (respond 200 object, s.put path object)

/-- The answer of a server that nothing is wrong with. -/
def serve (r : Request) (s : Server) : Reply × Server :=
  match target? r with
  | some (.object path) =>
    match s.objects.get? path with
    | some object => (respond 200 object, s)
    | none => (refuse (Refusal.absent path.plural path.key.name), s)
  | some (.collection c) => (respond 200 (s.page c), s)
  | some (.status path) => s.writeStatus path r.payload.body
  | some .events => (respond 201 r.payload.body, s)
  | some .definitions => (respond 200 r.payload.body, s)
  | none => (refuse ⟨"Failure", "the server could not find the requested resource", "NotFound", 404⟩, s)

/-- The first rule that strikes a request, and the rules that are left after it struck. -/
def strike (r : Request) : List FaultRule → Option Reply × List FaultRule
  | [] => (none, [])
  | f :: rest =>
    if f.strikes r then (some f.reply, if f.times ≤ 1 then rest else { f with times := f.times - 1 } :: rest)
    else
      let (reply, rest) := strike r rest
      (reply, f :: rest)

/-- Notes a request, and answers it if a rule strikes it. -/
def receive (r : Request) : StateM Server (Option Reply) := fun s =>
  let (reply, faults) := strike r s.faults
  (reply, { s with log := s.log ++ [r], faults := faults })

/-- Notes a request and answers it. -/
def handle (r : Request) : StateM Server Reply := fun s =>
  match receive r s with
  | (some reply, s) => (reply, s)
  | (none, s) => serve r s

end Server

end ModelServing
