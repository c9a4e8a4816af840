import ModelServing.Api.Feed
import ModelServing.Api.Watch

/-!
# Watchers

A watcher lists the objects of a collection page by page, watches what happens to them from then on, and starts over
when it has lost track.

* `Source` is what is watched, `News` is what a watcher tells;
* `Watcher` says where a watcher stands, `Watcher.step` takes it one step further;
* a request is sent in one step and answered in the next, and `Turn` says whether the next step may follow at once.
-/

namespace ModelServing

/-- What is watched: the path of the collection, and how its objects are read. -/
structure Source (α : Type) where
  path : String
  read : Json.Mode → Json → Option α
  metadata : α → Metadata

/-- What a watcher tells. -/
inductive News (α : Type) where
  /-- A list begins. -/
  | begun
  | found (a : α)
  /-- The list is complete. -/
  | complete
  | stored (a : α)
  | removed (a : α)

/-- The object that is told of. -/
def News.object? {α : Type} : News α → Option α
  | .begun => none
  | .found a => some a
  | .complete => none
  | .stored a => some a
  | .removed a => some a

/-- What a step came to. -/
inductive Turn (β : Type) where
  | goesOn
  /-- A request was sent. -/
  | asks
  /-- There is nothing to hear. -/
  | waits
  | fails
  /-- An object has no name; nobody can go on from there. -/
  | breaks
  | tells (news : β)

/-- The turn with something else for the news. -/
def Turn.map {β γ : Type} (f : β → γ) : Turn β → Turn γ
  | .goesOn => .goesOn
  | .asks => .asks
  | .waits => .waits
  | .fails => .fails
  | .breaks => .breaks
  | .tells news => .tells (f news)

/-- Where a watcher stands. -/
inductive Watcher (α : Type) where
  /-- It knows nothing. -/
  | blank
  /-- A page of the list is to be asked for. -/
  | wanting
  /-- A page of the list was asked for. -/
  | listing (r : Request)
  /-- The objects of a page are to be told, and there may be more pages. -/
  | paging (items : List α) (more : Bool)
  /-- The list is complete; a watch is to be opened. -/
  | listed
  /-- A watch was asked for. -/
  | opening (r : Request)
  | watching (feed : Feed)

namespace Watcher

variable {α : Type}

/-- The address of a page of the list. A server that keeps no pages answers each with all that follows. -/
def listUrl (s : Source α) : String := s.path ++ "?"

/-- The address of a watch, which the server is asked to hold for 25 seconds at least. -/
def watchUrl (s : Source α) : String := s.path ++ "?timeoutSeconds=25&watch=true"

/-- The next step after a request was put together, which takes an address that can be sent. -/
def send (url : String) (sent : Request → Watcher α) (unsent : Watcher α) : Turn (News α) × Watcher α :=
  match Request.ofUrl "GET" url none .none with
  | .ok r => (.asks, sent r)
  | .error _ => (.fails, unsent)

/-- Tells news, if the object in them has a name. -/
def tell (s : Source α) (news : News α) (next : Watcher α) : Turn (News α) × Watcher α :=
  if news.object?.all fun a => (s.metadata a).name.isSome then (.tells news, next) else (.breaks, next)

/-- What a page comes to: without a version, and without pages behind it, it is worth nothing. -/
def turnPage (p : Page α) : Turn (News α) × Watcher α :=
  if p.more || p.versioned then (.goesOn, .paging p.items p.more) else (.fails, .blank)

/-- What news from a watch come to: an object without a version is as if track was lost. -/
def follow (s : Source α) (a : α) (news : News α) (rest : Feed) : Turn (News α) × Watcher α :=
  if (s.metadata a).resourceVersion.any (· ≠ "") then tell s news (.watching rest) else (.fails, .blank)

/-- What a line of a watch comes to; one that is cut off is passed over. After a refusal the watch is opened again, or
if the server says that track was lost, all starts over. -/
def readLine (s : Source α) (text : String) (rest : Feed) : Turn (News α) × Watcher α :=
  match Json.parse text with
  | .error .cutOff => (.goesOn, .watching rest)
  | .error .malformed => (.fails, .watching rest)
  | .ok j =>
    match WatchEvent.ofJson? s.read j with
    | none => (.fails, .watching rest)
    | some .bookmark => (.goesOn, .watching rest)
    | some (.refused r) => (.fails, if r.code = 410 then .blank else .listed)
    | some (.stored a) => follow s a (.stored a) rest
    | some (.removed a) => follow s a (.removed a) rest

/-- Takes a watcher one step further. -/
def step (s : Source α) : Watcher α → StateM Server (Turn (News α) × Watcher α)
  | .blank => fun server => ((.tells .begun, .wanting), server)
  | .wanting => fun server => (send (listUrl s) .listing .blank, server)
  | .listing r => fun server =>
    let (reply, server) := Server.handle r server
    match reply.read (Page.ofJson? (s.read .direct)) with
    | .ok p => (turnPage p, server)
    | .error _ => ((.fails, .blank), server)
  | .paging (a :: rest) more => fun server => (tell s (.found a) (.paging rest more), server)
  | .paging [] true => fun server => ((.goesOn, .wanting), server)
  | .paging [] false => fun server => ((.tells .complete, .listed), server)
  | .listed => fun server => (send (watchUrl s) .opening .listed, server)
  | .opening r => fun server =>
    match Server.watch r server with
    | (some feed, server) => ((.goesOn, .watching feed), server)
    | (none, server) => ((.fails, .listed), server)
  | .watching feed => fun server =>
    match server.hear feed with
    | .line text rest => (readLine s text rest, server)
    | .silence => ((.waits, .watching feed), server)
    | .ended => ((.goesOn, .listed), server)

/-- The position of the change that a watcher hears next, if there is one. -/
def unheard? (server : Server) : Watcher α → Option Nat
  | .watching feed => server.unheard? feed
  | _ => none

end Watcher

end ModelServing
