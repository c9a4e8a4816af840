import ModelServing.Api.Server

/-!
# Feeds

What comes back to those who watch a collection: lines, one for every change since the watch was opened, in order.

* `Feed` is an open watch, `Server.watch` opens one;
* `Server.hear` is what is to be heard on it next, `Server.unheard?` whether there is something.
-/

namespace ModelServing

/-- The change as a line: what happened, and the object that it happened to. -/
def Change.text (c : Change) : String :=
  (Json.obj [("object", c.object), ("type", .str (if c.removed then "DELETED" else "MODIFIED"))]).compact

/-- An open watch. -/
inductive Feed where
  /-- The lines of an answer that is complete. -/
  | lines (rest : List String)
  /-- The changes of a collection from a position on; it never ends. -/
  | changes (c : Collection) (position : Nat)

/-- The characters of a line without the carriage return at its end. -/
def Feed.trimReturn (cs : List Char) : List Char := if cs.getLast? = some '\r' then cs.dropLast else cs

/-- The lines of an answer. -/
def Feed.ofAnswer (body : String) : Feed :=
  .lines ((body.splitOn "\n").map fun l => String.ofList (trimReturn l.toList))

/-- What is heard on a feed, and how the feed goes on. -/
inductive Heard where
  | line (text : String) (rest : Feed)
  /-- Nothing so far. -/
  | silence
  /-- Nothing any more. -/
  | ended

namespace Server

/-- Notes a request that opens a watch and opens it, unless the connection breaks. An answer that refuses is a feed
too. -/
def watch (r : Request) : StateM Server (Option Feed) := fun s =>
  match receive r s with
  | (some (.broken _ _), s) => (none, s)
  | (some (.answer _ body), s) => (some (Feed.ofAnswer body), s)
  | (none, s) =>
    match target? r with
    | some (.collection c) => (some (.changes c s.changes.length), s)
    | _ =>
      match serve r s with
      | (.broken _ _, s) => (none, s)
      | (.answer _ body, s) => (some (Feed.ofAnswer body), s)

/-- The first change of a collection at or behind a position, with its own position. -/
def changeFrom? (s : Server) (c : Collection) (position : Nat) : Option (Change × Nat) :=
  (s.changes.zipIdx.drop position).find? fun e => c.holds e.1.path

/-- What is heard on a feed next. -/
def hear (s : Server) : Feed → Heard
  | .lines [] => .ended
  | .lines (text :: rest) => .line text (.lines rest)
  | .changes c position =>
    match s.changeFrom? c position with
    | some (change, at') => .line change.text (.changes c (at' + 1))
    | none => .silence

/-- The position of the change that is heard on a feed next. -/
def unheard? (s : Server) : Feed → Option Nat
  | .lines _ => none
  | .changes c position => (s.changeFrom? c position).map (·.2)

end Server

end ModelServing
