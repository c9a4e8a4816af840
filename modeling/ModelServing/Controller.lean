import ModelServing.Agenda
import ModelServing.Api.Cluster
import ModelServing.Inventory
import ModelServing.Watcher.Pause

/-!
# The controller loop

The loop that watches services and their workloads and runs passes, in virtual time: work takes no time, and time passes
only while there is nothing to do.

* two watchers take turns, `Controller.turn` is one turn; after a failure of either both pause;
* every service that is listed or stored calls for a pass of it, every change of a workload for a pass of its owners;
* `Controller.pass` runs a pass that is due, once the services are known;
* `Controller.step?` is what happens next, `Controller.advance` lets time pass, `Controller.stop` ends the loop.
-/

namespace ModelServing

/-- One request of a pass: when in milliseconds, for which service, and what. -/
structure Trace where
  time : Nat
  key : Key
  request : Request

/-- The two collections that are watched. -/
inductive Watched where
  | services
  | workloads
deriving DecidableEq

namespace Watched

/-- The services of a namespace, or of all. -/
def serviceSource (ns : Option String) : Source Service := ⟨Manifest.path ns, Service.read?, Service.metadata⟩

/-- The workloads of a namespace, or of all; nothing but their metadata is looked at. -/
def workloadSource (ns : Option String) : Source Metadata := ⟨Client.deployments ns, fun _ => Metadata.ofObject?, id⟩

/-- The services that own an object, each in its namespace; none stands for one outside of all namespaces. -/
def owners (m : Metadata) : List (Option Key) :=
  ((m.owners.getD []).filter fun o => o.apiVersion == Service.apiVersion && o.kind == Service.kindName).map fun o =>
    m.ns.map (⟨·, o.name⟩)

/-- What news of services call for. -/
def serviceCalls : News Service → List (Option Key)
  | .found s => [s.key?]
  | .stored s => [s.key?]
  | _ => []

/-- What news of workloads call for. -/
def workloadCalls (news : News Metadata) : List (Option Key) := (news.object?.map owners).getD []

end Watched

/-- The loop: its cluster, the namespace that it watches, the time in milliseconds, its watchers and those of them whose
turn comes, what it knows, and when which pass is due. `traces` are the requests of its passes so far, `polls` those of
its watchers, the last one first. -/
structure Controller where
  cluster : Cluster
  watch : Option String := none
  time : Nat := 0
  services : Watcher Service := .blank
  workloads : Watcher Metadata := .blank
  queue : List Watched := [.services, .workloads]
  pause : Pause := {}
  inventory : Inventory := {}
  agenda : Agenda := {}
  ended : Bool := false
  traces : List Trace := []
  polls : List Request := []

namespace Controller

/-- A loop that has not begun yet. -/
def start (cluster : Cluster) (watch : Option String) : Controller := { cluster := cluster, watch := watch }

/-- The pass of a key called for at a time; the loop ends if that is too far ahead. -/
def call (c : Controller) (time : Nat) (key : Key) : Controller :=
  match c.agenda.call c.time key time with
  | some agenda => { c with agenda := agenda }
  | none => { c with ended := true }

/-! ### watching -/

/-- The server, ready to note requests. -/
def server (c : Controller) : Server := { c.cluster.server with log := [] }

/-- The loop after a watcher sent its requests. -/
def polled (c : Controller) (server : Server) : Controller :=
  { c with cluster := { c.cluster with server := server }, polls := server.log.reverse ++ c.polls }

/-- What a turn of `w` comes to; `rest` are the watchers behind it. One that has called for a pass, be it of a service
outside of all namespaces, which has none, goes to the end of the queue, and so does one that has to wait for an answer
or for the end of a pause. -/
def settle (c : Controller) (w : Watched) (rest : List Watched) : Turn (List (Option Key)) → Controller
  | .goesOn => { c with queue := w :: rest }
  | .asks => { c with queue := rest ++ [w] }
  | .waits => { c with queue := rest }
  | .fails => { c with queue := rest ++ [w], pause := c.pause.fail c.time }
  | .breaks => { c with ended := true }
  | .tells [] => { c with queue := w :: rest }
  | .tells keys =>
    (keys.filterMap id).foldl (fun c key => c.call c.time key) { c with queue := rest ++ [w], pause := c.pause.succeed }

/-- One turn of a watcher, before those in `rest`. -/
def turn (c : Controller) (rest : List Watched) : Watched → Controller
  | .services =>
    let ((t, watcher), server) := c.services.step (Watched.serviceSource c.watch) c.server
    let c := { c.polled server with services := watcher }
    let c := match t with
      | .tells news => { c with inventory := c.inventory.hear news }
      | _ => c
    c.settle .services rest (t.map Watched.serviceCalls)
  | .workloads =>
    let ((t, watcher), server) := c.workloads.step (Watched.workloadSource c.watch) c.server
    { c.polled server with workloads := watcher }.settle .workloads rest (t.map Watched.workloadCalls)

/-- The queue with the watchers that have something to hear, the earliest change first. -/
def wake (c : Controller) : List Watched :=
  let heard : List (Watched × Option Nat) :=
    [(.services, c.services.unheard? c.cluster.server), (.workloads, c.workloads.unheard? c.cluster.server)]
  let waiting := heard.filterMap fun (w, position) => if w ∈ c.queue then none else position.map (w, ·)
  c.queue ++ (waiting.mergeSort fun a b => decide (a.2 ≤ b.2)).map (·.1)

/-! ### running -/

/-- Runs the pass of a key that is due; there is none for a service that is not known. -/
def pass (c : Controller) (key : Key) : Controller :=
  let c := { c with agenda := c.agenda.drop key }
  match c.inventory.get? key with
  | none => c
  | some s =>
    let (outcome, cluster) := Cluster.perform (Pass.dispatch s) { c.cluster with server := c.server }
    let traces := cluster.server.log.map fun r => ⟨c.time, key, r⟩
    let c := { c with cluster := cluster, traces := c.traces ++ traces }
    match outcome.action with
    | .awaitChange => c
    | .requeue d => c.call (c.time + d.toMillis) key

/-- The pass that is run next, once the services are known. -/
def nextPass? (c : Controller) : Option (Key × Nat) := if c.inventory.isReady then c.agenda.first? else none

/-- The time of what happens next when nothing happens now. -/
def nextTime? (c : Controller) : Option Nat :=
  ((if c.queue.isEmpty then [] else [c.pause.finish]) ++ (c.nextPass?.map (·.2)).toList).min?

/-- What happens next before `limit`: a turn of a watcher, else a pass that is due, else time passes. -/
def step? (limit : Nat) (c : Controller) : Option Controller :=
  if c.ended ∨ limit ≤ c.time then none
  else
    let c := { c with queue := c.wake }
    match c.queue, c.pause.isOver c.time with
    | w :: rest, true => some (c.turn rest w)
    | _, _ =>
      match c.nextPass? with
      | some (key, time) =>
        if time ≤ c.time then some (c.pass key)
        else c.nextTime?.bind fun t => if t < limit then some { c with time := t } else none
      | none => c.nextTime?.bind fun t => if t < limit then some { c with time := t } else none

/-- What happens before `limit`, at most `fuel` steps of it. -/
def runUntil : Nat → Nat → Controller → Controller
  | 0, _, c => c
  | fuel + 1, limit, c =>
    match c.step? limit with
    | some c => runUntil fuel limit c
    | none => c

/-- The most steps that are taken at once. -/
def maxSteps : Nat := 1000000

/-- Lets `millis` pass. -/
def advance (c : Controller) (millis : Nat) : Controller :=
  { runUntil maxSteps (c.time + millis) c with time := c.time + millis }

/-- Ends the loop; what is due is dropped. -/
def stop (c : Controller) : Controller := { c with ended := true, agenda := {} }

/-- The requests so far, by second and service. -/
def sortedTraces (c : Controller) : List Trace :=
  c.traces.mergeSort fun a b =>
    let ta := a.time / 1000
    let tb := b.time / 1000
    decide (ta < tb) || (ta == tb && decide (a.key.text ≤ b.key.text))

end Controller

end ModelServing
