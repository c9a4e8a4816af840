import ModelServing.Pass
import ModelServing.Store

/-!
# Rehearsals

Passes over a store and workloads in memory, with every call noted, failures that strike at given calls, and
reconcilers that may be replaced by scripts.

* `Act` is one action of a script, `Script` a list of them;
* `Rehearsal` is the world of a rehearsal: store, workloads, faults to come, failure counts, clock, and the notes;
* `Rehearsal.answer` answers the calls of a pass, `Rehearsal.perform` runs a program of passes.
-/

namespace ModelServing

/-- A condition whose time may be left to the clock. -/
structure ConditionDraft where
  type : String
  status : Truth := .unknown
  reason : String := ""
  message : String := ""
  since : Option Instant := none

/-- The condition of a draft at a time. -/
def ConditionDraft.at (d : ConditionDraft) (now : Instant) : Condition :=
  ⟨d.type, d.status, d.reason, d.message, d.since.getD now⟩

/-- One action of a script. -/
inductive Act where
  /-- Ends the script with a failure. -/
  | fail (e : Failure)
  | place (c : ConditionDraft)
  | setUrl (url : Option String)
  | setAddress (address : Option String)
  | setComponent (k : Kind) (c : ComponentStatus)
  | setStatus (s : Option Status)
  | setSpec (s : Spec)
  | setName (name : Option String)
  | setNamespace (ns : Option String)
  | setVersion (version : Option String)
  | setGeneration (generation : Option Int64)
  /-- Notes the status. -/
  | look
  /-- Another client stores a service. -/
  | storePut (s : Service)
  /-- Another client stores this service as it is now. -/
  | storeCopy
  /-- Another client deletes a service. -/
  | storeDelete (key : Key)

/-- What a scripted reconciler does. -/
abbrev Script : Type := List Act

/-- One call, as it is noted. -/
inductive Note where
  | fetch (key : Key)
  | write (s : Service)
  | deployment (key : Key)
  | event (e : Event)
  | started (label : String)
  | saw (label : String) (status : Option Status)

/-- The world of a rehearsal. -/
structure Rehearsal where
  config : Config := {}
  components : KindMap Script := ⟨none, none, none⟩
  ingress : Option Script := none
  store : Store := {}
  workloads : Table Key Deployment := Table.empty
  fetchFaults : List (Option Failure) := []
  writeFaults : List (Option Failure) := []
  workloadFaults : List (Option Failure) := []
  backoff : Backoff
  clock : Instant := Instant.epoch
  notes : List Note := []

namespace Rehearsal

/-- A world without objects. -/
def start (config : Config) (components : KindMap Script) (ingress : Option Script) : Rehearsal :=
  { config := config, components := components, ingress := ingress
    backoff := { base := config.requeueBase, max := config.requeueMax } }

/-! ### calls -/

/-- The note added. -/
def note (w : Rehearsal) (n : Note) : Rehearsal := { w with notes := w.notes ++ [n] }

/-- The time, and the world a moment later. -/
def now (w : Rehearsal) : Instant × Rehearsal := (w.clock, { w with clock := w.clock.tick })

/-- The fault that strikes first, and those to come. -/
def nextFault : List (Option Failure) → Option Failure × List (Option Failure)
  | [] => (none, [])
  | f :: rest => (f, rest)

/-- Reads a service. -/
def fetch (key : Key) (w : Rehearsal) : Except Failure (Option Service) × Rehearsal :=
  let w := w.note (.fetch key)
  let (fault, rest) := nextFault w.fetchFaults
  let w := { w with fetchFaults := rest }
  match fault with
  | some e => (.error e, w)
  | none => (.ok (w.store.get? key), w)

/-- Writes a status. -/
def write (s : Service) (w : Rehearsal) : Except Failure Unit × Rehearsal :=
  let w := w.note (.write s)
  let (fault, rest) := nextFault w.writeFaults
  let w := { w with writeFaults := rest }
  match fault with
  | some e => (.error e, w)
  | none =>
    match w.store.write s with
    | .error e => (.error e, w)
    | .ok store => (.ok (), { w with store := store })

/-- Looks a workload up. -/
def deployment (key : Key) (w : Rehearsal) : Except Failure (Option Deployment) × Rehearsal :=
  let w := w.note (.deployment key)
  let (fault, rest) := nextFault w.workloadFaults
  let w := { w with workloadFaults := rest }
  match fault with
  | some e => (.error e, w)
  | none => (.ok (w.workloads.get? key), w)

/-- Answers a reconciler. -/
def probe : (p : Probe) → StateM Rehearsal p.Answer
  | .deployment key => deployment key
  | .clock => now

/-! ### scripts -/

/-- The service with its status changed, the empty one if it has none. -/
def change (s : Service) (f : Status → Status) : Service := s.withStatus (f s.statusOrEmpty)

/-- The service after an action, and the world. -/
def act (label : String) (a : Act) (s : Service) (w : Rehearsal) : Service × Rehearsal :=
  match a with
  | .fail _ => (s, w)
  | .place c => let (t, w) := w.now; (change s (·.place (c.at t)), w)
  | .setUrl url => (change s fun st => { st with url := url }, w)
  | .setAddress address => (change s fun st => { st with address := address }, w)
  | .setComponent k c => (change s (·.observe k c), w)
  | .setStatus status => ({ s with status := status }, w)
  | .setSpec spec => ({ s with spec := spec }, w)
  | .setName name => ({ s with metadata := { s.metadata with name := name } }, w)
  | .setNamespace ns => ({ s with metadata := { s.metadata with ns := ns } }, w)
  | .setVersion v => ({ s with metadata := { s.metadata with resourceVersion := v } }, w)
  | .setGeneration g => ({ s with metadata := { s.metadata with generation := g } }, w)
  | .look => (s, w.note (.saw label s.status))
  | .storePut other => (s, { w with store := w.store.put other })
  | .storeCopy => (s, { w with store := w.store.put s })
  | .storeDelete key => (s, { w with store := w.store.delete key })

/-- Runs a script on a service. -/
def play (label : String) : Script → Service → Rehearsal → Revision × Rehearsal
  | [], s, w => (⟨s, none⟩, w)
  | .fail e :: _, s, w => (⟨s, some e⟩, w)
  | a :: rest, s, w =>
    let (s, w) := act label a s w
    play label rest s w

/-- Runs a script, or the reconciler in its place. -/
def reconciler (label : String) (script : Option Script) (other : Reconciler) (s : Service) :
    StateM Rehearsal Revision :=
  match script with
  | some script => fun w => play label script s (w.note (.started label))
  | none => (other s).run probe

/-- Runs the reconciler of a component. -/
def component (k : Kind) (s : Service) : StateM Rehearsal Revision := fun w =>
  reconciler k.name (w.components.get k) (Workload.reconcile w.config.clusterDomain k) s w

/-- Runs the reconciler of the ingress. -/
def ingressStep (s : Service) : StateM Rehearsal Revision := fun w =>
  reconciler "ingress" w.ingress (Ingress.reconcile w.config.ingress) s w

/-! ### passes -/

/-- Answers a pass. -/
def answer : (c : Pass.Call) → StateM Rehearsal c.Answer
  | .fetch key => fetch key
  | .write s => write s
  | .component k s => component k s
  | .ingress s => ingressStep s
  | .publish e => fun w => ((), w.note (.event e))
  | .forget key => fun w => ((), { w with backoff := w.backoff.forget key })
  | .delay key => fun w =>
    let (d, backoff) := w.backoff.next key
    (d, { w with backoff := backoff })

/-- Runs a program of passes. -/
def perform {α : Type} (p : Pass.Routine α) : StateM Rehearsal α := p.run answer

end Rehearsal

end ModelServing
