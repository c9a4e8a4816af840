import ModelServing.Api.Recorder
import ModelServing.Api.Server
import ModelServing.Pass

/-!
# Passes over a cluster

The controller with its clients, and the cluster that it talks to.

* `Cluster` is both together with the clock;
* `Cluster.exchange` runs requests, `Cluster.perform` runs a program of passes with the reconcilers of this library.
-/

namespace ModelServing

/-- A controller and its cluster. -/
structure Cluster where
  config : Config
  server : Server := {}
  recorder : Recorder
  backoff : Backoff
  clock : Instant := Instant.epoch

namespace Cluster

/-- A controller with an empty cluster. -/
def start (config : Config) (pod : Option String) : Cluster :=
  { config := config, recorder := Recorder.forPod pod
    backoff := { base := config.requeueBase, max := config.requeueMax } }

/-- Runs requests against the server. -/
def exchange {α : Type} (p : Exchange α) : StateM Cluster α := fun c =>
  let (a, server) := p.run Server.handle c.server
  (a, { c with server := server })

/-- Files an event. -/
def publish (e : Event) : StateM Cluster Unit := fun c =>
  let (recorder, c) := exchange (c.recorder.publish e c.clock) c
  ((), { c with recorder := recorder })

/-- Answers a pass. -/
def answer : (e : Pass.Effect) → StateM Cluster e.Answer
  | .fetch key => exchange (Client.fetchService key)
  | .write s => exchange (Client.writeStatus s)
  | .deployment key => exchange (Client.fetchDeployment key)
  | .clock => fun c => (c.clock, { c with clock := c.clock.tick })
  | .publish e => publish e
  | .forget key => fun c => ((), { c with backoff := c.backoff.forget key })
  | .delay key => fun c =>
    let (d, backoff) := c.backoff.next key
    (d, { c with backoff := backoff })

/-- Runs a program of passes. -/
def perform {α : Type} (p : Pass.Routine α) : StateM Cluster α := fun c => (Pass.shipped c.config p).run answer c

end Cluster

end ModelServing
