import ModelServing.Backoff
import ModelServing.Event
import ModelServing.Ingress
import ModelServing.Workload

/-!
# Passes

A pass reads a service, lets the reconcilers of its components and of the ingress work on one copy of it, in that
order, and commits the status that comes out. A step that fails ends the pass, tells why in an event, and leaves what
is stored as it was.

* `Pass.Call` are the calls of a pass, the reconcilers among them;
* `Pass.commit` writes a status once, if it differs from what is stored by then;
* `Pass.reconcileKey` is the pass for a key, `Pass.reconcile` that for a service that was seen to change;
* `Pass.errorPolicy` decides what happens after a failure, `Pass.dispatch` is a pass with that decision;
* `Pass.shipped` is a program of passes whose reconcilers are those of `Workload` and `Ingress`.
-/

namespace ModelServing

/-- What happens to a service next. -/
inductive Action where
  /-- Nothing, until it changes. -/
  | awaitChange
  /-- Another pass after a delay. -/
  | requeue (delay : Duration)
deriving DecidableEq

/-- What a commit did. -/
inductive Commit where
  | unchanged
  | written (move : Transition)
deriving DecidableEq

namespace Pass

/-- What a pass may ask of the world. -/
inductive Call where
  /-- The stored service. -/
  | fetch (key : Key)
  /-- The status of the service to be stored. -/
  | write (s : Service)
  /-- The reconciler of a component to be run. -/
  | component (k : Kind) (s : Service)
  /-- The reconciler of the ingress to be run. -/
  | ingress (s : Service)
  /-- An event to be told. -/
  | publish (e : Event)
  /-- The failures of a key to be forgotten. -/
  | forget (key : Key)
  /-- A failure of a key to be recorded, and the delay it earns. -/
  | delay (key : Key)

/-- What it is answered. -/
@[reducible] def Call.Answer : Call → Type
  | .fetch _ => Except Failure (Option Service)
  | .write _ => Except Failure Unit
  | .component _ _ => Revision
  | .ingress _ => Revision
  | .publish _ => Unit
  | .forget _ => Unit
  | .delay _ => Duration

/-- Programs of passes. -/
abbrev Routine (α : Type) : Type := Prog Call Call.Answer α

/-! ### the commit -/

/-- Tells the event, if there is one, and ends with `a`. -/
def tell {α : Type} (e : Option Event) (a : α) : Routine α :=
  match e with
  | some e => .ask (.publish e) fun _ => .done a
  | none => .done a

/-- Writes the status of `desired`, unless the stored one is equal by now. -/
def commit (key : Key) (desired : Service) : Routine (Except Failure Commit) :=
  .ask (.fetch key) fun
    | .error e => .done (.error e)
    | .ok none => .done (.error (.gone key.name))
    | .ok (some existing) =>
      if existing.status = desired.status then .done (.ok .unchanged)
      else
        .ask (.write desired) fun
          | .error e =>
            tell (some (.writeFailed desired.reference desired.name e.message))
              (.error (.statusWrite desired.name e))
          | .ok () =>
            let move := Transition.between existing.status desired.status
            tell (Event.flipped? desired.reference desired.name move) (.ok (.written move))

/-! ### the pass -/

/-- Runs the reconcilers of the kinds in turn; events point at `origin`. -/
def components (origin : Reference) : List Kind → Service → Routine (Except Failure Service)
  | [], s => .done (.ok s)
  | k :: ks, s =>
    .ask (.component k s) fun
      | ⟨s, none⟩ => components origin ks s
      | ⟨_, some e⟩ => tell (some (.failed origin k.name e.message)) (.error (.component k e))

/-- Runs the reconciler of the ingress; events point at `origin`. -/
def ingress (origin : Reference) (s : Service) : Routine (Except Failure Service) :=
  .ask (.ingress s) fun
    | ⟨s, none⟩ => .done (.ok s)
    | ⟨_, some e⟩ => tell (some (.failed origin "ingress" e.message)) (.error (.ingress e))

/-- Goes on after a step that succeeded. -/
def andThen {α β : Type} (p : Routine (Except Failure α)) (f : α → Routine (Except Failure β)) :
    Routine (Except Failure β) :=
  p.bind fun
    | .error e => .done (.error e)
    | .ok a => f a

/-- The part of a pass after the service is read. -/
def work (key : Key) (s : Service) : Routine (Except Failure Action) :=
  andThen (components s.reference s.spec.requested s) fun reconciled =>
    andThen (ingress s.reference reconciled) fun desired =>
      andThen (commit key desired) fun _ => .done (.ok .awaitChange)

/-- One pass for a key; there is nothing to do for a service that does not exist. -/
def reconcileKey (key : Key) : Routine (Except Failure Action) :=
  .ask (.fetch key) fun
    | .error e => .done (.error e)
    | .ok none => .ask (.forget key) fun _ => .done (.ok .awaitChange)
    | .ok (some s) => work key s

/-- One pass for a service that was seen; only its key matters. -/
def reconcile (seen : Service) : Routine (Except Failure Action) :=
  match seen.key? with
  | none => .done (.error (.unscoped seen.name))
  | some key => andThen (reconcileKey key) fun action => .ask (.forget key) fun _ => .done (.ok action)

/-! ### after a failure -/

/-- What happens to a service whose pass failed: one that may succeed later is tried again after a delay. -/
def errorPolicy (seen : Service) (e : Failure) : Routine Action :=
  match seen.key? with
  | none => .done .awaitChange
  | some key =>
    if e.notFound then .ask (.forget key) fun _ => .done .awaitChange
    else if e.retryable then .ask (.delay key) fun d => .done (.requeue d)
    else .done .awaitChange

/-- How a dispatch ended: the failure of the pass, if it failed, and what happens next. -/
structure Outcome where
  failure : Option Failure
  action : Action
deriving DecidableEq

/-- One pass, and the decision after it. -/
def dispatch (seen : Service) : Routine Outcome :=
  (reconcile seen).bind fun
    | .ok action => .done ⟨none, action⟩
    | .error e => (errorPolicy seen e).bind fun action => .done ⟨some e, action⟩

/-! ### with the reconcilers of this library -/

/-- What a pass asks of the world once its reconcilers are fixed. -/
inductive Effect where
  | fetch (key : Key)
  | write (s : Service)
  | deployment (key : Key)
  | clock
  | publish (e : Event)
  | forget (key : Key)
  | delay (key : Key)

/-- What it is answered. -/
@[reducible] def Effect.Answer : Effect → Type
  | .fetch _ => Except Failure (Option Service)
  | .write _ => Except Failure Unit
  | .deployment _ => Except Failure (Option Deployment)
  | .clock => Instant
  | .publish _ => Unit
  | .forget _ => Unit
  | .delay _ => Duration

/-- What a reconciler asks, asked of the world. -/
def probe : (p : Probe) → Prog Effect Effect.Answer p.Answer
  | .deployment key => .ask (.deployment key) .done
  | .clock => .ask .clock .done

/-- What a pass asks, with its reconcilers put in. -/
def answer (config : Config) : (c : Call) → Prog Effect Effect.Answer c.Answer
  | .fetch key => .ask (.fetch key) .done
  | .write s => .ask (.write s) .done
  | .component k s => (Workload.reconcile config.clusterDomain k s).expand probe
  | .ingress s => (Ingress.reconcile config.ingress s).expand probe
  | .publish e => .ask (.publish e) .done
  | .forget key => .ask (.forget key) .done
  | .delay key => .ask (.delay key) .done

/-- A program of passes with the reconcilers of this library. -/
def shipped {α : Type} (config : Config) (p : Routine α) : Prog Effect Effect.Answer α :=
  p.expand (answer config)

end Pass

end ModelServing
