import ModelServing.Deployment
import ModelServing.Failure
import ModelServing.Prog
import ModelServing.Service

/-!
# Reconcilers

A reconciler brings one part of a service up to date and notes in the status what it saw. It may look at workloads and
at the clock, and it leaves the service changed even where it fails.

* `Probe` are the calls of a reconciler, `Revision` is what it leaves behind, `Reconciler` is the program itself.
-/

namespace ModelServing

/-- What a reconciler may ask. -/
inductive Probe where
  /-- The workload of that name, if it exists. -/
  | deployment (key : Key)
  /-- The time. -/
  | clock

/-- What it is answered. -/
@[reducible] def Probe.Answer : Probe → Type
  | .deployment _ => Except Failure (Option Deployment)
  | .clock => Instant

/-- A service as a reconciler leaves it, and the failure that stopped it, if one did. -/
structure Revision where
  service : Service
  failure : Option Failure := none
deriving DecidableEq

/-- A program that reconciles part of a service. -/
abbrev Reconciler : Type := Service → Prog Probe Probe.Answer Revision

end ModelServing
