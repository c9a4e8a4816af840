import ModelServing.Rehearsal
import ModelServing.Controller
import ModelServing.Logging
import ModelServing.Main
import ModelServing.Proofs.Prog.Path
import ModelServing.Proofs.Verdict
import ModelServing.Proofs.Workload
import ModelServing.Proofs.Ingress
import ModelServing.Proofs.Store
import ModelServing.Proofs.Pass.Steps
import ModelServing.Proofs.Pass.Contention
import ModelServing.Proofs.Pass.Converged
import ModelServing.Proofs.Pass.Quiet
import ModelServing.Proofs.Pass.Readiness
import ModelServing.Proofs.Pass.Runs
import ModelServing.Proofs.Pass.Failed
import ModelServing.Proofs.Pass.Flips
import ModelServing.Proofs.Pass.Retries
import ModelServing.Proofs.Pass.Interleaved
import ModelServing.Proofs.Pass.Plan
import ModelServing.Proofs.Pass.Reports
import ModelServing.Proofs.Pass.Coherent
import ModelServing.Proofs.Pass.Stamps
import ModelServing.Proofs.Pass.Since
import ModelServing.Proofs.Backoff
import ModelServing.Proofs.Summary
import ModelServing.Proofs.Json.Arranged
import ModelServing.Proofs.Json.Text
import ModelServing.Proofs.Pass.Frame
import ModelServing.Proofs.Service.Encoding
import ModelServing.Proofs.Service.Written
import ModelServing.Proofs.History
import ModelServing.Proofs.Naming
import ModelServing.Proofs.Options
import ModelServing.Proofs.Failure
import ModelServing.Proofs.Failure.Causes
