import ModelServing.Pass
import ModelServing.Proofs.Ingress

/-!
# The steps of a pass

A pass with the reconcilers of this library, cut into its steps.

* `Pass.reconcilers` is what stands between the first read and the commit: `work_eq` says so;
* `lookups`, `published` and `writes` are what a list of answered calls shows to the outside;
* `path_andThen_iff`, `path_components_cons_iff`, `path_ingress_iff` and `path_commit_iff` cut the runs of a pass;
* `exists_of_path_reconcilers` says what the reconcilers never do: a run that succeeds has only looked at workloads and
  at the clock, and has changed nothing but the status;
* `Shop` is a service whose predictor serves while its explainer is missing, with one run of its reconcilers.
-/

namespace ModelServing.Pass

open Prog

/-! ### what is seen of a run -/

/-- The workloads that were looked at, in order. -/
def lookups (t : List (Answered Effect.Answer)) : List Key :=
  t.filterMap fun
    | ⟨.deployment key, _⟩ => some key
    | _ => none

/-- The events that were told, in order. -/
def published (t : List (Answered Effect.Answer)) : List Event :=
  t.filterMap fun
    | ⟨.publish e, _⟩ => some e
    | _ => none

/-- The services whose status was sent to be stored, in order. -/
def writes (t : List (Answered Effect.Answer)) : List Service :=
  t.filterMap fun
    | ⟨.write s, _⟩ => some s
    | _ => none

/-- The answer, if it is one to a look at a workload, is that of `look`. -/
def Effect.Heeds (look : Lookup) : Answered Effect.Answer → Prop
  | ⟨.deployment key, r⟩ => r = look key
  | _ => True

variable {α β : Type}

@[simp] theorem lookups_append (t t' : List (Answered Effect.Answer)) : lookups (t ++ t') = lookups t ++ lookups t' :=
  List.filterMap_append

@[simp] theorem published_append (t t' : List (Answered Effect.Answer)) :
    published (t ++ t') = published t ++ published t' :=
  List.filterMap_append

@[simp] theorem writes_append (t t' : List (Answered Effect.Answer)) : writes (t ++ t') = writes t ++ writes t' :=
  List.filterMap_append

@[simp] theorem published_fetch {key : Key} {a : Except Failure (Option Service)} {t : List (Answered Effect.Answer)} :
    published (⟨.fetch key, a⟩ :: t) = published t := rfl

@[simp] theorem writes_fetch {key : Key} {a : Except Failure (Option Service)} {t : List (Answered Effect.Answer)} :
    writes (⟨.fetch key, a⟩ :: t) = writes t := rfl

@[simp] theorem writes_map_publish (l : List Event) :
    writes (l.map fun e => (⟨.publish e, ()⟩ : Answered Effect.Answer)) = [] := by
  induction l with
  | nil => rfl
  | cons e l ih => exact ih

/-! ### calls of reconcilers -/

/-- A call of a reconciler as a call of the pass. -/
def asked : Answered Probe.Answer → Answered Effect.Answer
  | ⟨.deployment key, r⟩ => ⟨.deployment key, r⟩
  | ⟨.clock, now⟩ => ⟨.clock, now⟩

@[simp] theorem heeds_asked (look : Lookup) (m : Answered Probe.Answer) :
    Effect.Heeds look (asked m) ↔ Probe.Heeds look m := by
  rcases m with ⟨_ | _, r⟩ <;> rfl

@[simp] theorem published_map_asked (l : List (Answered Probe.Answer)) : published (l.map asked) = [] := by
  unfold published
  rw [List.filterMap_eq_nil_iff]
  intro m hm
  obtain ⟨⟨_ | _, r⟩, -, rfl⟩ := List.mem_map.1 hm <;> rfl

@[simp] theorem writes_map_asked (l : List (Answered Probe.Answer)) : writes (l.map asked) = [] := by
  unfold writes
  rw [List.filterMap_eq_nil_iff]
  intro m hm
  obtain ⟨⟨_ | _, r⟩, -, rfl⟩ := List.mem_map.1 hm <;> rfl

/-- The runs of a reconciler inside a pass are its own runs. -/
theorem path_probe_iff {p : Prog Probe Probe.Answer α} {t : List (Answered Effect.Answer)} {a : α} :
    Path (p.expand probe) t (.done a) ↔ ∃ l, t = l.map asked ∧ Path p l (.done a) := by
  induction p generalizing t with
  | done b =>
    simp only [expand, path_done_iff]
    constructor
    · rintro ⟨rfl, h⟩
      cases h
      exact ⟨[], rfl, rfl, rfl⟩
    · rintro ⟨_, rfl, rfl, h⟩
      cases h
      exact ⟨rfl, rfl⟩
  | ask c next ih =>
    cases c with
    | deployment key =>
      show Path (.ask (.deployment key) fun r => (next r).expand probe) t (.done a) ↔ _
      simp only [path_ask_done_iff, ih]
      constructor
      · rintro ⟨r, _, rfl, l, rfl, h⟩
        exact ⟨⟨.deployment key, r⟩ :: l, rfl, r, l, rfl, h⟩
      · rintro ⟨_, rfl, r, l, rfl, h⟩
        exact ⟨r, _, rfl, l, rfl, h⟩
    | clock =>
      show Path (.ask .clock fun r => (next r).expand probe) t (.done a) ↔ _
      simp only [path_ask_done_iff, ih]
      constructor
      · rintro ⟨r, _, rfl, l, rfl, h⟩
        exact ⟨⟨.clock, r⟩ :: l, rfl, r, l, rfl, h⟩
      · rintro ⟨_, rfl, r, l, rfl, h⟩
        exact ⟨r, _, rfl, l, rfl, h⟩

/-! ### one step after the other -/

theorem shipped_bind (config : Config) (p : Routine α) (f : α → Routine β) :
    shipped config (p.bind f) = (shipped config p).bind fun a => shipped config (f a) :=
  expand_bind _ p f

theorem andThen_assoc {γ : Type} (p : Routine (Except Failure α)) (f : α → Routine (Except Failure β))
    (g : β → Routine (Except Failure γ)) :
    andThen (andThen p f) g = andThen p fun a => andThen (f a) g := by
  unfold andThen
  rw [bind_assoc]
  congr 1
  funext x
  cases x <;> rfl

/-- The reconcilers of a pass over `s`, all components before the ingress. -/
def reconcilers (s : Service) : Routine (Except Failure Service) :=
  andThen (components s.reference s.spec.requested s) fun reconciled => ingress s.reference reconciled

/-- A pass runs its reconcilers and commits what they leave. -/
theorem work_eq (key : Key) (s : Service) :
    work key s =
      andThen (reconcilers s) fun desired => andThen (commit key desired) fun _ => .done (.ok .awaitChange) := by
  unfold work reconcilers
  rw [andThen_assoc]

variable {config : Config} {t : List (Answered Effect.Answer)}

/-- A complete run of two steps ends with the failure of the first, or the second one begins with what that left. -/
theorem path_andThen_iff {p : Routine (Except Failure α)} {f : α → Routine (Except Failure β)} {r : Except Failure β} :
    Path (shipped config (andThen p f)) t (.done r) ↔
      (∃ e, r = .error e ∧ Path (shipped config p) t (.done (.error e))) ∨
      ∃ t₁ a t₂, t = t₁ ++ t₂ ∧ Path (shipped config p) t₁ (.done (.ok a)) ∧
        Path (shipped config (f a)) t₂ (.done r) := by
  unfold andThen
  rw [shipped_bind]
  exact path_bind_except_iff fun _ => rfl

theorem path_end_iff {a b : α} : Path (shipped config (.done a)) t (.done b) ↔ b = a ∧ t = [] := by
  show Path (.done a) t (.done b) ↔ _
  rw [path_done_iff, and_comm]
  simp

theorem path_tell_iff {e : Option Event} {a b : α} :
    Path (shipped config (tell e a)) t (.done b) ↔ b = a ∧ t = e.toList.map fun e => ⟨.publish e, ()⟩ := by
  cases e with
  | none => exact path_end_iff
  | some e =>
    show Path (.ask (.publish e) fun _ => shipped config (.done a)) t (.done b) ↔ _
    rw [path_ask_done_iff]
    simp only [path_end_iff]
    constructor
    · rintro ⟨_, _, rfl, rfl, rfl⟩
      exact ⟨rfl, rfl⟩
    · rintro ⟨rfl, rfl⟩
      exact ⟨(), [], rfl, rfl, rfl⟩

/-! ### the reconcilers -/

variable {origin : Reference} {k : Kind} {ks : List Kind} {s d : Service}

/-- A reconciler with what comes after it: it fails, which is told and ends the run, or the run goes on with what it
left. -/
theorem path_reconciler_iff (p : Prog Probe Probe.Answer Revision) {g : Revision → Routine (Except Failure α)}
    (f : Service → Routine (Except Failure α)) (event : Failure → Event) (wrap : Failure → Failure)
    {r : Except Failure α} (hok : ∀ s, g ⟨s, none⟩ = f s)
    (hfail : ∀ s e, g ⟨s, some e⟩ = tell (some (event e)) (.error (wrap e))) :
    Path ((p.expand probe).bind fun rev => shipped config (g rev)) t (.done r) ↔
      ∃ l rev t₂, t = l.map asked ++ t₂ ∧ Path p l (.done rev) ∧
        ((rev.failure = none ∧ Path (shipped config (f rev.service)) t₂ (.done r)) ∨
          ∃ e, rev.failure = some e ∧ r = .error (wrap e) ∧ t₂ = [⟨.publish (event e), ()⟩]) := by
  rw [path_bind_done_iff]
  simp only [path_probe_iff]
  constructor
  · rintro ⟨_, ⟨s', _ | e⟩, t₂, rfl, ⟨l, rfl, h⟩, h₂⟩
    · rw [hok] at h₂
      exact ⟨l, _, t₂, rfl, h, .inl ⟨rfl, h₂⟩⟩
    · rw [hfail] at h₂
      obtain ⟨rfl, rfl⟩ := path_tell_iff.1 h₂
      exact ⟨l, _, _, rfl, h, .inr ⟨e, rfl, rfl, rfl⟩⟩
  · rintro ⟨l, ⟨s', f⟩, t₂, rfl, h, ⟨rfl, h₂⟩ | ⟨e, rfl, rfl, rfl⟩⟩
    · exact ⟨_, _, t₂, rfl, ⟨l, rfl, h⟩, by rwa [hok]⟩
    · exact ⟨_, _, _, rfl, ⟨l, rfl, h⟩, by rw [hfail]; exact path_tell_iff.2 ⟨rfl, rfl⟩⟩

theorem path_components_nil_iff {r : Except Failure Service} :
    Path (shipped config (components origin [] s)) t (.done r) ↔ r = .ok s ∧ t = [] := path_end_iff

theorem path_components_cons_iff {r : Except Failure Service} :
    Path (shipped config (components origin (k :: ks) s)) t (.done r) ↔
      ∃ l rev t₂, t = l.map asked ++ t₂ ∧ Path (Workload.reconcile config.clusterDomain k s) l (.done rev) ∧
        ((rev.failure = none ∧ Path (shipped config (components origin ks rev.service)) t₂ (.done r)) ∨
          ∃ e, rev.failure = some e ∧ r = .error (.component k e) ∧
            t₂ = [⟨.publish (.failed origin k.name e.message), ()⟩]) :=
  path_reconciler_iff (Workload.reconcile config.clusterDomain k s) (components origin ks)
    (fun e => .failed origin k.name e.message) (.component k) (fun _ => rfl) fun _ _ => rfl

theorem path_ingress_iff {r : Except Failure Service} :
    Path (shipped config (ingress origin s)) t (.done r) ↔
      ∃ l rev t₂, t = l.map asked ++ t₂ ∧ Path (Ingress.reconcile config.ingress s) l (.done rev) ∧
        ((rev.failure = none ∧ r = .ok rev.service ∧ t₂ = []) ∨
          ∃ e, rev.failure = some e ∧ r = .error (.ingress e) ∧
            t₂ = [⟨.publish (.failed origin "ingress" e.message), ()⟩]) := by
  refine Iff.trans (path_reconciler_iff (Ingress.reconcile config.ingress s) (fun s => .done (.ok s))
    (fun e => .failed origin "ingress" e.message) .ingress (fun _ => rfl) fun _ _ => rfl) ?_
  simp only [path_end_iff]

/-! ### the commit -/

/-- What follows the answer to the write, where `old` was the status before. -/
def recorded (desired : Service) (old : Option Status) : Except Failure Unit → Routine (Except Failure Commit)
  | .error e =>
    tell (some (.writeFailed desired.reference desired.name e.message)) (.error (.statusWrite desired.name e))
  | .ok () =>
    tell (Event.flipped? desired.reference desired.name (.between old desired.status))
      (.ok (.written (.between old desired.status)))

/-- What follows the second read, where `stored` was found. -/
def overwrite (desired stored : Service) : Routine (Except Failure Commit) :=
  if stored.status = desired.status then .done (.ok .unchanged)
  else .ask (.write desired) (recorded desired stored.status)

theorem commit_eq (key : Key) (desired : Service) :
    commit key desired = .ask (.fetch key) fun
      | .error e => .done (.error e)
      | .ok none => .done (.error (.gone key.name))
      | .ok (some stored) => overwrite desired stored := by
  unfold commit overwrite
  congr 1
  funext x
  rcases x with e | _ | stored
  · rfl
  · rfl
  · dsimp only
    split
    · rfl
    · congr 1
      funext y
      rcases y with e | _ <;> rfl

/-- **The runs of a commit**: the second read fails, or finds nothing, or finds a service that is left alone or
overwritten. -/
theorem path_commit_iff {key : Key} {r : Except Failure Commit} :
    Path (shipped config (commit key d)) t (.done r) ↔
      (∃ e, r = .error e ∧ t = [⟨.fetch key, .error e⟩]) ∨
      (r = .error (.gone key.name) ∧ t = [⟨.fetch key, .ok none⟩]) ∨
      ∃ stored t', t = ⟨.fetch key, .ok (some stored)⟩ :: t' ∧
        Path (shipped config (overwrite d stored)) t' (.done r) := by
  rw [commit_eq]
  show Path (.ask (.fetch key) _) t (.done r) ↔ _
  rw [path_ask_done_iff]
  constructor
  · rintro ⟨e | _ | stored, t', rfl, h⟩
    · obtain ⟨rfl, rfl⟩ := path_end_iff.1 h
      exact .inl ⟨e, rfl, rfl⟩
    · obtain ⟨rfl, rfl⟩ := path_end_iff.1 h
      exact .inr (.inl ⟨rfl, rfl⟩)
    · exact .inr (.inr ⟨stored, t', rfl, h⟩)
  · rintro (⟨e, rfl, rfl⟩ | ⟨rfl, rfl⟩ | ⟨stored, t', rfl, h⟩)
    · exact ⟨.error e, [], rfl, path_end_iff.2 ⟨rfl, rfl⟩⟩
    · exact ⟨.ok none, [], rfl, path_end_iff.2 ⟨rfl, rfl⟩⟩
    · exact ⟨.ok (some stored), t', rfl, h⟩

/-- The runs behind the second read: the status is there already, or it is sent to be stored. -/
theorem path_overwrite_iff {stored : Service} {r : Except Failure Commit} :
    Path (shipped config (overwrite d stored)) t (.done r) ↔
      (stored.status = d.status ∧ r = .ok .unchanged ∧ t = []) ∨
      (stored.status ≠ d.status ∧ ∃ a t', t = ⟨.write d, a⟩ :: t' ∧
        Path (shipped config (recorded d stored.status a)) t' (.done r)) := by
  unfold overwrite
  by_cases h : stored.status = d.status
  · rw [if_pos h, path_end_iff]
    simp [h]
  · rw [if_neg h]
    show Path (.ask (.write d) fun a => shipped config (recorded d stored.status a)) t (.done r) ↔ _
    rw [path_ask_done_iff]
    simp [h]

/-- **The runs of a pass**: the first read fails, or finds nothing, or finds a service to work on. -/
theorem path_reconcileKey_iff {key : Key} {r : Except Failure Action} :
    Path (shipped config (reconcileKey key)) t (.done r) ↔
      (∃ e, r = .error e ∧ t = [⟨.fetch key, .error e⟩]) ∨
      (r = .ok .awaitChange ∧ t = [⟨.fetch key, .ok none⟩, ⟨.forget key, ()⟩]) ∨
      ∃ s t', t = ⟨.fetch key, .ok (some s)⟩ :: t' ∧ Path (shipped config (work key s)) t' (.done r) := by
  show Path (.ask (.fetch key) _) t (.done r) ↔ _
  rw [path_ask_done_iff]
  constructor
  · rintro ⟨e | _ | s, t', rfl, h⟩
    · obtain ⟨rfl, rfl⟩ := path_end_iff.1 h
      exact .inl ⟨e, rfl, rfl⟩
    · obtain ⟨_, t'', rfl, h'⟩ := path_ask_done_iff.1 h
      obtain ⟨rfl, rfl⟩ := path_end_iff.1 h'
      exact .inr (.inl ⟨rfl, rfl⟩)
    · exact .inr (.inr ⟨s, t', rfl, h⟩)
  · rintro (⟨e, rfl, rfl⟩ | ⟨rfl, rfl⟩ | ⟨s, t', rfl, h⟩)
    · exact ⟨.error e, [], rfl, path_end_iff.2 ⟨rfl, rfl⟩⟩
    · exact ⟨.ok none, [⟨.forget key, ()⟩], rfl, .cons (path_end_iff.2 ⟨rfl, rfl⟩)⟩
    · exact ⟨.ok (some s), t', rfl, h⟩

/-! ### what the reconcilers leave alone -/

/-- **A run of the components that succeeds** has only looked at workloads and at the clock, and has changed nothing but
the status. -/
theorem exists_of_path_components (path : Path (shipped config (components origin ks s)) t (.done (.ok d))) :
    ∃ l : List (Answered Probe.Answer), t = l.map asked ∧ d.metadata = s.metadata ∧ d.spec = s.spec := by
  induction ks generalizing s t with
  | nil =>
    obtain ⟨h, rfl⟩ := path_components_nil_iff.1 path
    cases h
    exact ⟨[], rfl, rfl, rfl⟩
  | cons k ks ih =>
    obtain ⟨l, rev, t₂, rfl, step, ⟨hf, rest⟩ | ⟨e, -, h, -⟩⟩ := path_components_cons_iff.1 path
    · obtain ⟨l₂, rfl, hm, hs⟩ := ih rest
      obtain ⟨hm', hs'⟩ : rev.service.metadata = s.metadata ∧ rev.service.spec = s.spec := by
        cases hid : s.key? with
        | none =>
          obtain ⟨-, rfl⟩ := (Workload.path_reconcile_unscoped_iff hid).1 step
          exact ⟨rfl, rfl⟩
        | some id =>
          rcases (Workload.path_reconcile_iff hid).1 step with ⟨-, _, -, rfl⟩ | ⟨-, _, -, rfl⟩ | ⟨-, _, _, -, rfl⟩
            <;> exact ⟨rfl, rfl⟩
      exact ⟨l ++ l₂, by simp, hm.trans hm', hs.trans hs'⟩
    · cases h

/-- **A run of all reconcilers that succeeds** has only looked at workloads and at the clock, and has changed nothing
but the status, which says which generation it is for. -/
theorem exists_of_path_reconcilers (path : Path (shipped config (reconcilers s)) t (.done (.ok d))) :
    ∃ (l : List (Answered Probe.Answer)) (st : Status), t = l.map asked ∧ d = s.withStatus st ∧
      st.observedGeneration = s.metadata.generation := by
  obtain ⟨_, h, -⟩ | ⟨t₁, s₁, t₂, rfl, h₁, h₂⟩ := path_andThen_iff.1 path
  · cases h
  · obtain ⟨l₁, rfl, hm, hs⟩ := exists_of_path_components h₁
    obtain ⟨l₂, rev, _, rfl, step, ⟨hf, hr, rfl⟩ | ⟨e, -, h, -⟩⟩ := path_ingress_iff.1 h₂
    · cases hr
      cases hid : s₁.key? with
      | none =>
        obtain ⟨-, rfl⟩ := (Ingress.path_reconcile_unscoped_iff hid).1 step
        cases hf
      | some id =>
        obtain ⟨-, -, rfl⟩ | ⟨-, now, later, -, rfl⟩ := (Ingress.path_reconcile_iff hid).1 step
        · cases hf
        · refine ⟨l₁ ++ l₂, _, by simp, Service.withStatus_congr hm hs _, ?_⟩
          rw [← hm]
          rfl
    · cases h

/-! ### a shop -/

namespace Shop

def noon : Instant := default

def key : Key := ⟨"shop", "fraud"⟩

def service (status : Option Status) : Service where
  metadata := { name := some "fraud", ns := some "shop", resourceVersion := some "7", generation := some 2 }
  spec := { predictor := {}, explainer := some {} }
  status := status

def serving : Deployment where
  status := some { readyReplicas := some 1, conditions := some [{ type := "Available", status := "True" }] }

def look : Lookup := fun k => if k = key.workload .predictor then .ok (some serving) else .ok none

/-- A status from better times, when there was a transformer. -/
def was : Status where
  conditions :=
    [⟨Condition.ready, .yes, "AllComponentsReady", "", noon⟩, ⟨"TransformerReady", .yes, "", "", noon⟩,
      ⟨"PredictorReady", .unknown, "", "", noon⟩, ⟨"Owner", .no, "", "", noon⟩, ⟨Condition.ready, .no, "", "", noon⟩]
  address := some "nowhere"
  components := ⟨none, some ⟨3, some "nowhere"⟩, none⟩

/-- What the reconcilers leave of a status, whenever it is noon. -/
def settled (st : Status) : Status :=
  Ingress.settled (({} : IngressConfig).url "fraud" "shop") [.predictor, .explainer] (some 2) noon noon
    (Workload.note "cluster.local" key .explainer (.seen .missing) noon
      (Workload.note "cluster.local" key .predictor (.seen (.available 1)) noon st))

def calls : List (Answered Effect.Answer) :=
  [⟨.deployment (key.workload .predictor), .ok (some serving)⟩, ⟨.clock, noon⟩,
    ⟨.deployment (key.workload .explainer), .ok none⟩, ⟨.clock, noon⟩, ⟨.clock, noon⟩, ⟨.clock, noon⟩]

def next : Service := (service was).withStatus (settled was)

def notReady : Event :=
  ⟨.warning, Event.notReady, Event.updateStatus, some "InferenceService [fraud] is no longer Ready",
    (service was).reference⟩

theorem path_reconcilers (status : Option Status) :
    Path (shipped {} (reconcilers (service status))) calls
      (.done (.ok ((service status).withStatus (settled (status.getD {}))))) :=
  .cons (.cons (.cons (.cons (.cons (.cons (.nil _))))))

theorem heeds_calls : ∀ m ∈ calls, Effect.Heeds look m := by
  unfold calls
  simp only [List.forall_mem_cons]
  exact ⟨rfl, trivial, rfl, trivial, trivial, trivial, by simp⟩

end Shop

end ModelServing.Pass
