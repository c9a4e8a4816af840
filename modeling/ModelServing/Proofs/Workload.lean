import ModelServing.Proofs.Prog.Path
import ModelServing.Proofs.Verdict
import ModelServing.Workload

/-!
# What the reconciler of a component does

* `Key.workload` and `Key.endpoint` are the workload and the endpoint of a component of the service with that key;
* `Finding` is what a reconciler finds out about its component, `Workload.note` writes it into a status;
* `path_reconcile_iff` lists the runs of the reconciler: it waits, its look fails, or it notes what it saw;
* `note_eq_self` and `reconcile_again` say that finding the same again changes nothing.
-/

namespace ModelServing

open Prog

/-! ### names -/

/-- The workload of a component. -/
def Key.workload (id : Key) (k : Kind) : Key := ⟨id.ns, Workload.name id.name k⟩

/-- The endpoint of a component inside the cluster. -/
def Key.endpoint (clusterDomain : String) (id : Key) (k : Kind) : String :=
  Workload.address clusterDomain (id.workload k).name id.ns

/-- The components of a service have different workloads. -/
theorem Key.workload_inj {id : Key} {k k' : Kind} : id.workload k = id.workload k' ↔ k = k' := by
  constructor
  · intro h
    have names : id.name ++ "-" ++ k.name = id.name ++ "-" ++ k'.name := congrArg Key.name h
    exact Kind.name_inj.1 ((String.append_right_inj _).1 names)
  · rintro rfl
    rfl

theorem Service.key?_eq_some_iff {s : Service} {id : Key} :
    s.key? = some id ↔ s.metadata.ns = some id.ns ∧ s.name = id.name := by
  unfold Service.key?
  constructor
  · intro h
    obtain ⟨ns, hns, rfl⟩ := Option.map_eq_some_iff.1 h
    exact ⟨hns, rfl⟩
  · rintro ⟨hns, hname⟩
    rw [hns, hname]
    rfl

@[simp] theorem Service.key?_withStatus (s : Service) (status : Status) : (s.withStatus status).key? = s.key? := rfl

@[simp] theorem Service.metadata_withStatus (s : Service) (status : Status) :
    (s.withStatus status).metadata = s.metadata := rfl

@[simp] theorem Service.spec_withStatus (s : Service) (status : Status) : (s.withStatus status).spec = s.spec := rfl

@[simp] theorem Service.statusOrEmpty_withStatus (s : Service) (status : Status) :
    (s.withStatus status).statusOrEmpty = status := rfl

@[simp] theorem Service.withStatus_withStatus (s : Service) (status status' : Status) :
    (s.withStatus status).withStatus status' = s.withStatus status' := rfl

theorem Service.withStatus_congr {s s' : Service} (hm : s.metadata = s'.metadata) (hs : s.spec = s'.spec)
    (status : Status) : s.withStatus status = s'.withStatus status := by
  unfold Service.withStatus
  rw [hm, hs]

theorem Service.key?_congr {s s' : Service} (hm : s.metadata = s'.metadata) : s.key? = s'.key? := by
  unfold Service.key? Service.name
  rw [hm]

theorem Service.key?_eq_none_iff {s : Service} : s.key? = none ↔ s.metadata.ns = none := by
  unfold Service.key?
  rw [Option.map_eq_none_iff]

/-! ### findings -/

/-- The answers to all looks at workloads. -/
abbrev Lookup : Type := Key → Except Failure (Option Deployment)

/-- The answer, if it is one to a look, is that of `look`. -/
def Probe.Heeds (look : Lookup) : Answered Probe.Answer → Prop
  | ⟨.deployment key, r⟩ => r = look key
  | ⟨.clock, _⟩ => True

theorem Probe.answer_eq {look : Lookup} {t : List (Answered Probe.Answer)} {key : Key}
    {r : Except Failure (Option Deployment)} (heeds : ∀ m ∈ t, Probe.Heeds look m)
    (h : ⟨.deployment key, r⟩ ∈ t) : r = look key := heeds _ h

/-- What a reconciler finds out about its component. -/
inductive Finding where
  /-- The predictor has no endpoint, so that the workload was not looked at. -/
  | waiting
  | seen (o : Observation)
deriving DecidableEq

namespace Finding

def component (endpoint : String) : Finding → ComponentStatus
  | waiting => {}
  | seen o => Workload.component endpoint o

def condition (k : Kind) (workload : String) (now : Instant) : Finding → Condition
  | waiting => ⟨k.conditionType, .no, "PredictorNotReady", "Waiting for the predictor to publish its endpoint", now⟩
  | seen o => Workload.condition k workload now o

/-- Whether the component serves. -/
def serves : Finding → Bool
  | seen (.available _) => true
  | _ => false

@[simp] theorem condition_type (f : Finding) (k : Kind) (workload : String) (now : Instant) :
    (f.condition k workload now).type = k.conditionType := by
  cases f with
  | waiting => rfl
  | seen o => cases o <;> rfl

theorem condition_verdict (f : Finding) (k : Kind) (workload : String) (now now' : Instant) :
    (f.condition k workload now).verdict = (f.condition k workload now').verdict := by
  cases f with
  | waiting => rfl
  | seen o => cases o <;> rfl

theorem address_isSome (f : Finding) (endpoint : String) : (f.component endpoint).address.isSome = f.serves := by
  cases f with
  | waiting => rfl
  | seen o => cases o <;> rfl

end Finding

namespace Workload

/-! ### noting -/

/-- The status with a finding about a component. -/
def note (clusterDomain : String) (id : Key) (k : Kind) (f : Finding) (now : Instant) (s : Status) : Status :=
  (s.observe k (f.component (id.endpoint clusterDomain k))).place (f.condition k (id.workload k).name now)

variable {clusterDomain : String} {id : Key} {k : Kind} {f : Finding} {now : Instant} {s : Status}

theorem get_note (x : Kind) :
    (note clusterDomain id k f now s).components.get x =
      if x = k then some (f.component (id.endpoint clusterDomain k)) else s.components.get x := by
  simp [note]

theorem verdict?_note (type : String) :
    (note clusterDomain id k f now s).verdict? type =
      if type = k.conditionType then some (f.condition k (id.workload k).name now).verdict else s.verdict? type := by
  simp [note, Status.verdict?_place]

theorem note_eq_self (hc : s.components.get k = some (f.component (id.endpoint clusterDomain k)))
    (hv : s.verdict? k.conditionType = some (f.condition k (id.workload k).name now).verdict) :
    note clusterDomain id k f now s = s := by
  unfold note
  rw [Status.observe_eq_self hc, Status.place_eq_self]
  simpa using hv

theorem note_note (now' : Instant) :
    note clusterDomain id k f now' (note clusterDomain id k f now s) = note clusterDomain id k f now s := by
  apply note_eq_self
  · simp [get_note]
  · simp [verdict?_note, f.condition_verdict k _ now now']

theorem blocked_note : blocked k (note clusterDomain id k f now s) = blocked k s := by
  cases k <;> simp [blocked, Status.address?, get_note]

/-! ### runs -/

section Runs

variable {s : Service} {t : List (Answered Probe.Answer)} {r : Revision}

/-- **The runs of the reconciler of a component**: it has to wait, or its look fails, or it notes what it saw. -/
theorem path_reconcile_iff (hid : s.key? = some id) :
    Path (reconcile clusterDomain k s) t (.done r) ↔
      (blocked k s.statusOrEmpty = true ∧ ∃ now, t = [⟨.clock, now⟩] ∧
        r = ⟨s.withStatus (note clusterDomain id k .waiting now s.statusOrEmpty), none⟩) ∨
      (blocked k s.statusOrEmpty = false ∧ ∃ e, t = [⟨.deployment (id.workload k), .error e⟩] ∧
        r = ⟨s.withStatus s.statusOrEmpty, some e⟩) ∨
      (blocked k s.statusOrEmpty = false ∧ ∃ found now,
        t = [⟨.deployment (id.workload k), .ok found⟩, ⟨.clock, now⟩] ∧
        r = ⟨s.withStatus (note clusterDomain id k (.seen (.ofDeployment found)) now s.statusOrEmpty), none⟩) := by
  obtain ⟨hns, hname⟩ := Service.key?_eq_some_iff.1 hid
  unfold reconcile
  rw [hns, hname]
  dsimp only
  cases hb : blocked k s.statusOrEmpty with
  | true =>
    rw [if_pos rfl, path_ask_done_iff]
    constructor
    · rintro ⟨now, t', rfl, h⟩
      obtain ⟨rfl, hr⟩ := path_done_iff.1 h
      cases hr
      exact .inl ⟨rfl, now, rfl, rfl⟩
    · rintro (⟨-, now, rfl, rfl⟩ | ⟨hb', -⟩ | ⟨hb', -⟩)
      · exact ⟨now, [], rfl, .nil _⟩
      · cases hb'
      · cases hb'
  | false =>
    rw [if_neg (by decide), path_ask_done_iff]
    constructor
    · rintro ⟨e | found, t', rfl, h⟩
      · obtain ⟨rfl, hr⟩ := path_done_iff.1 h
        cases hr
        exact .inr (.inl ⟨rfl, e, rfl, rfl⟩)
      · obtain ⟨now, t'', rfl, h'⟩ := path_ask_done_iff.1 h
        obtain ⟨rfl, hr⟩ := path_done_iff.1 h'
        cases hr
        exact .inr (.inr ⟨rfl, found, now, rfl, rfl⟩)
    · rintro (⟨hb', -⟩ | ⟨-, e, rfl, rfl⟩ | ⟨-, found, now, rfl, rfl⟩)
      · cases hb'
      · exact ⟨.error e, [], rfl, .nil _⟩
      · exact ⟨.ok found, [⟨.clock, now⟩], rfl, .cons (.nil _)⟩

theorem path_reconcile_unscoped_iff (hid : s.key? = none) :
    Path (reconcile clusterDomain k s) t (.done r) ↔ t = [] ∧ r = ⟨s, some (.unscoped s.name)⟩ := by
  unfold reconcile
  rw [Service.key?_eq_none_iff.1 hid]
  simp [path_done_iff]

/-- **A reconciler that succeeds leaves nothing to do**: run again on what it left, at any time, with the same answers
to its looks, it succeeds and changes nothing. -/
theorem reconcile_again {look : Lookup} {s' : Service} {t' : List (Answered Probe.Answer)}
    (path : Path (reconcile clusterDomain k s) t (.done ⟨s', none⟩)) (heeds : ∀ m ∈ t, Probe.Heeds look m)
    (path' : Path (reconcile clusterDomain k s') t' (.done r)) (heeds' : ∀ m ∈ t', Probe.Heeds look m) :
    r = ⟨s', none⟩ := by
  cases hid : s.key? with
  | none =>
    obtain ⟨-, h⟩ := (path_reconcile_unscoped_iff hid).1 path
    cases h
  | some id =>
    rcases (path_reconcile_iff hid).1 path with ⟨hb, now, rfl, hs⟩ | ⟨-, e, -, hs⟩ | ⟨hb, found, now, rfl, hs⟩
    · obtain ⟨rfl, -⟩ := Revision.mk.inj hs
      have hb' : blocked k (note clusterDomain id k .waiting now s.statusOrEmpty) = true := by
        rw [blocked_note, hb]
      rcases (path_reconcile_iff (by simpa using hid)).1 path' with ⟨-, now', -, rfl⟩ | ⟨h, -⟩ | ⟨h, -⟩
      · simp [note_note]
      · simp [hb'] at h
      · simp [hb'] at h
    · cases hs
    · obtain ⟨rfl, -⟩ := Revision.mk.inj hs
      have hl : .ok found = look (id.workload k) := Probe.answer_eq heeds (by simp)
      have hb' : blocked k (note clusterDomain id k (.seen (.ofDeployment found)) now s.statusOrEmpty) = false := by
        rw [blocked_note, hb]
      rcases (path_reconcile_iff (by simpa using hid)).1 path' with
        ⟨h, -⟩ | ⟨-, e, rfl, -⟩ | ⟨-, found', now', rfl, rfl⟩
      · simp [hb'] at h
      · have he : .error e = look (id.workload k) := Probe.answer_eq heeds' (by simp)
        rw [← hl] at he
        cases he
      · have he : .ok found' = look (id.workload k) := Probe.answer_eq heeds' (by simp)
        rw [← hl] at he
        cases he
        simp [note_note]

end Runs

end Workload

end ModelServing
