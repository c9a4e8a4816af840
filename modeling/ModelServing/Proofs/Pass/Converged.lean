import ModelServing.Proofs.Pass.Steps

/-!
# What reconcilers converge to

* `Lookup.finding` is what the reconcilers find out about a component when `look` answers all of their looks, whatever
  was stored before, and `Lookup.looked` are the components that they look at at all;
* `Told` says that a status tells the finding about a component, `Converged` that it tells all findings and is settled;
* `reached_of_path` says that a run of the components fails with a look or notes all findings, and `reconciled_of_path`
  that a run of the reconcilers fails or ends in a converged status, and that it leaves a converged status as it is;
* `Converged.agree` says that converged statuses differ in times and places of conditions alone, and
  `agree_of_path_reconcilers` that no run depends on the status that was there before.
-/

namespace ModelServing

open Prog

/-- The predictor comes first, and once. -/
theorem Spec.exists_requested (s : Spec) : ∃ rest, s.requested = .predictor :: rest ∧ .predictor ∉ rest := by
  refine ⟨[.transformer, .explainer].filter fun k => (s.component? k).isSome, rfl, fun h => ?_⟩
  exact absurd (List.mem_filter.1 h).1 (by decide)

namespace Lookup

def found (look : Lookup) (key : Key) : Option Deployment :=
  match look key with
  | .ok o => o
  | .error _ => none

def seen (look : Lookup) (key : Key) : Finding := .seen (.ofDeployment (look.found key))

/-- What is found out about a component: the predictor is looked at, the others if the predictor serves. -/
def finding (look : Lookup) (id : Key) (k : Kind) : Finding :=
  if k = .predictor ∨ (look.seen (id.workload .predictor)).serves = true then look.seen (id.workload k) else .waiting

/-- The components of a list that are looked at. -/
def looked (look : Lookup) (id : Key) (ks : List Kind) : List Kind := ks.filter fun k => look.finding id k ≠ .waiting

/-- No look at a component of a list fails. -/
def Answers (look : Lookup) (id : Key) (ks : List Kind) : Prop :=
  ∀ k ∈ look.looked id ks, ∃ o, look (id.workload k) = .ok o

variable {look : Lookup} {id : Key} {k : Kind} {ks : List Kind}

theorem looked_cons : look.looked id (k :: ks) = look.looked id [k] ++ look.looked id ks :=
  List.filter_append [k] ks

theorem answers_cons_iff : look.Answers id (k :: ks) ↔ look.Answers id [k] ∧ look.Answers id ks := by
  unfold Answers
  rw [looked_cons]
  exact List.forall_mem_append

theorem found_of_ok {key : Key} {o : Option Deployment} (h : look key = .ok o) : look.found key = o := by
  unfold found
  rw [h]

@[simp] theorem finding_predictor : look.finding id .predictor = look.seen (id.workload .predictor) := if_pos (.inl rfl)

theorem finding_eq_waiting_iff :
    look.finding id k = .waiting ↔ k ≠ .predictor ∧ (look.finding id .predictor).serves = false := by
  rw [finding_predictor]
  unfold finding
  split
  · rename_i h
    constructor
    · intro hw
      cases hw
    · rintro ⟨hk, hs⟩
      rcases h with h | h
      · exact absurd h hk
      · rw [hs] at h
        cases h
  · rename_i h
    rw [not_or, Bool.not_eq_true] at h
    exact iff_of_true rfl h

theorem finding_of_ne_waiting (h : look.finding id k ≠ .waiting) : look.finding id k = look.seen (id.workload k) := by
  unfold finding at h ⊢
  split
  · rfl
  · rename_i hn
    rw [if_neg hn] at h
    exact absurd rfl h

end Lookup

/-- The status tells what was found out about a component. -/
structure Told (clusterDomain : String) (look : Lookup) (id : Key) (k : Kind) (s : Status) : Prop where
  component : s.components.get k = some ((look.finding id k).component (id.endpoint clusterDomain k))
  verdict : ∀ now, s.verdict? k.conditionType = some ((look.finding id k).condition k (id.workload k).name now).verdict

namespace Told

variable {clusterDomain : String} {look : Lookup} {id : Key} {k : Kind} {now : Instant} {s : Status}

theorem note : Told clusterDomain look id k (Workload.note clusterDomain id k (look.finding id k) now s) where
  component := by rw [Workload.get_note, if_pos rfl]
  verdict now' := by
    rw [Workload.verdict?_note, if_pos rfl]
    exact congrArg some (Finding.condition_verdict _ _ _ _ _)

theorem note_of_told {x : Kind} (h : Told clusterDomain look id x s) :
    Told clusterDomain look id x (Workload.note clusterDomain id k (look.finding id k) now s) := by
  by_cases hx : x = k
  · subst hx
    exact note
  · refine ⟨?_, fun now' => ?_⟩
    · rw [Workload.get_note, if_neg hx]
      exact h.component
    · rw [Workload.verdict?_note, if_neg fun he => hx (Kind.conditionType_inj.1 he)]
      exact h.verdict now'

theorem note_eq_self (h : Told clusterDomain look id k s) :
    Workload.note clusterDomain id k (look.finding id k) now s = s :=
  Workload.note_eq_self h.component (h.verdict now)

/-- Once the predictor is told, those wait that are found to wait. -/
theorem blocked_iff (h : k = .predictor ∨ Told clusterDomain look id .predictor s) :
    Workload.blocked k s = true ↔ look.finding id k = .waiting := by
  rw [Lookup.finding_eq_waiting_iff]
  unfold Workload.blocked
  rcases h with rfl | h
  · simp
  · have serves : (s.address? .predictor).isSome = (look.finding id .predictor).serves := by
      unfold Status.address?
      rw [h.component]
      exact Finding.address_isSome _ _
    rw [← serves]
    simp

/-- The ingress leaves requested components as they are told. -/
theorem settled_of_told {url : String} {requested : List Kind} {generation : Option Int64} {later : Instant}
    (h : Told clusterDomain look id k s) (hk : k ∈ requested) :
    Told clusterDomain look id k (Ingress.settled url requested generation now later s) where
  component := by
    rw [Ingress.get_settled, if_pos hk]
    exact h.component
  verdict now' := by
    rw [Ingress.verdict?_settled, if_pos hk]
    exact h.verdict now'

end Told

/-- What the reconcilers leave behind: all findings are told, and the rest is settled. -/
structure Converged (config : Config) (look : Lookup) (id : Key) (requested : List Kind) (generation : Option Int64)
    (s : Status) : Prop extends Ingress.Settled (config.ingress.url id.name id.ns) requested generation s where
  told : ∀ k ∈ requested, Told config.clusterDomain look id k s

/-- Statuses that converged in the same way differ in the times and places of conditions alone. -/
structure Status.Agree (s s' : Status) : Prop where
  components : s.components = s'.components
  url : s.url = s'.url
  address : s.address = s'.address
  generation : s.observedGeneration = s'.observedGeneration
  verdict : ∀ type ∈ Condition.wellKnown, s.verdict? type = s'.verdict? type

/-- **All converged statuses agree**, whatever they came from. -/
theorem Converged.agree {config : Config} {look : Lookup} {id : Key} {requested : List Kind} {generation : Option Int64}
    {s s' : Status} (h : Converged config look id requested generation s)
    (h' : Converged config look id requested generation s') : s.Agree s' := by
  have components : s.components = s'.components := by
    apply KindMap.ext_get
    intro k
    by_cases hk : k ∈ requested
    · rw [(h.told k hk).component, (h'.told k hk).component]
    · rw [h.forgotten k hk, h'.forgotten k hk]
  have address : s.address = s'.address := by
    rw [h.address, h'.address, Status.address?, Status.address?, components]
  have ofKind : ∀ k : Kind, s.verdict? k.conditionType = s'.verdict? k.conditionType := by
    intro k
    by_cases hk : k ∈ requested
    · rw [(h.told k hk).verdict default, (h'.told k hk).verdict default]
    · rw [h.silent k hk, h'.silent k hk]
  have ofIngress : s.verdict? Condition.ingressReady = s'.verdict? Condition.ingressReady := by
    rw [h.route default, h'.route default, address]
  have sum : Ingress.reports s requested = Ingress.reports s' requested :=
    Ingress.reports_congr (fun k _ => ofKind k) ofIngress
  have ofReady : s.verdict? Condition.ready = s'.verdict? Condition.ready := by
    rw [h.ready default, h'.ready default, sum]
  refine ⟨components, h.url.trans h'.url.symm, address, h.generation.trans h'.generation.symm, ?_⟩
  intro type ht
  simp only [Condition.wellKnown, List.mem_cons, List.mem_map] at ht
  rcases ht with rfl | rfl | ⟨k, -, rfl⟩
  · exact ofReady
  · exact ofIngress
  · exact ofKind k

namespace Pass

variable {config : Config} {look : Lookup} {id : Key} {k : Kind} {s : Service}

/-- The reconciler of a component fails if its look does, and else notes its finding. -/
theorem cases_of_path_component {l : List (Answered Probe.Answer)} {rev : Revision} (hid : s.key? = some id)
    (h : k = .predictor ∨ Told config.clusterDomain look id .predictor s.statusOrEmpty)
    (path : Path (Workload.reconcile config.clusterDomain k s) l (.done rev)) (heeds : ∀ m ∈ l, Probe.Heeds look m) :
    (rev.failure ≠ none ∧ ¬ look.Answers id [k]) ∨
      (look.Answers id [k] ∧ lookups (l.map asked) = (look.looked id [k]).map id.workload ∧ ∃ now,
        let st := Workload.note config.clusterDomain id k (look.finding id k) now s.statusOrEmpty
        rev = ⟨s.withStatus st, none⟩) := by
  have gate := Told.blocked_iff h
  rcases (Workload.path_reconcile_iff hid).1 path with ⟨hb, now, rfl, rfl⟩ | ⟨hb, e, rfl, rfl⟩ | ⟨hb, o, now, rfl, rfl⟩
  · have hw : look.finding id k = .waiting := gate.1 hb
    refine .inr ⟨?_, ?_, now, ?_⟩
    · simp [Lookup.Answers, Lookup.looked, hw]
    · simp [Lookup.looked, hw, lookups, asked]
    · rw [hw]
  · have hw : look.finding id k ≠ .waiting := fun hw => by simp [gate.2 hw] at hb
    have he : .error e = look (id.workload k) := Probe.answer_eq heeds (by simp)
    refine .inl ⟨by simp, fun hok => ?_⟩
    obtain ⟨o, ho⟩ := hok k (by simp [Lookup.looked, hw])
    rw [← he] at ho
    cases ho
  · have hw : look.finding id k ≠ .waiting := fun hw => by simp [gate.2 hw] at hb
    have ho : .ok o = look (id.workload k) := Probe.answer_eq heeds (by simp)
    refine .inr ⟨?_, ?_, now, ?_⟩
    · intro x hx
      obtain rfl : x = k := by simpa using (List.mem_filter.1 hx).1
      exact ⟨o, ho.symm⟩
    · simp [Lookup.looked, hw, lookups, asked]
    · rw [Lookup.finding_of_ne_waiting hw, Lookup.seen, Lookup.found_of_ok ho.symm]

/-- `after` is `before` with the findings about some components, and is `before` if they were told already. -/
structure Noted (clusterDomain : String) (look : Lookup) (id : Key) (ks : List Kind) (before after : Status) :
    Prop where
  told : ∀ k ∈ ks, Told clusterDomain look id k after
  kept : ∀ k, Told clusterDomain look id k before → Told clusterDomain look id k after
  same : (∀ k ∈ ks, Told clusterDomain look id k before) → after = before

theorem Noted.nil {clusterDomain : String} {st : Status} : Noted clusterDomain look id [] st st :=
  ⟨by simp, fun _ h => h, fun _ => rfl⟩

theorem Noted.cons {clusterDomain : String} {ks : List Kind} {now : Instant} {before after : Status}
    (h : Noted clusterDomain look id ks (Workload.note clusterDomain id k (look.finding id k) now before) after) :
    Noted clusterDomain look id (k :: ks) before after where
  told := List.forall_mem_cons.2 ⟨h.kept k .note, h.told⟩
  kept x hx := h.kept x hx.note_of_told
  same hall := by
    obtain ⟨hk, hks⟩ := List.forall_mem_cons.1 hall
    rw [hk.note_eq_self] at h
    exact h.same hks

/-! ### the runs of components -/

/-- How a run of components ends: a look has failed, or all findings are noted. -/
inductive Reached (config : Config) (look : Lookup) (id : Key) (s : Service) (ks : List Kind) (before : Status)
    (t : List (Answered Effect.Answer)) : Except Failure Service → Prop
  | failed {e : Failure} (refused : ¬ look.Answers id ks) : Reached config look id s ks before t (.error e)
  | noted {after : Status} (answers : look.Answers id ks) (looks : lookups t = (look.looked id ks).map id.workload)
      (noted : Noted config.clusterDomain look id ks before after) :
      Reached config look id s ks before t (.ok (s.withStatus after))

variable {origin : Reference} {ks : List Kind} {t : List (Answered Effect.Answer)} {r : Except Failure Service}

theorem reached_withStatus_iff {st before : Status} :
    Reached config look id (s.withStatus st) ks before t r ↔ Reached config look id s ks before t r := by
  constructor
  · rintro (h | ⟨answers, looks, noted⟩)
    · exact .failed h
    · exact .noted answers looks noted
  · rintro (h | ⟨answers, looks, noted⟩)
    · exact .failed h
    · exact .noted (s := s.withStatus st) answers looks noted

/-- The first component, and what the others reach from there. -/
theorem reached_cons (hid : s.key? = some id)
    (h : k = .predictor ∨ Told config.clusterDomain look id .predictor s.statusOrEmpty)
    (path : Path (shipped config (components origin (k :: ks) s)) t (.done r)) (heeds : ∀ m ∈ t, Effect.Heeds look m)
    (others : ∀ now t', (∀ m ∈ t', Effect.Heeds look m) →
      let st := Workload.note config.clusterDomain id k (look.finding id k) now s.statusOrEmpty
      Path (shipped config (components origin ks (s.withStatus st))) t' (.done r) →
        Reached config look id s ks st t' r) :
    Reached config look id s (k :: ks) s.statusOrEmpty t r := by
  obtain ⟨l, rev, t', rfl, step, rest⟩ := path_components_cons_iff.1 path
  have heeds₁ : ∀ m ∈ l, Probe.Heeds look m := fun m hm => by
    rw [← heeds_asked]
    exact heeds _ (List.mem_append_left _ (List.mem_map_of_mem hm))
  have heeds₂ : ∀ m ∈ t', Effect.Heeds look m := fun m hm => heeds m (List.mem_append_right _ hm)
  rcases cases_of_path_component hid h step heeds₁ with ⟨hf, hno⟩ | ⟨hok, hl, now, rfl⟩
  · obtain ⟨hf', -⟩ | ⟨e, -, rfl, -⟩ := rest
    · exact absurd hf' hf
    · exact .failed fun hall => hno (Lookup.answers_cons_iff.1 hall).1
  · obtain ⟨-, rest⟩ | ⟨e, he, -, -⟩ := rest
    · cases others now t' heeds₂ rest with
      | failed refused => exact .failed fun hall => refused (Lookup.answers_cons_iff.1 hall).2
      | noted answers looks noted =>
        refine .noted (Lookup.answers_cons_iff.2 ⟨hok, answers⟩) ?_ noted.cons
        rw [lookups_append, hl, looks, ← List.map_append, ← Lookup.looked_cons]
    · cases he

/-- **The runs of components behind the predictor**, once the predictor is told. -/
theorem reached_of_told {st : Status} (hid : s.key? = some id) (h : Told config.clusterDomain look id .predictor st)
    (path : Path (shipped config (components origin ks (s.withStatus st))) t (.done r))
    (heeds : ∀ m ∈ t, Effect.Heeds look m) : Reached config look id s ks st t r := by
  induction ks generalizing st t with
  | nil =>
    obtain ⟨rfl, rfl⟩ := path_components_nil_iff.1 path
    exact .noted (by simp [Lookup.Answers, Lookup.looked]) rfl .nil
  | cons k ks ih =>
    rw [← reached_withStatus_iff]
    refine reached_cons (s := s.withStatus st) hid (.inr h) path heeds fun now t' heeds' rest => ?_
    -- the predictor stays told, whatever is noted about the first of the others
    exact reached_withStatus_iff.2 (ih h.note_of_told rest heeds')

theorem reached_of_path (hid : s.key? = some id)
    (path : Path (shipped config (components origin s.spec.requested s)) t (.done r))
    (heeds : ∀ m ∈ t, Effect.Heeds look m) : Reached config look id s s.spec.requested s.statusOrEmpty t r := by
  obtain ⟨rest, hreq, -⟩ := s.spec.exists_requested
  rw [hreq] at path ⊢
  exact reached_cons hid (.inl rfl) path heeds fun now t' heeds' rest => reached_of_told hid .note rest heeds'

/-! ### the runs of all reconcilers -/

/-- How a run of the reconcilers ends: they have failed with their domain or a look, or have left a converged status,
which is the one that was there if that was converged. -/
inductive Reconciled (config : Config) (look : Lookup) (id : Key) (s : Service) (t : List (Answered Effect.Answer)) :
    Except Failure Service → Prop
  | failed {e : Failure}
      (refused : Text.isBlank config.ingress.domain = true ∨ ¬ look.Answers id s.spec.requested) :
      Reconciled config look id s t (.error e)
  | converged {st : Status} (domain : Text.isBlank config.ingress.domain = false)
      (answers : look.Answers id s.spec.requested)
      (looks : lookups t = (look.looked id s.spec.requested).map id.workload)
      (converged : Converged config look id s.spec.requested s.metadata.generation st)
      (same : Converged config look id s.spec.requested s.metadata.generation s.statusOrEmpty → st = s.statusOrEmpty) :
      Reconciled config look id s t (.ok (s.withStatus st))

/-- **The runs of the reconcilers**, whatever the status was. -/
theorem reconciled_of_path (hid : s.key? = some id) (path : Path (shipped config (reconcilers s)) t (.done r))
    (heeds : ∀ m ∈ t, Effect.Heeds look m) : Reconciled config look id s t r := by
  obtain ⟨e, rfl, h₁⟩ | ⟨t₁, s₁, t₂, rfl, h₁, h₂⟩ := path_andThen_iff.1 path
  · cases reached_of_path hid h₁ heeds with
    | failed refused => exact .failed (.inr refused)
  cases reached_of_path hid h₁ fun m hm => heeds m (List.mem_append_left _ hm) with
  | @noted st answers looks noted =>
    obtain ⟨l, rev, t₃, rfl, step, last⟩ := path_ingress_iff.1 h₂
    rcases (Ingress.path_reconcile_iff (s := s.withStatus st) hid).1 step with
      ⟨hd, rfl, rfl⟩ | ⟨hd, now, later, rfl, rfl⟩
    · obtain ⟨hf, -⟩ | ⟨e, -, rfl, -⟩ := last
      · cases hf
      · exact .failed (.inl hd)
    · obtain ⟨-, rfl, rfl⟩ | ⟨e, he, -, -⟩ := last
      · refine .converged hd answers ?_ ?_ fun h => ?_
        · rw [lookups_append, looks]
          exact List.append_nil _
        · exact ⟨Ingress.settled_settled, fun k hk => (noted.told k hk).settled_of_told hk⟩
        · have same : st = s.statusOrEmpty := noted.same h.told
          show Ingress.settled _ _ _ now later st = _
          rw [same]
          exact Ingress.settled_eq_self h.toSettled
      · cases he

/-- With a domain, and with answers to their looks, the reconcilers succeed. -/
theorem Reconciled.converges (h : Reconciled config look id s t r) (domain : Text.isBlank config.ingress.domain = false)
    (answers : look.Answers id s.spec.requested) :
    ∃ st, r = .ok (s.withStatus st) ∧ lookups t = (look.looked id s.spec.requested).map id.workload ∧
      Converged config look id s.spec.requested s.metadata.generation st ∧
      (Converged config look id s.spec.requested s.metadata.generation s.statusOrEmpty → st = s.statusOrEmpty) := by
  cases h with
  | failed refused =>
    rcases refused with hb | hno
    · rw [domain] at hb
      cases hb
    · exact absurd answers hno
  | converged _ _ looks converged same => exact ⟨_, rfl, looks, converged, same⟩

theorem exists_key_of_path_reconcilers {d : Service}
    (path : Path (shipped config (reconcilers s)) t (.done (.ok d))) : ∃ id, s.key? = some id := by
  obtain ⟨rest, hreq, -⟩ := s.spec.exists_requested
  cases hid : s.key? with
  | some id => exact ⟨id, rfl⟩
  | none =>
    obtain ⟨_, h, -⟩ | ⟨t₁, s₁, t₂, rfl, h₁, -⟩ := path_andThen_iff.1 path
    · cases h
    · rw [hreq] at h₁
      obtain ⟨l, rev, t₃, rfl, step, ⟨hf, -⟩ | ⟨_, -, h, -⟩⟩ := path_components_cons_iff.1 h₁
      · obtain ⟨-, rfl⟩ := (Workload.path_reconcile_unscoped_iff hid).1 step
        cases hf
      · cases h

/-- **No stale status leaks into a pass.** Two services with the same metadata and spec, whatever their statuses are,
are reconciled alike where the looks are answered alike: if one run succeeds, so does the other, it looks at the same
workloads, and the statuses agree. -/
theorem agree_of_path_reconcilers {s' d : Service} {t' : List (Answered Effect.Answer)}
    (path : Path (shipped config (reconcilers s)) t (.done (.ok d))) (heeds : ∀ m ∈ t, Effect.Heeds look m)
    (path' : Path (shipped config (reconcilers s')) t' (.done r)) (heeds' : ∀ m ∈ t', Effect.Heeds look m)
    (metadata : s'.metadata = s.metadata) (spec : s'.spec = s.spec) :
    ∃ st st', d = s.withStatus st ∧ r = .ok (s'.withStatus st') ∧ lookups t' = lookups t ∧ st'.Agree st := by
  obtain ⟨id, hid⟩ := exists_key_of_path_reconcilers path
  have hid' : s'.key? = some id := by
    unfold Service.key? Service.name at hid ⊢
    rw [metadata]
    exact hid
  cases reconciled_of_path hid path heeds with
  | converged domain answers looks conv _ =>
    rw [← spec] at answers
    obtain ⟨st', rfl, looks', conv', -⟩ := (reconciled_of_path hid' path' heeds').converges domain answers
    rw [spec] at looks' conv'
    rw [metadata] at conv'
    exact ⟨_, st', rfl, rfl, looks'.trans looks.symm, conv'.agree conv⟩

/-- The shop forgets its better times. -/
theorem agree_of_path_reconcilers_shop : (Shop.settled Shop.was).Agree (Shop.settled {}) := by
  obtain ⟨_, _, hd, hr, -, agree⟩ := agree_of_path_reconcilers (Shop.path_reconcilers none) Shop.heeds_calls
    (Shop.path_reconcilers Shop.was) Shop.heeds_calls rfl rfl
  cases hd
  cases hr
  exact agree

end Pass

end ModelServing
