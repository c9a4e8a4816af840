import ModelServing.Proofs.Pass.Converged

/-!
# When a service is ready

* `Deployment.Serves` says when a workload serves, `Lookup.Serving` that a look finds one that does;
* `Truth.sum` is the value of a sum of reports: one that is false decides, else one that is unknown;
* `Converged.exists_ready` gives the value of the condition `Ready` after the reconcilers as a sum of findings;
* `ready_of_path_reconcilers` gives it, and the workloads that are looked at, in terms of what serves.
-/

namespace ModelServing

open Prog

/-! ### what serves -/

/-- The workload says that it is available, and has ready replicas. -/
def Deployment.Serves (w : Deployment) : Prop :=
  ∃ st cs n, w.status = some st ∧ st.conditions = some cs ∧ (∃ c ∈ cs, c.type = "Available" ∧ c.status = "True") ∧
    st.readyReplicas = some n ∧ 0 < n

/-- A look finds a workload that serves. -/
def Lookup.Serving (look : Lookup) (key : Key) : Prop := ∃ w, look key = .ok (some w) ∧ w.Serves

namespace Finding

def value : Finding → Truth
  | waiting => .no
  | seen .missing => .unknown
  | seen (.unavailable _) => .no
  | seen (.available _) => .yes

theorem condition_status (f : Finding) (k : Kind) (workload : String) (now : Instant) :
    (f.condition k workload now).status = f.value := by
  cases f with
  | waiting => rfl
  | seen o => cases o <;> rfl

theorem value_eq_yes_iff {f : Finding} : f.value = .yes ↔ f.serves = true := by
  cases f with
  | waiting => decide
  | seen o => cases o <;> simp [value, serves]

theorem value_eq_unknown_iff {f : Finding} : f.value = .unknown ↔ f = .seen .missing := by
  cases f with
  | waiting => decide
  | seen o => cases o <;> simp [value]

end Finding

theorem Observation.ofDeployment_eq_missing_iff {o : Option Deployment} : ofDeployment o = .missing ↔ o = none := by
  cases o with
  | none => simp [ofDeployment]
  | some w =>
    unfold ofDeployment
    dsimp only
    split <;> simp

theorem Observation.saysAvailable_iff {st : DeploymentStatus} :
    saysAvailable st = true ↔ ∃ c ∈ st.conditions.getD [], c.type = "Available" ∧ c.status = "True" := by
  simp [saysAvailable, List.any_eq_true]

theorem Deployment.serves_iff {w : Deployment} :
    w.Serves ↔ Observation.saysAvailable (w.status.getD {}) = true ∧ 0 < (w.status.getD {}).readyReplicas.getD 0 := by
  rw [Observation.saysAvailable_iff]
  unfold Serves
  constructor
  · rintro ⟨st, cs, n, hst, hcs, hc, hn, hpos⟩
    rw [hst, Option.getD_some, hcs, hn]
    exact ⟨hc, hpos⟩
  · rintro ⟨⟨c, hc, hsays⟩, hpos⟩
    -- without a status, or without the fields, nothing is said and nothing is ready
    cases hst : w.status with
    | none => simp [hst] at hc
    | some st =>
      rw [hst, Option.getD_some] at hc hpos
      cases hcs : st.conditions with
      | none => simp [hcs] at hc
      | some cs =>
        cases hn : st.readyReplicas with
        | none => simp [hn] at hpos
        | some n =>
          rw [hcs, Option.getD_some] at hc
          rw [hn, Option.getD_some] at hpos
          exact ⟨st, cs, n, rfl, hcs, ⟨c, hc, hsays⟩, hn, hpos⟩

theorem Finding.serves_seen_iff {o : Option Deployment} :
    (seen (.ofDeployment o)).serves = true ↔ ∃ w, o = some w ∧ w.Serves := by
  cases o with
  | none => simp [Observation.ofDeployment, serves]
  | some w =>
    simp only [Option.some.injEq, exists_eq_left', Deployment.serves_iff, Observation.ofDeployment]
    split
    · rename_i h
      simpa [serves] using h
    · rename_i h
      simpa [serves] using h

namespace Lookup

variable {look : Lookup} {id : Key} {k : Kind}

def AllServe (look : Lookup) (id : Key) (ks : List Kind) : Prop := ∀ k ∈ ks, look.Serving (id.workload k)

/-- The components in the way of traffic serve, but there is no workload of the explainer. -/
def LacksExplainer (look : Lookup) (id : Key) (ks : List Kind) : Prop :=
  look.Serving (id.workload .predictor) ∧ (.transformer ∈ ks → look.Serving (id.workload .transformer)) ∧
    .explainer ∈ ks ∧ look (id.workload .explainer) = .ok none

theorem serves_seen_iff {key : Key} : (look.seen key).serves = true ↔ look.Serving key := by
  unfold seen Serving
  rw [Finding.serves_seen_iff]
  constructor
  · rintro ⟨w, h, serves⟩
    refine ⟨w, ?_, serves⟩
    unfold found at h
    split at h
    · rename_i h'
      rw [h', h]
    · cases h
  · rintro ⟨w, h, serves⟩
    exact ⟨w, found_of_ok h, serves⟩

/-- A component is found to serve if it does and need not wait. -/
theorem serves_finding_iff :
    (look.finding id k).serves = true ↔ look.Serving (id.workload .predictor) ∧ look.Serving (id.workload k) := by
  rw [← @serves_seen_iff look (id.workload .predictor), ← @serves_seen_iff look (id.workload k)]
  unfold finding
  split
  · rename_i h
    rcases h with rfl | h
    · simp
    · simp [h]
  · rename_i h
    constructor
    · intro hw
      cases hw
    · rintro ⟨h', -⟩
      exact absurd (.inr h') h

theorem finding_eq_missing_iff (hok : ∃ o, look (id.workload k) = .ok o) :
    look.finding id k = .seen .missing ↔
      (k = .predictor ∨ look.Serving (id.workload .predictor)) ∧ look (id.workload k) = .ok none := by
  obtain ⟨o, ho⟩ := hok
  rw [← serves_seen_iff, ho]
  unfold finding
  split
  · rename_i h
    rw [seen, found_of_ok ho, Finding.seen.injEq, Observation.ofDeployment_eq_missing_iff, Except.ok.injEq]
    simp [h]
  · rename_i h
    simp [h]

end Lookup

/-! ### sums -/

/-- The value of a sum: one false value decides, else one unknown value. -/
def Truth.sum (l : List Truth) : Truth := if .no ∈ l then .no else if .unknown ∈ l then .unknown else .yes

namespace Truth

variable {l : List Truth}

theorem sum_eq_yes_iff : sum l = .yes ↔ ∀ v ∈ l, v = .yes := by
  unfold sum
  split
  · rename_i h
    simp only [reduceCtorEq, false_iff]
    intro hall
    cases hall _ h
  · split
    · rename_i h
      simp only [reduceCtorEq, false_iff]
      intro hall
      cases hall _ h
    · simp only [true_iff]
      rintro (_ | _ | _) hv
      · rfl
      · contradiction
      · contradiction

theorem sum_eq_unknown_iff : sum l = .unknown ↔ .no ∉ l ∧ .unknown ∈ l := by
  unfold sum
  split
  · simp [*]
  · split
    · simp [*]
    · simp [*]

end Truth

namespace Ingress

theorem find?_value_eq_none_iff {l : List Report} {v : Truth} :
    l.find? (·.value == v) = none ↔ v ∉ l.map Report.value := by
  rw [List.find?_eq_none, List.mem_map]
  simp

theorem exists_find?_value {l : List Report} {v : Truth} (h : v ∈ l.map Report.value) :
    ∃ r, l.find? (·.value == v) = some r :=
  Option.ne_none_iff_exists'.1 fun hnone => find?_value_eq_none_iff.1 hnone h

theorem status_summary (l : List Report) (now : Instant) : (summary l now).status = Truth.sum (l.map Report.value) := by
  unfold summary Truth.sum
  by_cases hno : .no ∈ l.map Report.value
  · obtain ⟨r, hr⟩ := exists_find?_value hno
    rw [hr, if_pos hno]
  · rw [find?_value_eq_none_iff.2 hno, if_neg hno]
    by_cases hun : .unknown ∈ l.map Report.value
    · obtain ⟨r, hr⟩ := exists_find?_value hun
      rw [hr, if_pos hun]
    · rw [find?_value_eq_none_iff.2 hun, if_neg hun]

theorem value_report {s : Status} {type : String} {v : Verdict} (h : s.verdict? type = some v) :
    (report s type).value = v.value := by
  unfold Status.verdict? at h
  obtain ⟨c, hc, rfl⟩ := Option.map_eq_some_iff.1 h
  unfold report
  rw [hc]
  rfl

theorem status_routeCondition (e : Kind) (a : Option String) (now : Instant) :
    (routeCondition e a now).status = if a.isSome then .yes else .no := by
  cases a <;> rfl

theorem entry_mem {requested : List Kind} (h : .predictor ∈ requested) : entry requested ∈ requested := by
  unfold entry
  split
  · assumption
  · exact h

end Ingress

/-! ### converged statuses -/

section Converged

variable {config : Config} {look : Lookup} {id : Key} {requested : List Kind} {generation : Option Int64} {st : Status}

/-- What the requested components and the ingress say. -/
def Lookup.values (look : Lookup) (id : Key) (requested : List Kind) : List Truth :=
  requested.map (fun k => (look.finding id k).value) ++
    [if (look.finding id (Ingress.entry requested)).serves then .yes else .no]

theorem Converged.values_reports (h : Converged config look id requested generation st)
    (hp : .predictor ∈ requested) :
    (Ingress.reports st requested).map Ingress.Report.value = look.values id requested := by
  have ofKind : ∀ k ∈ requested, (Ingress.report st k.conditionType).value = (look.finding id k).value := by
    intro k hk
    rw [Ingress.value_report ((h.told k hk).verdict default)]
    exact Finding.condition_status _ _ _ _
  have ofIngress : (Ingress.report st Condition.ingressReady).value =
      if (look.finding id (Ingress.entry requested)).serves then .yes else .no := by
    rw [Ingress.value_report (h.route default)]
    show (Ingress.routeCondition _ _ _).status = _
    rw [Ingress.status_routeCondition, h.address, Status.address?, (h.told _ (Ingress.entry_mem hp)).component,
      Option.bind_some, Finding.address_isSome]
  unfold Ingress.reports Lookup.values
  rw [List.map_append, List.map_append, List.map_map, List.map_map, List.map_singleton, List.map_singleton, ofIngress]
  congr 1
  exact List.map_congr_left ofKind

/-- The value of the service as a whole is the sum of the findings. -/
theorem Converged.exists_ready (h : Converged config look id requested generation st) (hp : .predictor ∈ requested) :
    ∃ c, st.ready? = some c ∧ c.status = Truth.sum (look.values id requested) := by
  obtain ⟨c, hc, hv⟩ := Option.map_eq_some_iff.1 (h.ready default)
  refine ⟨c, hc, ?_⟩
  rw [← h.values_reports hp, ← Ingress.status_summary _ default]
  exact congrArg Verdict.value hv

end Converged

/-! ### the sum of the findings -/

namespace Lookup

variable {look : Lookup} {id : Key} {requested : List Kind}

theorem Serving.ne_missing {key : Key} (h : look.Serving key) : look key ≠ .ok none := by
  obtain ⟨w, hw, -⟩ := h
  rw [hw]
  simp

theorem mem_values_iff {v : Truth} :
    v ∈ look.values id requested ↔ (∃ k ∈ requested, (look.finding id k).value = v) ∨
      v = if (look.finding id (Ingress.entry requested)).serves then .yes else .no := by
  unfold values
  rw [List.mem_append, List.mem_map, List.mem_singleton]

theorem sum_values_eq_yes_iff (hp : .predictor ∈ requested) :
    Truth.sum (look.values id requested) = .yes ↔ look.AllServe id requested := by
  rw [Truth.sum_eq_yes_iff]
  constructor
  · intro hall k hk
    have hv : (look.finding id k).value = .yes := hall _ (mem_values_iff.2 (.inl ⟨k, hk, rfl⟩))
    exact (serves_finding_iff.1 (Finding.value_eq_yes_iff.1 hv)).2
  · intro hall v hv
    have serves : ∀ k ∈ requested, (look.finding id k).serves = true := fun k hk =>
      serves_finding_iff.2 ⟨hall _ hp, hall k hk⟩
    rcases mem_values_iff.1 hv with ⟨k, hk, rfl⟩ | rfl
    · exact Finding.value_eq_yes_iff.2 (serves k hk)
    · exact if_pos (serves _ (Ingress.entry_mem hp))

theorem sum_values_eq_unknown_iff (hok : ∀ k ∈ requested, ∃ o, look (id.workload k) = .ok o) :
    Truth.sum (look.values id requested) = .unknown ↔ look.LacksExplainer id requested := by
  rw [Truth.sum_eq_unknown_iff]
  constructor
  · rintro ⟨hno, hun⟩
    have hentry : (look.finding id (Ingress.entry requested)).serves = true := by
      refine Decidable.byContradiction fun h => hno ?_
      exact mem_values_iff.2 (.inr (if_neg h).symm)
    obtain ⟨predictor, entry⟩ := serves_finding_iff.1 hentry
    have transformer : .transformer ∈ requested → look.Serving (id.workload .transformer) := by
      intro ht
      rwa [Ingress.entry, if_pos ht] at entry
    refine ⟨predictor, transformer, ?_⟩
    -- something that was looked at is missing, and it is neither of the two that serve
    rcases mem_values_iff.1 hun with ⟨k, hk, hv⟩ | hv
    · have missing : look (id.workload k) = .ok none :=
        ((finding_eq_missing_iff (hok k hk)).1 (Finding.value_eq_unknown_iff.1 hv)).2
      cases k with
      | predictor => exact absurd missing predictor.ne_missing
      | transformer => exact absurd missing (transformer hk).ne_missing
      | explainer => exact ⟨hk, missing⟩
    · rw [if_pos hentry] at hv
      cases hv
  · rintro ⟨predictor, transformer, hk, missing⟩
    have hmissing : (look.finding id .explainer).value = .unknown :=
      Finding.value_eq_unknown_iff.2 ((finding_eq_missing_iff (hok _ hk)).2 ⟨.inr predictor, missing⟩)
    refine ⟨fun hno => ?_, mem_values_iff.2 (.inl ⟨.explainer, hk, hmissing⟩)⟩
    rcases mem_values_iff.1 hno with ⟨k, hk', hv⟩ | hv
    · cases k with
      | predictor =>
        rw [Finding.value_eq_yes_iff.2 (serves_finding_iff.2 ⟨predictor, predictor⟩)] at hv
        cases hv
      | transformer =>
        rw [Finding.value_eq_yes_iff.2 (serves_finding_iff.2 ⟨predictor, transformer hk'⟩)] at hv
        cases hv
      | explainer =>
        rw [hmissing] at hv
        cases hv
    · have hentry : look.Serving (id.workload (Ingress.entry requested)) := by
        unfold Ingress.entry
        split
        · exact transformer ‹_›
        · exact predictor
      rw [if_pos (serves_finding_iff.2 ⟨predictor, hentry⟩)] at hv
      cases hv

/-! ### what is looked at -/

theorem looked_of_serving (h : look.Serving (id.workload .predictor)) : look.looked id requested = requested := by
  unfold looked
  rw [List.filter_eq_self]
  intro k _
  have hk : look.finding id k ≠ .waiting := fun hw => by
    have hp := (finding_eq_waiting_iff.1 hw).2
    rw [serves_finding_iff.2 ⟨h, h⟩] at hp
    cases hp
  simpa using hk

theorem looked_of_not_serving {s : Spec} (h : ¬ look.Serving (id.workload .predictor)) :
    look.looked id s.requested = [.predictor] := by
  have hp : (look.finding id .predictor).serves = false := by
    rw [Bool.eq_false_iff]
    exact fun hs => h (serves_finding_iff.1 hs).2
  have first : look.finding id .predictor ≠ .waiting := fun hw => (finding_eq_waiting_iff.1 hw).1 rfl
  obtain ⟨rest, hreq, hnot⟩ := s.exists_requested
  have others : look.looked id rest = [] := by
    unfold looked
    rw [List.filter_eq_nil_iff]
    intro k hk
    have hw : look.finding id k = .waiting := finding_eq_waiting_iff.2 ⟨fun e => hnot (e ▸ hk), hp⟩
    simpa using hw
  rw [hreq, looked_cons, others, List.append_nil]
  simpa [looked] using first

end Lookup

namespace Pass

/-- **When a service is ready.** Whatever its status was, once the reconcilers have run with a domain and with answers
to their looks, the service is ready if all requested components serve, of unknown readiness if nothing but the workload
of the explainer is missing, and not ready else. The components behind a predictor that does not serve are not looked
at. -/
theorem ready_of_path_reconcilers {config : Config} {look : Lookup} {id : Key} {s : Service}
    {t : List (Answered Effect.Answer)} {r : Except Failure Service} (hid : s.key? = some id)
    (domain : Text.isBlank config.ingress.domain = false)
    (answered : ∀ k ∈ s.spec.requested, ∃ o, look (id.workload k) = .ok o)
    (path : Path (shipped config (reconcilers s)) t (.done r)) (heeds : ∀ m ∈ t, Effect.Heeds look m) :
    ∃ st c, r = .ok (s.withStatus st) ∧ st.ready? = some c ∧
      (c.status = .yes ↔ look.AllServe id s.spec.requested) ∧
      (c.status = .unknown ↔ look.LacksExplainer id s.spec.requested) ∧
      (c.status = .no ↔ ¬ look.AllServe id s.spec.requested ∧ ¬ look.LacksExplainer id s.spec.requested) ∧
      (look.Serving (id.workload .predictor) → lookups t = s.spec.requested.map id.workload) ∧
      (¬ look.Serving (id.workload .predictor) → lookups t = [id.workload .predictor]) := by
  have hp : .predictor ∈ s.spec.requested := Spec.mem_requested.2 rfl
  have answers : look.Answers id s.spec.requested := fun k hk => answered k (List.mem_filter.1 hk).1
  obtain ⟨st, rfl, looks, conv, -⟩ := (reconciled_of_path hid path heeds).converges domain answers
  obtain ⟨c, hc, hsum⟩ := conv.exists_ready hp
  have hyes : c.status = .yes ↔ look.AllServe id s.spec.requested := by
    rw [hsum]
    exact Lookup.sum_values_eq_yes_iff hp
  have hunknown : c.status = .unknown ↔ look.LacksExplainer id s.spec.requested := by
    rw [hsum]
    exact Lookup.sum_values_eq_unknown_iff answered
  refine ⟨st, c, rfl, hc, hyes, hunknown, ?_, fun h => ?_, fun h => ?_⟩
  · rw [← hyes, ← hunknown]
    cases c.status <;> simp
  · rw [looks, Lookup.looked_of_serving h]
  · rw [looks, Lookup.looked_of_not_serving h]
    rfl

/-- The shop has no explainer. -/
theorem ready_of_path_reconcilers_shop :
    Shop.serving.Serves ∧ (∃ c, (Shop.settled Shop.was).ready? = some c ∧ c.status = .unknown) ∧
      lookups Shop.calls = [.predictor, .explainer].map Shop.key.workload := by
  have serves : Shop.serving.Serves := ⟨_, _, 1, rfl, rfl, ⟨_, List.mem_singleton_self _, rfl, rfl⟩, rfl, by decide⟩
  have predictor : Shop.look.Serving (Shop.key.workload .predictor) := ⟨Shop.serving, rfl, serves⟩
  obtain ⟨_, c, hr, hc, -, unknown, -, all, -⟩ := ready_of_path_reconcilers rfl (by decide)
    (List.forall_mem_cons.2 ⟨⟨some Shop.serving, rfl⟩, List.forall_mem_singleton.2 ⟨none, rfl⟩⟩)
    (Shop.path_reconcilers Shop.was) Shop.heeds_calls
  cases hr
  exact ⟨serves, ⟨c, hc, unknown.2 ⟨predictor, fun h => absurd h (by decide), by decide, rfl⟩⟩, all predictor⟩

end Pass

end ModelServing
