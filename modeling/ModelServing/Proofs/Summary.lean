import ModelServing.Proofs.Pass.Readiness

/-!
# What the readiness of a service is made of

* `Spec.counted` are the types of the conditions that count for the readiness of a service, and `Status.tells` is what a
  status tells about a type: value and message of its first condition, or that there is none;
* `Sums` says how a condition sums up what a status tells about some types;
* `sums_summary` says that `Ingress.summary` does so: the first report with the value of the sum gives it its reason;
* `ready_sums_up` says it of every status that the ingress leaves, and that nothing else has a part in it.
-/

namespace ModelServing

open Prog

/-- The types of the conditions that count for the readiness of a service, in the order in which they count. -/
def Spec.counted (s : Spec) : List String :=
  "PredictorReady" :: (if s.transformer.isSome then ["TransformerReady"] else []) ++
    (if s.explainer.isSome then ["ExplainerReady"] else []) ++ ["IngressReady"]

theorem Spec.counted_eq (s : Spec) :
    s.counted = s.requested.map Kind.conditionType ++ [Condition.ingressReady] := by
  obtain ⟨predictor, transformer, explainer⟩ := s
  cases transformer <;> cases explainer <;> rfl

/-- What a status tells about a type: value and message of the first condition of that type; without one, the value is
unknown and the message says so. -/
def Status.tells (st : Status) (type : String) : Truth × String :=
  match st.condition? type with
  | some c => (c.status, c.message)
  | none => (.unknown, type ++ " not reported")

/-- **How a condition sums up** what a status tells about some types: it is false if one of them is false, unknown if
one of them is unknown and none is false, and true if all of them are true. Where it is not true, the first of them with
its value gives it its reason and its message, whatever came before. -/
structure Sums (st : Status) (types : List String) (c : Condition) : Prop where
  no : c.status = .no ↔ ∃ type ∈ types, (st.tells type).1 = .no
  unknown : c.status = .unknown ↔
    (∀ type ∈ types, (st.tells type).1 ≠ .no) ∧ ∃ type ∈ types, (st.tells type).1 = .unknown
  yes : c.status = .yes ↔ ∀ type ∈ types, (st.tells type).1 = .yes
  first : c.status ≠ .yes → ∃ before type after, types = before ++ type :: after ∧
    (∀ x ∈ before, (st.tells x).1 ≠ c.status) ∧ st.tells type = (c.status, c.message) ∧
    c.reason = type ++ c.status.text

theorem Truth.sum_eq_no_iff {l : List Truth} : sum l = .no ↔ .no ∈ l := by
  unfold sum
  split
  · simp [*]
  · split <;> simp [*]

theorem Sums.congr {st : Status} {types : List String} {c c' : Condition} (h : Sums st types c)
    (same : c.verdict = c'.verdict) : Sums st types c' := by
  obtain ⟨hs, hr, hm⟩ := Verdict.mk.inj same
  constructor
  · rw [← hs]
    exact h.no
  · rw [← hs]
    exact h.unknown
  · rw [← hs]
    exact h.yes
  · rw [← hs, ← hr, ← hm]
    exact h.first

namespace Ingress

/-! ### sums of reports -/

theorem report_eq (st : Status) (type : String) :
    report st type = ⟨type, (st.tells type).1, (st.tells type).2⟩ := by
  unfold report Status.tells
  cases st.condition? type <;> rfl

theorem reports_eq (st : Status) (spec : Spec) : reports st spec.requested = spec.counted.map (report st) := by
  rw [spec.counted_eq]
  rfl

theorem split_of_find? {l : List Report} {v : Truth} {r : Report} (h : l.find? (·.value == v) = some r) :
    r.value = v ∧ ∃ before after, l = before ++ r :: after ∧ ∀ x ∈ before, x.value ≠ v := by
  obtain ⟨value, before, after, hl, others⟩ := List.find?_eq_some_iff_append.1 h
  exact ⟨by simpa using value, before, after, hl, by simpa using others⟩

/-- The first report with the value of a sum gives the sum its reason and its message. -/
theorem exists_first_of_summary {l : List Report} {now : Instant} (lacking : (summary l now).status ≠ .yes) :
    ∃ before r after, l = before ++ r :: after ∧ (∀ x ∈ before, x.value ≠ (summary l now).status) ∧
      r.value = (summary l now).status ∧ r.message = (summary l now).message ∧
      (summary l now).reason = r.type ++ (summary l now).status.text := by
  unfold summary at lacking ⊢
  cases hno : l.find? (·.value == .no) with
  | some r =>
    obtain ⟨value, before, after, hl, others⟩ := split_of_find? hno
    exact ⟨before, r, after, hl, others, value, rfl, rfl⟩
  | none =>
    rw [hno] at lacking
    cases hun : l.find? (·.value == .unknown) with
    | some r =>
      obtain ⟨value, before, after, hl, others⟩ := split_of_find? hun
      exact ⟨before, r, after, hl, others, value, rfl, rfl⟩
    | none =>
      rw [hun] at lacking
      exact absurd rfl lacking

/-- **The sum of the reports about some types sums up what is told about them.** -/
theorem sums_summary (st : Status) (types : List String) (now : Instant) :
    Sums st types (summary (types.map (report st)) now) := by
  have values : (types.map (report st)).map Report.value = types.map fun type => (st.tells type).1 := by
    rw [List.map_map]
    apply List.map_congr_left
    intro type _
    exact congrArg Report.value (report_eq st type)
  have status := status_summary (types.map (report st)) now
  rw [values] at status
  refine ⟨?_, ?_, ?_, fun lacking => ?_⟩
  · rw [status, Truth.sum_eq_no_iff, List.mem_map]
  · rw [status, Truth.sum_eq_unknown_iff, List.mem_map, List.mem_map]
    simp
  · rw [status, Truth.sum_eq_yes_iff, List.forall_mem_map]
  · obtain ⟨before, r, after, split, others, value, message, reason⟩ := exists_first_of_summary lacking
    -- the report is that about one of the types, and so are those before it
    obtain ⟨before, rest, rfl, rfl, hrest⟩ := List.map_eq_append_iff.1 split
    obtain ⟨type, after, rfl, rfl, -⟩ := List.map_eq_cons_iff.1 hrest
    rw [report_eq] at value message reason
    refine ⟨before, type, after, rfl, fun x hx => ?_, Prod.ext value message, reason⟩
    have other := others _ (List.mem_map_of_mem hx)
    rwa [report_eq] at other

/-! ### what the ingress leaves -/

theorem tells_congr {st st' : Status} {type : String} (h : st.verdict? type = st'.verdict? type) :
    st.tells type = st'.tells type := by
  have same := report_congr h
  rw [report_eq, report_eq] at same
  exact Prod.ext (congrArg Report.value same) (congrArg Report.message same)

section Settled

variable {url url' : String} {spec : Spec} {generation generation' : Option Int64} {st st' : Status}

/-- The readiness of a settled status sums up what the status tells about the types that count. -/
theorem Settled.exists_sums (h : Settled url spec.requested generation st) :
    ∃ c, st.ready? = some c ∧ Sums st spec.counted c := by
  obtain ⟨c, hc, hv⟩ := Option.map_eq_some_iff.1 (h.ready default)
  rw [reports_eq] at hv
  exact ⟨c, hc, (sums_summary st spec.counted default).congr hv.symm⟩

/-- It depends on what is told about the requested components, and on whether traffic can enter. -/
theorem Settled.ready_congr (h : Settled url spec.requested generation st)
    (h' : Settled url' spec.requested generation' st')
    (told : ∀ k ∈ spec.requested, st.tells k.conditionType = st'.tells k.conditionType)
    (enters : st.address.isSome = st'.address.isSome) :
    st.verdict? Condition.ready = st'.verdict? Condition.ready := by
  have ofIngress : st.verdict? Condition.ingressReady = st'.verdict? Condition.ingressReady := by
    rw [h.route default, h'.route default]
    cases ha : st.address <;> cases ha' : st'.address <;> simp_all [routeCondition, Condition.verdict]
  have sum : reports st spec.requested = reports st' spec.requested := by
    rw [reports_eq, reports_eq, spec.counted_eq]
    apply List.map_congr_left
    intro type ht
    rw [report_eq, report_eq]
    simp only [List.mem_append, List.mem_map, List.mem_singleton] at ht
    rcases ht with ⟨k, hk, rfl⟩ | rfl
    · rw [told k hk]
    · rw [tells_congr ofIngress]
  rw [h.ready default, h'.ready default, sum]

end Settled

theorem tells_settled {url : String} {requested : List Kind} {generation : Option Int64} {now later : Instant}
    {st : Status} {k : Kind} (hk : k ∈ requested) :
    (settled url requested generation now later st).tells k.conditionType = st.tells k.conditionType := by
  apply tells_congr
  rw [verdict?_settled, if_pos hk]

theorem address_settled {url : String} {spec : Spec} {generation : Option Int64} {now later : Instant} {st : Status} :
    (settled url spec.requested generation now later st).address = st.address? (entry spec.requested) := by
  have requested : entry spec.requested ∈ spec.requested := entry_mem (Spec.mem_requested.2 rfl)
  show (prune spec.requested st).address? (entry spec.requested) = _
  simp [Status.address?, prune, requested]

/-- **How readiness sums up.** Whatever a service and its status are: when the ingress has succeeded, the condition
`Ready` sums up what the new status tells about the requested components, in order, and about the ingress. Its value,
reason and message are the same for any other status that tells the same about the requested components and has an
endpoint where traffic enters if this one has: neither the former condition `Ready` nor the conditions of others nor
those of components that are not requested have a part in them. -/
theorem ready_sums_up {config : IngressConfig} {s s' : Service} {t : List (Answered Probe.Answer)}
    (path : Path (reconcile config s) t (.done ⟨s', none⟩)) :
    (∃ st c, s' = s.withStatus st ∧ st.ready? = some c ∧ Sums st s.spec.counted c) ∧
    ∀ config₂ s₂ s₂' t₂, Path (reconcile config₂ s₂) t₂ (.done ⟨s₂', none⟩) → s₂.spec.requested = s.spec.requested →
      (∀ k ∈ s.spec.requested,
        s₂.statusOrEmpty.tells k.conditionType = s.statusOrEmpty.tells k.conditionType) →
      (s₂.statusOrEmpty.address? (entry s.spec.requested)).isSome =
        (s.statusOrEmpty.address? (entry s.spec.requested)).isSome →
      s₂'.statusOrEmpty.verdict? Condition.ready = s'.statusOrEmpty.verdict? Condition.ready := by
  obtain ⟨failed, -⟩ | ⟨id, now, later, -, left⟩ := cases_of_path path
  · exact absurd rfl failed
  obtain rfl := (Revision.mk.inj left).1
  have rest : Settled (config.url id.name id.ns) s.spec.requested s.metadata.generation
      (settled (config.url id.name id.ns) s.spec.requested s.metadata.generation now later s.statusOrEmpty) :=
    settled_settled
  obtain ⟨c, hc, sums⟩ := rest.exists_sums
  refine ⟨⟨_, c, rfl, hc, sums⟩, ?_⟩
  intro config₂ s₂ s₂' t₂ path₂ spec told enters
  obtain ⟨failed, -⟩ | ⟨id₂, now₂, later₂, -, left₂⟩ := cases_of_path path₂
  · exact absurd rfl failed
  obtain rfl := (Revision.mk.inj left₂).1
  rw [spec]
  refine Settled.ready_congr settled_settled rest (fun k hk => ?_) ?_
  · exact (tells_settled hk).trans ((told k hk).trans (tells_settled hk).symm)
  · exact (congrArg Option.isSome address_settled).trans (enters.trans (congrArg Option.isSome address_settled).symm)

end Ingress

namespace Pass.Shop

/-- Nothing is known of the predictor, and the explainer is overloaded; whatever else is told comes first. -/
def mixed (others : List Condition) : Status where
  conditions := others ++
    [⟨"PredictorReady", .unknown, "", "no news", noon⟩, ⟨"ExplainerReady", .no, "", "overloaded", noon⟩]
  components := ⟨some ⟨1, some "somewhere"⟩, none, none⟩

def hearsay : List Condition :=
  [⟨Condition.ready, .yes, "", "", noon⟩, ⟨"TransformerReady", .no, "", "gone", noon⟩, ⟨"Owner", .no, "", "", noon⟩]

def summed (others : List Condition) : Status :=
  Ingress.settled (({} : IngressConfig).url "fraud" "shop") [.predictor, .explainer] (some 2) noon noon (mixed others)

theorem path_ingress (others : List Condition) :
    Path (Ingress.reconcile {} (service (mixed others))) [⟨.clock, noon⟩, ⟨.clock, noon⟩]
      (.done ⟨(service none).withStatus (summed others), none⟩) :=
  .cons (.cons (.nil _))

end Pass.Shop

namespace Ingress

/-- The shop is not ready because of its explainer, although nothing is known of its predictor, and it is as little
ready without the hearsay. -/
theorem ready_sums_up_shop :
    (∃ c, (Pass.Shop.summed Pass.Shop.hearsay).ready? = some c ∧
      Sums (Pass.Shop.summed Pass.Shop.hearsay) ["PredictorReady", "ExplainerReady", "IngressReady"] c) ∧
    (Pass.Shop.summed []).verdict? Condition.ready = some ⟨.no, "ExplainerReadyFalse", "overloaded"⟩ ∧
    (Pass.Shop.summed []).verdict? Condition.ready =
      (Pass.Shop.summed Pass.Shop.hearsay).verdict? Condition.ready := by
  obtain ⟨⟨st, c, left, ready, sums⟩, same⟩ := ready_sums_up (Pass.Shop.path_ingress Pass.Shop.hearsay)
  obtain rfl : Pass.Shop.summed Pass.Shop.hearsay = st := Option.some.inj (congrArg Service.status left)
  exact ⟨⟨c, ready, sums⟩, by decide, same _ _ _ _ (Pass.Shop.path_ingress []) rfl
    (List.forall_mem_cons.2 ⟨rfl, List.forall_mem_singleton.2 rfl⟩) rfl⟩

end Ingress

end ModelServing
