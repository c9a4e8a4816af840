import ModelServing.Proofs.Workload

/-!
# What the reconciler of the ingress does

* `path_reconcile_iff` lists the runs of the reconciler: it refuses its domain, or it settles the status;
* `Settled url requested generation s` says that nothing is left for it to do in `s`, without times;
* `settled_settled` says that it leaves a settled status behind, `settled_eq_self` that it changes nothing in one;
* `reconcile_again` is both together: a second run changes nothing.
-/

namespace ModelServing.Ingress

open Prog

/-! ### verdicts that count -/

theorem report_congr {s s' : Status} {type : String} (h : s.verdict? type = s'.verdict? type) :
    report s type = report s' type := by
  unfold Status.verdict? at h
  unfold report
  cases hs : s.condition? type with
  | none =>
    cases hs' : s'.condition? type with
    | none => rfl
    | some c' => simp [hs, hs'] at h
  | some c =>
    cases hs' : s'.condition? type with
    | none => simp [hs, hs'] at h
    | some c' =>
      simp only [hs, hs', Option.map_some, Option.some.injEq, Condition.verdict, Verdict.mk.injEq] at h
      simp only [h]

/-- The reports depend on the verdicts of the requested components and of the ingress alone. -/
theorem reports_congr {s s' : Status} {requested : List Kind}
    (hk : ∀ k ∈ requested, s.verdict? k.conditionType = s'.verdict? k.conditionType)
    (hi : s.verdict? Condition.ingressReady = s'.verdict? Condition.ingressReady) :
    reports s requested = reports s' requested := by
  unfold reports
  apply List.map_congr_left
  intro type ht
  simp only [List.mem_append, List.mem_map, List.mem_singleton] at ht
  rcases ht with ⟨k, hk', rfl⟩ | rfl
  · exact report_congr (hk k hk')
  · exact report_congr hi

@[simp] theorem routeCondition_type (e : Kind) (a : Option String) (now : Instant) :
    (routeCondition e a now).type = Condition.ingressReady := by
  cases a <;> rfl

theorem routeCondition_verdict (e : Kind) (a : Option String) (now now' : Instant) :
    (routeCondition e a now).verdict = (routeCondition e a now').verdict := by
  cases a <;> rfl

@[simp] theorem summary_type (l : List Report) (now : Instant) : (summary l now).type = Condition.ready := by
  unfold summary
  split <;> rfl

theorem summary_verdict (l : List Report) (now now' : Instant) :
    (summary l now).verdict = (summary l now').verdict := by
  unfold summary
  split <;> rfl

/-! ### settled statuses -/

/-- Nothing is left for the ingress to do: unrequested components are forgotten, the address is that of the entry, and
the conditions say what follows from the rest of the status. -/
structure Settled (url : String) (requested : List Kind) (generation : Option Int64) (s : Status) : Prop where
  forgotten : ∀ k, k ∉ requested → s.components.get k = none
  silent : ∀ k, k ∉ requested → s.verdict? k.conditionType = none
  address : s.address = s.address? (entry requested)
  url : s.url = some url
  generation : s.observedGeneration = generation
  route : ∀ now, s.verdict? Condition.ingressReady = some (routeCondition (entry requested) s.address now).verdict
  ready : ∀ now, s.verdict? Condition.ready = some (summary (reports s requested) now).verdict

section Settled

variable {url : String} {requested : List Kind} {generation : Option Int64} {now later : Instant} {s : Status}

@[simp] theorem get_route (k : Kind) : (route url requested now s).components.get k = s.components.get k := rfl

theorem verdict?_route (type : String) :
    (route url requested now s).verdict? type =
      if type = Condition.ingressReady then
        some (routeCondition (entry requested) (s.address? (entry requested)) now).verdict
      else s.verdict? type := by
  unfold route
  rw [Status.verdict?_place, routeCondition_type]
  rfl

theorem get_settled (k : Kind) :
    (settled url requested generation now later s).components.get k =
      if k ∈ requested then s.components.get k else none := by
  simp [settled, prune]

theorem verdict?_settled_of_ne {type : String} (h : type ≠ Condition.ready) :
    (settled url requested generation now later s).verdict? type =
      (route url requested now (prune requested s)).verdict? type := by
  show ((route url requested now (prune requested s)).place _).verdict? type = _
  rw [Status.verdict?_place, summary_type, if_neg h]

theorem verdict?_settled (k : Kind) :
    (settled url requested generation now later s).verdict? k.conditionType =
      if k ∈ requested then s.verdict? k.conditionType else none := by
  rw [verdict?_settled_of_ne k.conditionType_ne_ready, verdict?_route, if_neg k.conditionType_ne_ingressReady,
    verdict?_prune]

/-- **What the ingress leaves behind is settled.** -/
theorem settled_settled : Settled url requested generation (settled url requested generation now later s) where
  forgotten k hk := by rw [get_settled, if_neg hk]
  silent k hk := by rw [verdict?_settled, if_neg hk]
  address := rfl
  url := rfl
  generation := rfl
  route now' := by
    rw [verdict?_settled_of_ne Condition.ingressReady_ne_ready, verdict?_route, if_pos rfl]
    exact congrArg some (routeCondition_verdict _ _ _ _)
  ready now' := by
    have reports_eq : reports (settled url requested generation now later s) requested =
        reports (route url requested now (prune requested s)) requested :=
      reports_congr (fun k _ => verdict?_settled_of_ne k.conditionType_ne_ready)
        (verdict?_settled_of_ne Condition.ingressReady_ne_ready)
    rw [reports_eq]
    show ((route url requested now (prune requested s)).place _).verdict? Condition.ready = _
    rw [Status.verdict?_place, summary_type, if_pos rfl]
    exact congrArg some (summary_verdict _ _ _)

/-- **What is settled stays as it is.** -/
theorem settled_eq_self (h : Settled url requested generation s) :
    settled url requested generation now later s = s := by
  have routed : route url requested now s = s := by
    have fields : ({ s with address := s.address? (entry requested), url := some url } : Status) = s := by
      rw [← h.address, ← h.url]
    unfold route
    dsimp only
    rw [fields]
    apply Status.place_eq_self
    rw [routeCondition_type, ← h.address]
    exact h.route now
  have summed : s.place (summary (reports s requested) later) = s := by
    apply Status.place_eq_self
    rw [summary_type]
    exact h.ready later
  unfold settled
  dsimp only
  rw [prune_eq_self h.forgotten h.silent, routed, summed, ← h.generation]

end Settled

/-! ### runs -/

section Runs

variable {config : IngressConfig} {id : Key} {s : Service} {t : List (Answered Probe.Answer)} {r : Revision}

/-- **The runs of the reconciler of the ingress**: it refuses its domain, or it settles the status. -/
theorem path_reconcile_iff (hid : s.key? = some id) :
    Path (reconcile config s) t (.done r) ↔
      (Text.isBlank config.domain = true ∧ t = [] ∧
        r = ⟨s, some (.invalid id.name "ingress domain must not be empty")⟩) ∨
      (Text.isBlank config.domain = false ∧ ∃ now later, t = [⟨.clock, now⟩, ⟨.clock, later⟩] ∧
        r = ⟨s.withStatus (settled (config.url id.name id.ns) s.spec.requested s.metadata.generation now later
          s.statusOrEmpty), none⟩) := by
  obtain ⟨hns, hname⟩ := Service.key?_eq_some_iff.1 hid
  unfold reconcile
  rw [hns, hname]
  dsimp only
  cases hd : Text.isBlank config.domain with
  | true =>
    rw [if_pos rfl, path_done_iff]
    constructor
    · rintro ⟨rfl, hr⟩
      cases hr
      exact .inl ⟨rfl, rfl, rfl⟩
    · rintro (⟨-, rfl, rfl⟩ | ⟨h, -⟩)
      · exact ⟨rfl, rfl⟩
      · cases h
  | false =>
    rw [if_neg (by decide), path_ask_done_iff]
    constructor
    · rintro ⟨now, t', rfl, h⟩
      obtain ⟨later, t'', rfl, h'⟩ := path_ask_done_iff.1 h
      obtain ⟨rfl, hr⟩ := path_done_iff.1 h'
      cases hr
      exact .inr ⟨rfl, now, later, rfl, rfl⟩
    · rintro (⟨h, -⟩ | ⟨-, now, later, rfl, rfl⟩)
      · cases h
      · exact ⟨now, [⟨.clock, later⟩], rfl, .cons (.nil _)⟩

/-- With a domain, the reconciler of the ingress needs only two looks at the clock. -/
theorem exists_path_of_domain (domain : Text.isBlank config.domain = false) (hns : s.metadata.ns ≠ none)
    (now later : Instant) : ∃ s', Path (reconcile config s) [⟨.clock, now⟩, ⟨.clock, later⟩] (.done ⟨s', none⟩) := by
  obtain ⟨id, hid⟩ := Option.ne_none_iff_exists'.1 (mt Service.key?_eq_none_iff.1 hns)
  exact ⟨_, (path_reconcile_iff hid).2 (.inr ⟨domain, now, later, rfl, rfl⟩)⟩

theorem failure_eq_none_of_domain (domain : Text.isBlank config.domain = false) (hns : s.metadata.ns ≠ none)
    (path : Path (reconcile config s) t (.done r)) : r.failure = none := by
  obtain ⟨id, hid⟩ := Option.ne_none_iff_exists'.1 (mt Service.key?_eq_none_iff.1 hns)
  obtain ⟨blank, -⟩ | ⟨-, now, later, -, rfl⟩ := (path_reconcile_iff hid).1 path
  · rw [domain] at blank
    cases blank
  · rfl

theorem path_reconcile_unscoped_iff (hid : s.key? = none) :
    Path (reconcile config s) t (.done r) ↔ t = [] ∧ r = ⟨s, some (.unscoped s.name)⟩ := by
  unfold reconcile
  rw [Service.key?_eq_none_iff.1 hid]
  simp [path_done_iff]

/-- A reconciler that fails leaves everything as it was, and one that succeeds has settled the status. -/
theorem cases_of_path (path : Path (reconcile config s) t (.done r)) :
    (r.failure ≠ none ∧ r.service = s) ∨ ∃ id now later, s.key? = some id ∧
      r = ⟨s.withStatus (settled (config.url id.name id.ns) s.spec.requested s.metadata.generation now later
        s.statusOrEmpty), none⟩ := by
  cases hid : s.key? with
  | none =>
    obtain ⟨-, rfl⟩ := (path_reconcile_unscoped_iff hid).1 path
    exact .inl ⟨by simp, rfl⟩
  | some id =>
    rcases (path_reconcile_iff hid).1 path with ⟨-, -, rfl⟩ | ⟨-, now, later, -, rfl⟩
    · exact .inl ⟨by simp, rfl⟩
    · exact .inr ⟨id, now, later, rfl, rfl⟩

/-- **A reconciler that succeeds leaves nothing to do**: run again on what it left, at any time, it succeeds and changes
nothing. -/
theorem reconcile_again {s' : Service} {t' : List (Answered Probe.Answer)}
    (path : Path (reconcile config s) t (.done ⟨s', none⟩)) (path' : Path (reconcile config s') t' (.done r)) :
    r = ⟨s', none⟩ := by
  cases hid : s.key? with
  | none =>
    obtain ⟨-, h⟩ := (path_reconcile_unscoped_iff hid).1 path
    cases h
  | some id =>
    rcases (path_reconcile_iff hid).1 path with ⟨-, -, hs⟩ | ⟨hd, now, later, -, hs⟩
    · cases hs
    · obtain ⟨rfl, -⟩ := Revision.mk.inj hs
      rcases (path_reconcile_iff (by simpa using hid)).1 path' with ⟨hd', -⟩ | ⟨-, now', later', -, rfl⟩
      · rw [hd] at hd'
        cases hd'
      · have rest : Settled (config.url id.name id.ns) s.spec.requested s.metadata.generation
            (settled (config.url id.name id.ns) s.spec.requested s.metadata.generation now later s.statusOrEmpty) :=
          settled_settled
        simp [settled_eq_self rest]

end Runs

end ModelServing.Ingress
