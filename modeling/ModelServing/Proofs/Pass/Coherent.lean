import Mathlib.Data.List.Nodup
import ModelServing.Proofs.Pass.Contention
import ModelServing.Proofs.Pass.Readiness

/-!
# Written statuses do not contradict themselves

* `Coherent` says how the parts of a status fit together and fit the spec, without a word about workloads;
* `Converged.coherent` says that this holds of what the reconcilers leave when `look` answers their looks;
* `exists_lookup` finds such a `look` for every run that looks at no workload twice, and `nodup_lookups` says that no
  run of the reconcilers does;
* `coherent_of_write` puts them together: every status that a pass writes is coherent.
-/

namespace ModelServing

open Prog

/-- The parts of a status fit together, and fit the spec of the service `id`. Just the requested components are there; a
component has its endpoint as address, and a ready replica, while its condition is true, and none has one before the
predictor has; the service has the address of the component where traffic enters; and it is ready only if all components
have an address. -/
structure Coherent (config : Config) (id : Key) (spec : Spec) (generation : Option Int64) (st : Status) : Prop where
  components : ∀ k, (st.components.get k).isSome = true ↔ k ∈ spec.requested
  condition : ∀ k ∈ spec.requested,
    (st.address? k).isSome = true ↔ ∃ c, st.condition? k.conditionType = some c ∧ c.status = .yes
  endpoint : ∀ k a, st.address? k = some a →
    a = "http://" ++ (id.name ++ "-" ++ k.name) ++ "." ++ id.ns ++ ".svc." ++ config.clusterDomain
  replicas : ∀ k w, st.components.get k = some w → w.address.isSome = true → 1 ≤ w.readyReplicas
  predictor : ∀ k, (st.address? k).isSome = true → (st.address? .predictor).isSome = true
  silent : ∀ k, k ∉ spec.requested → ∀ c ∈ st.conditions, c.type ≠ k.conditionType
  entry : st.address = st.address? (if .transformer ∈ spec.requested then .transformer else .predictor)
  route : ∃ c, st.condition? Condition.ingressReady = some c ∧ c.status = if st.address.isSome then .yes else .no
  url : st.url = some (config.ingress.urlScheme ++ "://" ++ id.name ++ "." ++ id.ns ++ "." ++ config.ingress.domain)
  generation : st.observedGeneration = generation
  ready : ∃ c, st.ready? = some c ∧ (c.status = .yes → ∀ k ∈ spec.requested,
    ∃ w, st.components.get k = some w ∧ w.address.isSome = true ∧ 1 ≤ w.readyReplicas)

/-! ### findings about components that serve -/

theorem Observation.pos_of_available {o : Option Deployment} {n : Int32} (h : ofDeployment o = .available n) :
    0 < n := by
  cases o with
  | none => cases h
  | some w =>
    unfold ofDeployment at h
    dsimp only at h
    split at h
    · rename_i serves
      rw [Bool.and_eq_true, decide_eq_true_eq] at serves
      cases h
      exact serves.2
    · cases h

theorem Finding.component_address (f : Finding) (endpoint : String) :
    (f.component endpoint).address = if f.serves then some endpoint else none := by
  cases f with
  | waiting => rfl
  | seen o => cases o <;> rfl

theorem Lookup.replicas_of_serves {look : Lookup} {id : Key} {k : Kind} {endpoint : String}
    (serves : (look.finding id k).serves = true) : 1 ≤ ((look.finding id k).component endpoint).readyReplicas := by
  have looked : look.finding id k ≠ .waiting := by
    intro waits
    rw [waits] at serves
    cases serves
  rw [Lookup.finding_of_ne_waiting looked, Lookup.seen] at serves ⊢
  cases ho : Observation.ofDeployment (look.found (id.workload k)) with
  | available n =>
    have pos : 0 < n := Observation.pos_of_available ho
    show 1 ≤ n
    rw [Int32.lt_iff_toInt_lt, Int32.toInt_zero] at pos
    rw [Int32.le_iff_toInt_le, Int32.toInt_one]
    omega
  | _ =>
    rw [ho] at serves
    cases serves

/-! ### converged statuses -/

section Told

variable {clusterDomain : String} {look : Lookup} {id : Key} {k : Kind} {st : Status}

theorem Told.address?_eq (h : Told clusterDomain look id k st) :
    st.address? k = if (look.finding id k).serves then some (id.endpoint clusterDomain k) else none := by
  unfold Status.address?
  rw [h.component, Option.bind_some, Finding.component_address]

theorem Told.address?_isSome_iff (h : Told clusterDomain look id k st) :
    (st.address? k).isSome = true ↔ (look.finding id k).serves = true := by
  rw [h.address?_eq]
  split
  · simp [*]
  · simp [*]

theorem Told.exists_condition (h : Told clusterDomain look id k st) :
    ∃ c, st.condition? k.conditionType = some c ∧ c.status = (look.finding id k).value := by
  obtain ⟨c, hc, hv⟩ := Option.map_eq_some_iff.1 (h.verdict default)
  have status : c.status = ((look.finding id k).condition k (id.workload k).name default).status :=
    congrArg Verdict.value hv
  exact ⟨c, hc, status.trans (Finding.condition_status _ _ _ _)⟩

end Told

section Converged

variable {config : Config} {look : Lookup} {id : Key} {spec : Spec} {generation : Option Int64} {st : Status}

/-- What stands at a kind is what was found out about it, and nothing if it is not requested. -/
theorem Converged.get_eq (h : Converged config look id spec.requested generation st) (k : Kind) :
    st.components.get k =
      if k ∈ spec.requested then some ((look.finding id k).component (id.endpoint config.clusterDomain k))
      else none := by
  split
  · exact (h.told k ‹_›).component
  · exact h.forgotten k ‹_›

theorem Converged.mem_of_address (h : Converged config look id spec.requested generation st) {k : Kind}
    (ha : (st.address? k).isSome = true) : k ∈ spec.requested := by
  by_contra hk
  rw [Status.address?, h.forgotten k hk] at ha
  cases ha

/-- **Converged statuses are coherent**, whatever the looks were answered. -/
theorem Converged.coherent (h : Converged config look id spec.requested generation st) :
    Coherent config id spec generation st where
  components k := by
    rw [h.get_eq]
    split
    · simp [*]
    · simp [*]
  condition k hk := by
    obtain ⟨c, hc, status⟩ := (h.told k hk).exists_condition
    rw [(h.told k hk).address?_isSome_iff, hc, ← Finding.value_eq_yes_iff, ← status]
    simp
  endpoint k a ha := by
    have hk : k ∈ spec.requested := h.mem_of_address (by rw [ha]; rfl)
    rw [(h.told k hk).address?_eq] at ha
    split at ha
    · exact (Option.some.inj ha).symm
    · cases ha
  replicas k w hw ha := by
    rw [h.get_eq] at hw
    split at hw
    · obtain rfl := Option.some.inj hw
      rw [Finding.address_isSome] at ha
      exact Lookup.replicas_of_serves ha
    · cases hw
  predictor k ha := by
    have hk : k ∈ spec.requested := h.mem_of_address ha
    have hp : .predictor ∈ spec.requested := Spec.mem_requested.2 rfl
    obtain ⟨serving, -⟩ := Lookup.serves_finding_iff.1 ((h.told k hk).address?_isSome_iff.1 ha)
    exact (h.told _ hp).address?_isSome_iff.2 (Lookup.serves_finding_iff.2 ⟨serving, serving⟩)
  silent k hk := Status.verdict?_eq_none_iff.1 (h.silent k hk)
  entry := h.address
  route := by
    obtain ⟨c, hc, hv⟩ := Option.map_eq_some_iff.1 (h.route default)
    refine ⟨c, hc, ?_⟩
    have status : c.status = (Ingress.routeCondition (Ingress.entry spec.requested) st.address default).status :=
      congrArg Verdict.value hv
    rw [status, Ingress.status_routeCondition]
  url := h.url
  generation := h.generation
  ready := by
    have hp : .predictor ∈ spec.requested := Spec.mem_requested.2 rfl
    obtain ⟨c, hc, sum⟩ := h.exists_ready hp
    refine ⟨c, hc, fun yes k hk => ?_⟩
    have all : look.AllServe id spec.requested := (Lookup.sum_values_eq_yes_iff hp).1 (sum.symm.trans yes)
    have serves : (look.finding id k).serves = true := Lookup.serves_finding_iff.2 ⟨all _ hp, all k hk⟩
    refine ⟨_, (h.told k hk).component, ?_, Lookup.replicas_of_serves serves⟩
    rw [Finding.address_isSome, serves]

end Converged

/-! ### the looks of one run -/

namespace Pass

theorem exists_lookup {t : List (Answered Effect.Answer)} (once : (lookups t).Nodup) :
    ∃ look : Lookup, ∀ m ∈ t, Effect.Heeds look m := by
  induction t with
  | nil => exact ⟨fun _ => .ok none, by simp⟩
  | cons m t ih =>
    obtain ⟨e, r⟩ := m
    cases e with
    | deployment key =>
      obtain ⟨other, once'⟩ := List.nodup_cons.1 (show (key :: lookups t).Nodup from once)
      obtain ⟨look, heeds⟩ := ih once'
      refine ⟨Function.update look key r, List.forall_mem_cons.2 ⟨?_, fun m hm => ?_⟩⟩
      · exact (Function.update_self key r look).symm
      · obtain ⟨e', r'⟩ := m
        cases e' with
        | deployment key' =>
          have looked : key' ∈ lookups t := List.mem_filterMap.2 ⟨_, hm, rfl⟩
          have different : key' ≠ key := by
            rintro rfl
            exact other looked
          show r' = Function.update look key r key'
          rw [Function.update_of_ne different]
          exact heeds _ hm
        | _ => trivial
    | _ =>
      obtain ⟨look, heeds⟩ := ih once
      exact ⟨look, List.forall_mem_cons.2 ⟨trivial, heeds⟩⟩

variable {config : Config} {id key : Key} {s d : Service} {t : List (Answered Effect.Answer)}

/-- Components look at their own workloads, in order, if they look at all. -/
theorem lookups_sublist {origin : Reference} {ks : List Kind} (hid : s.key? = some id)
    (path : Path (shipped config (components origin ks s)) t (.done (.ok d))) :
    (lookups t).Sublist (ks.map id.workload) := by
  induction ks generalizing s t with
  | nil =>
    obtain ⟨-, rfl⟩ := path_components_nil_iff.1 path
    exact .slnil
  | cons k ks ih =>
    obtain ⟨l, rev, t₂, rfl, step, ⟨-, rest⟩ | ⟨e, -, h, -⟩⟩ := path_components_cons_iff.1 path
    · rw [lookups_append]
      rcases (Workload.path_reconcile_iff hid).1 step with
        ⟨-, now, rfl, rfl⟩ | ⟨-, e, rfl, rfl⟩ | ⟨-, found, now, rfl, rfl⟩
      · exact (ih (by simpa using hid) rest).cons _
      · exact (ih (by simpa using hid) rest).cons_cons _
      · exact (ih (by simpa using hid) rest).cons_cons _
    · cases h

theorem lookups_ingress {origin : Reference} (path : Path (shipped config (ingress origin s)) t (.done (.ok d))) :
    lookups t = [] := by
  obtain ⟨l, rev, t₂, rfl, step, ⟨-, -, rfl⟩ | ⟨_, -, h, -⟩⟩ := path_ingress_iff.1 path
  · cases hid : s.key? with
    | none =>
      obtain ⟨rfl, -⟩ := (Ingress.path_reconcile_unscoped_iff hid).1 step
      rfl
    | some id =>
      obtain ⟨-, rfl, -⟩ | ⟨-, now, later, rfl, -⟩ := (Ingress.path_reconcile_iff hid).1 step
      · rfl
      · rfl
  · cases h

theorem nodup_lookups (hid : s.key? = some id) (path : Path (shipped config (reconcilers s)) t (.done (.ok d))) :
    (lookups t).Nodup := by
  obtain ⟨_, h, -⟩ | ⟨t₁, s₁, t₂, rfl, h₁, h₂⟩ := path_andThen_iff.1 path
  · cases h
  · have different : (s.spec.requested.map id.workload).Nodup :=
      s.spec.nodup_requested.map fun _ _ => Key.workload_inj.1
    rw [lookups_append, lookups_ingress h₂, List.append_nil]
    exact different.sublist (lookups_sublist hid h₁)

/-- **What the reconcilers leave is converged**, for some answers to all looks that might have been. -/
theorem converged_of_path (path : Path (shipped config (reconcilers s)) t (.done (.ok d))) :
    ∃ id look st, s.key? = some id ∧ (∀ m ∈ t, Effect.Heeds look m) ∧ d = s.withStatus st ∧
      Converged config look id s.spec.requested s.metadata.generation st := by
  obtain ⟨id, hid⟩ := exists_key_of_path_reconcilers path
  obtain ⟨look, heeds⟩ := exists_lookup (nodup_lookups hid path)
  cases reconciled_of_path hid path heeds with
  | converged _ _ _ conv _ => exact ⟨id, look, _, hid, heeds, rfl, conv⟩

/-- **Every status that a pass writes is coherent**, whatever status it has read, whatever its calls are answered, and
whether or not the write succeeds. -/
theorem coherent_of_write {a : Except Failure Unit} {q : Prog Effect Effect.Answer (Except Failure Action)}
    (path : Path (shipped config (reconcileKey key)) t q) (write : ⟨.write d, a⟩ ∈ t) :
    ∃ s id st, t.head? = some ⟨.fetch key, .ok (some s)⟩ ∧ s.key? = some id ∧ d = s.withStatus st ∧
      Coherent config id s.spec s.metadata.generation st := by
  obtain ⟨s, looks, stored, later, rfl, reconciled, -⟩ := exists_of_write path write
  obtain ⟨id, look, st, hid, -, rfl, conv⟩ := converged_of_path reconciled
  exact ⟨s, id, st, rfl, hid, rfl, conv.coherent⟩

/-- The shop had a transformer, an address and two conditions of one type. -/
theorem coherent_of_write_shop :
    ∃ t, Path (shipped {} (reconcileKey Shop.key)) t (.done (.ok .awaitChange)) ∧ ⟨.write Shop.next, .ok ()⟩ ∈ t ∧
      Coherent {} Shop.key (Shop.service Shop.was).spec (some 2) (Shop.settled Shop.was) := by
  let t : List (Answered Effect.Answer) := ⟨.fetch Shop.key, .ok (some (Shop.service Shop.was))⟩ :: Shop.calls ++
    [⟨.fetch Shop.key, .ok (some (Shop.service Shop.was))⟩, ⟨.write Shop.next, .ok ()⟩, ⟨.publish Shop.notReady, ()⟩]
  have path : Path (shipped {} (reconcileKey Shop.key)) t (.done (.ok .awaitChange)) :=
    .cons (.cons (.cons (.cons (.cons (.cons (.cons (.cons (.cons (.cons (.nil _))))))))))
  have write : ⟨.write Shop.next, .ok ()⟩ ∈ t := by simp [t]
  obtain ⟨s, id, st, head, hid, hd, coherent⟩ := coherent_of_write path write
  obtain rfl : Shop.service Shop.was = s := by
    cases head
    rfl
  obtain rfl : Shop.key = id := Option.some.inj hid
  obtain rfl : Shop.settled Shop.was = st := Option.some.inj (congrArg Service.status hd)
  exact ⟨t, path, write, coherent⟩

end Pass

end ModelServing
