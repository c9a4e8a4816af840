import ModelServing.Proofs.Pass.Contention

/-!
# What reconcilers leave alone

The reconcilers of a pass edit one status, and other controllers have conditions of their own in it.

* `Condition.Replaced` says that a list of conditions changed at the first one of a type and nowhere else;
* `Service.SameBut` says that a service changed in the component of one kind and in its condition, `Service.Narrowed`
  that it still has all that belongs to the requested components;
* `filter_settled` and `filter_components` say which conditions the ingress and the components pass on as they are, in
  the same order and as often;
* `reconcilers_frame` says it of each reconciler and of a whole pass.
-/

namespace ModelServing

open Prog

/-! ### lists of conditions -/

namespace Condition

/-- `l'` is `l` with another condition of the type for the first one, or with one more at the end if there was none. -/
inductive Replaced (type : String) : List Condition → List Condition → Prop
  | first (before : List Condition) {after : List Condition} {old new : Condition} (other : ∀ c ∈ before, c.type ≠ type)
      (was : old.type = type) (is : new.type = type) : Replaced type (before ++ old :: after) (before ++ new :: after)
  | last {l : List Condition} {new : Condition} (other : ∀ c ∈ l, c.type ≠ type) (is : new.type = type) :
      Replaced type l (l ++ [new])

theorem Replaced.cons {type : String} {l l' : List Condition} {c : Condition} (h : Replaced type l l')
    (hc : c.type ≠ type) : Replaced type (c :: l) (c :: l') := by
  cases h with
  | first before other was is => exact .first (c :: before) (List.forall_mem_cons.2 ⟨hc, other⟩) was is
  | last other is => exact .last (List.forall_mem_cons.2 ⟨hc, other⟩) is

theorem replaced_place (c : Condition) (l : List Condition) : Replaced c.type l (place c l) := by
  induction l with
  | nil => exact .last (by simp) rfl
  | cons old r ih =>
    unfold place
    split
    · exact .first [] (by simp) ‹_› (follow_type c old)
    · exact ih.cons ‹_›

theorem Replaced.filter_eq {type : String} {l l' : List Condition} {p : Condition → Bool} (h : Replaced type l l')
    (hp : ∀ c, c.type = type → p c = false) : l'.filter p = l.filter p := by
  cases h with
  | first before _ was is => simp [List.filter_append, hp _ was, hp _ is]
  | last _ is => simp [List.filter_append, hp _ is]

end Condition

/-- The conditions of some types, in order. -/
def Status.ofTypes (st : Status) (types : List String) : List Condition :=
  st.conditions.filter fun c => decide (c.type ∈ types)

/-- The conditions that are none of this library's, in order. -/
def Status.foreign (st : Status) : List Condition :=
  st.conditions.filter fun c => decide (c.type ∉ Condition.wellKnown)

/-- `s'` is `s` but for the component of one kind and the first condition of its type. -/
structure Service.SameBut (k : Kind) (s s' : Service) : Prop where
  metadata : s'.metadata = s.metadata
  spec : s'.spec = s.spec
  components : ∀ x, x ≠ k → s'.statusOrEmpty.components.get x = s.statusOrEmpty.components.get x
  conditions : Condition.Replaced k.conditionType s.statusOrEmpty.conditions s'.statusOrEmpty.conditions
  url : s'.statusOrEmpty.url = s.statusOrEmpty.url
  address : s'.statusOrEmpty.address = s.statusOrEmpty.address
  generation : s'.statusOrEmpty.observedGeneration = s.statusOrEmpty.observedGeneration

/-- `s'` has the metadata and the spec of `s`, and the components and conditions of the requested kinds. -/
structure Service.Narrowed (s s' : Service) : Prop where
  metadata : s'.metadata = s.metadata
  spec : s'.spec = s.spec
  components : ∀ k ∈ s.spec.requested, s'.statusOrEmpty.components.get k = s.statusOrEmpty.components.get k
  conditions : s'.statusOrEmpty.ofTypes (s.spec.requested.map Kind.conditionType) =
    s.statusOrEmpty.ofTypes (s.spec.requested.map Kind.conditionType)

/-! ### one reconciler -/

namespace Workload

variable {clusterDomain : String} {k : Kind} {s : Service} {t : List (Answered Probe.Answer)} {r : Revision}

theorem sameBut_note (id : Key) (f : Finding) (now : Instant) :
    s.SameBut k (s.withStatus (note clusterDomain id k f now s.statusOrEmpty)) where
  metadata := rfl
  spec := rfl
  components x hx := by rw [Service.statusOrEmpty_withStatus, get_note, if_neg hx]
  conditions := by
    have replaced := Condition.replaced_place (f.condition k (id.workload k).name now) s.statusOrEmpty.conditions
    rwa [Finding.condition_type] at replaced
  url := rfl
  address := rfl
  generation := rfl

theorem withStatus_statusOrEmpty (s : Service) :
    s.withStatus s.statusOrEmpty = s ∨ s.status = none ∧ s.withStatus s.statusOrEmpty = s.withStatus {} := by
  obtain ⟨metadata, spec, status⟩ := s
  cases status with
  | none => exact .inr ⟨rfl, rfl⟩
  | some st => exact .inl rfl

/-- The reconciler of a component changes what belongs to its component, and nothing at all if it fails, except that
there may be an empty status where there was none. -/
theorem sameBut_of_path (path : Path (reconcile clusterDomain k s) t (.done r)) :
    (r.failure = none → s.SameBut k r.service) ∧
      (r.failure ≠ none → r.service = s ∨ s.status = none ∧ r.service = s.withStatus {}) := by
  cases hid : s.key? with
  | none =>
    obtain ⟨-, rfl⟩ := (path_reconcile_unscoped_iff hid).1 path
    exact ⟨by simp, fun _ => .inl rfl⟩
  | some id =>
    rcases (path_reconcile_iff hid).1 path with ⟨-, now, -, rfl⟩ | ⟨-, e, -, rfl⟩ | ⟨-, found, now, -, rfl⟩
    · exact ⟨fun _ => sameBut_note id _ now, fun failed => absurd rfl failed⟩
    · exact ⟨by simp, fun _ => withStatus_statusOrEmpty s⟩
    · exact ⟨fun _ => sameBut_note id _ now, fun failed => absurd rfl failed⟩

end Workload

namespace Ingress

variable {url : String} {requested : List Kind} {generation : Option Int64} {now later : Instant} {st : Status}

/-- **The ingress passes on** the conditions of all types that are neither its own nor those of components that are not
requested. -/
theorem filter_settled {p : String → Bool} (ready : p Condition.ready = false)
    (ingressReady : p Condition.ingressReady = false) (others : ∀ k, k ∉ requested → p k.conditionType = false) :
    (settled url requested generation now later st).conditions.filter (fun c => p c.type) =
      st.conditions.filter fun c => p c.type := by
  let routed := route url requested now (prune requested st)
  have summed : (settled url requested generation now later st).conditions.filter (fun c => p c.type) =
      routed.conditions.filter fun c => p c.type := by
    refine (Condition.replaced_place _ _).filter_eq fun c hc => ?_
    rw [hc, summary_type, ready]
  have published : routed.conditions.filter (fun c => p c.type) =
      (prune requested st).conditions.filter fun c => p c.type := by
    refine (Condition.replaced_place _ _).filter_eq fun c hc => ?_
    rw [hc, routeCondition_type, ingressReady]
  have pruned : (prune requested st).conditions.filter (fun c => p c.type) =
      st.conditions.filter fun c => p c.type := by
    unfold prune
    rw [List.filter_filter]
    apply List.filter_congr
    intro c _
    -- what is pruned is not among the conditions that are looked at
    cases hp : p c.type with
    | false => rfl
    | true =>
      simp only [Bool.true_and, List.all_eq_true, decide_eq_true_eq]
      intro k _
      by_cases hk : k ∈ requested
      · exact .inl hk
      · refine .inr fun hc => ?_
        rw [hc, others k hk] at hp
        cases hp
  exact summed.trans (published.trans pruned)

/-- The ingress changes nothing if it fails, and nothing of the requested components if it succeeds. -/
theorem narrowed_of_path {config : IngressConfig} {s : Service} {t : List (Answered Probe.Answer)} {r : Revision}
    (path : Path (reconcile config s) t (.done r)) :
    (r.failure = none → s.Narrowed r.service) ∧ (r.failure ≠ none → r.service = s) := by
  obtain ⟨failed, same⟩ | ⟨id, now, later, -, rfl⟩ := cases_of_path path
  · exact ⟨fun h => absurd h failed, fun _ => same⟩
  refine ⟨fun _ => ⟨rfl, rfl, fun k hk => ?_, ?_⟩, fun failed => absurd rfl failed⟩
  · rw [Service.statusOrEmpty_withStatus, get_settled, if_pos hk]
  · refine filter_settled (p := fun type => decide (type ∈ s.spec.requested.map Kind.conditionType)) ?_ ?_ ?_
    · simpa using fun k _ => k.conditionType_ne_ready
    · simpa using fun k _ => k.conditionType_ne_ingressReady
    · simp [Kind.conditionType_inj]

end Ingress

/-! ### a whole pass -/

namespace Pass

variable {config : Config} {origin : Reference} {ks : List Kind} {s d : Service} {t : List (Answered Effect.Answer)}

/-- **Components pass on** the conditions of all types that are not their own. -/
theorem filter_components {p : String → Bool} (others : ∀ k ∈ ks, p k.conditionType = false)
    (path : Path (shipped config (components origin ks s)) t (.done (.ok d))) :
    d.statusOrEmpty.conditions.filter (fun c => p c.type) =
      s.statusOrEmpty.conditions.filter fun c => p c.type := by
  induction ks generalizing s t with
  | nil =>
    obtain ⟨h, -⟩ := path_components_nil_iff.1 path
    cases h
    rfl
  | cons k ks ih =>
    obtain ⟨own, others⟩ := List.forall_mem_cons.1 others
    obtain ⟨l, rev, t₂, rfl, step, ⟨succeeded, rest⟩ | ⟨e, -, h, -⟩⟩ := path_components_cons_iff.1 path
    · have changed := (Workload.sameBut_of_path step).1 succeeded
      refine (ih others rest).trans (changed.conditions.filter_eq fun c hc => ?_)
      rw [hc, own]
    · cases h

theorem foreign_of_path (path : Path (shipped config (reconcilers s)) t (.done (.ok d))) :
    d.metadata = s.metadata ∧ d.spec = s.spec ∧ d.statusOrEmpty.foreign = s.statusOrEmpty.foreign := by
  obtain ⟨_, st, -, hd, -⟩ := exists_of_path_reconcilers path
  refine ⟨by rw [hd]; rfl, by rw [hd]; rfl, ?_⟩
  let p : String → Bool := fun type => decide (type ∉ Condition.wellKnown)
  have ofKind : ∀ k : Kind, p k.conditionType = false := by
    intro k
    cases k <;> decide
  obtain ⟨_, h, -⟩ | ⟨t₁, s₁, t₂, rfl, h₁, h₂⟩ := path_andThen_iff.1 path
  · cases h
  have components : s₁.statusOrEmpty.foreign = s.statusOrEmpty.foreign := filter_components (fun k _ => ofKind k) h₁
  obtain ⟨l, rev, _, rfl, step, ⟨succeeded, hr, -⟩ | ⟨e, -, h, -⟩⟩ := path_ingress_iff.1 h₂
  · cases hr
    obtain ⟨failed, -⟩ | ⟨id, now, later, -, hrev⟩ := Ingress.cases_of_path step
    · exact absurd succeeded failed
    · rw [hrev]
      exact (Ingress.filter_settled (p := p) (by decide) (by decide) fun k _ => ofKind k).trans components
  · cases h

/-- **What reconcilers leave alone**, whatever service they are given and whatever their calls are answered. That of a
component changes its entry and the first condition of its type, and if it fails nothing at all, except that there may be
an empty status where there was none. The ingress keeps the entries and the conditions of the requested components, and
everything if it fails. So where all of them succeed, and in every write of a pass, metadata and spec are those of the
service that was read, and the conditions of others stand as they did, in their order and as often. -/
theorem reconcilers_frame (config : Config) (s : Service) :
    (∀ k t r, Path (Workload.reconcile config.clusterDomain k s) t (.done r) →
      (r.failure = none → s.SameBut k r.service) ∧
      (r.failure ≠ none → r.service = s ∨ s.status = none ∧ r.service = s.withStatus {})) ∧
    (∀ t r, Path (Ingress.reconcile config.ingress s) t (.done r) →
      (r.failure = none → s.Narrowed r.service) ∧ (r.failure ≠ none → r.service = s)) ∧
    (∀ t d, Path (shipped config (reconcilers s)) t (.done (.ok d)) →
      d.metadata = s.metadata ∧ d.spec = s.spec ∧ d.statusOrEmpty.foreign = s.statusOrEmpty.foreign) ∧
    ∀ key t q d a, Path (shipped config (reconcileKey key)) (⟨.fetch key, .ok (some s)⟩ :: t) q → ⟨.write d, a⟩ ∈ t →
      d.metadata = s.metadata ∧ d.spec = s.spec ∧ d.statusOrEmpty.foreign = s.statusOrEmpty.foreign := by
  refine ⟨fun k t r => Workload.sameBut_of_path, fun t r => Ingress.narrowed_of_path, fun t d => foreign_of_path, ?_⟩
  intro key t q d a path write
  obtain ⟨s', looks, stored, later, ht, reconciled, -⟩ := exists_of_write path (List.mem_cons_of_mem _ write)
  cases (List.cons.inj ht).1
  exact foreign_of_path reconciled

/-- The shop keeps the condition of its owner, and its explainer touches nothing of its predictor. -/
theorem reconcilers_frame_shop :
    (Shop.settled Shop.was).foreign = [⟨"Owner", .no, "", "", Shop.noon⟩] ∧
    (Shop.service Shop.was).SameBut .explainer ((Shop.service Shop.was).withStatus
      (Workload.note "cluster.local" Shop.key .explainer .waiting Shop.noon Shop.was)) := by
  obtain ⟨component, -, whole, -⟩ := reconcilers_frame {} (Shop.service Shop.was)
  obtain ⟨-, -, foreign⟩ := whole _ _ (Shop.path_reconcilers Shop.was)
  exact ⟨foreign, (component .explainer [⟨.clock, Shop.noon⟩] ⟨_, none⟩ (.cons (.nil _))).1 rfl⟩

end Pass

end ModelServing
