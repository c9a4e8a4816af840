import ModelServing.Proofs.Pass.Converged
import ModelServing.Proofs.Store

/-!
# Passes with nothing to do

* `Faithful` is a store that never fails and keeps the status that it is given, while looks at workloads are always
  answered alike;
* `Quiet` says that the stored service is converged: `Quiet.pass` says that a pass does nothing then, and
  `quiet_of_pass` that a pass that succeeds leaves the store quiet;
* `settles` says that nothing is ever written or told after a pass that succeeded, until something changes.
-/

namespace ModelServing.Pass

open Prog

/-- What a store does that never fails and keeps every status that it is given. -/
inductive Faithful (look : Lookup) : Store → Answered Effect.Answer → Store → Prop
  | fetch (w : Store) (key : Key) : Faithful look w ⟨.fetch key, .ok (w.get? key)⟩ w
  | write (w : Store) (d : Service) (key : Key) (old : Service) (v : Option String) (hd : d.key? = some key)
      (hold : w.get? key = some old) :
      Faithful look w ⟨.write d, .ok ()⟩ (w.set key ({ old with status := d.status : Service }.withVersion v))
  | deployment (w : Store) (key : Key) : Faithful look w ⟨.deployment key, look key⟩ w
  | clock (w : Store) (now : Instant) : Faithful look w ⟨.clock, now⟩ w
  | publish (w : Store) (e : Event) : Faithful look w ⟨.publish e, ()⟩ w
  | forget (w : Store) (key : Key) : Faithful look w ⟨.forget key, ()⟩ w
  | delay (w : Store) (key : Key) (d : Duration) : Faithful look w ⟨.delay key, d⟩ w

namespace Faithful

variable {look : Lookup} {w w' : Store} {t : List (Answered Effect.Answer)}

/-- The store in memory is faithful as long as it does not refuse. -/
theorem of_write {d : Service} (h : w.write d = .ok w') : Faithful look w ⟨.write d, .ok ()⟩ w' := by
  unfold Store.write at h
  split at h
  · cases h
  · split at h
    · cases h
    · split at h
      · cases h
      · cases h
        exact .write w d _ _ _ ‹_› ‹_›

theorem heeds {m : Answered Effect.Answer} (h : Faithful look w m w') : Effect.Heeds look m := by
  cases h with
  | deployment => rfl
  | _ => trivial

theorem heeds_of_course (course : Course (Faithful look) w t w') : ∀ m ∈ t, Effect.Heeds look m := by
  induction course with
  | nil => simp
  | cons h rest ih => exact List.forall_mem_cons.2 ⟨h.heeds, ih⟩

theorem fetched {key : Key} {s : Service} {a : Except Failure (Option Service)} (stored : w.get? key = some s)
    (course : Course (Faithful look) w (⟨.fetch key, a⟩ :: t) w') :
    a = .ok (some s) ∧ Course (Faithful look) w t w' := by
  obtain ⟨u, step, rest⟩ := Course.cons_iff.1 course
  cases step
  rw [stored]
  exact ⟨rfl, rest⟩

theorem eq_of_course (course : Course (Faithful look) w t w') (h : writes t = []) : w' = w := by
  induction course with
  | nil => rfl
  | @cons w u w' m t step rest ih =>
    cases step with
    | write => simp [writes] at h
    | _ => exact ih h

theorem written {key : Key} {s : Service} {st : Status} {a : Except Failure Unit} (stored : w.get? key = some s)
    (hid : s.key? = some key) (step : Faithful look w ⟨.write (s.withStatus st), a⟩ w') :
    ∃ v, a = .ok () ∧ w'.get? key = some ((s.withStatus st).withVersion v) := by
  cases step with
  | write _ k old v hd hold =>
    obtain rfl : key = k := Option.some.inj (hid.symm.trans hd)
    obtain rfl : s = old := Option.some.inj (stored.symm.trans hold)
    refine ⟨v, rfl, ?_⟩
    rw [Store.get?_set, if_pos rfl]
    rfl

end Faithful

variable {config : Config} {look : Lookup} {key : Key} {s : Service} {w w' : Store} {t : List (Answered Effect.Answer)}
  {r : Except Failure Action}

/-! ### a pass over a faithful store -/

/-- **A pass over a faithful store** ends with the failure of its reconcilers, or reads the same service twice and
commits what the reconcilers left of it. -/
theorem cases_of_pass (stored : w.get? key = some s) (path : Path (shipped config (reconcileKey key)) t (.done r))
    (course : Course (Faithful look) w t w') :
    (∃ t₁ e, Path (shipped config (reconcilers s)) t₁ (.done (.error e)) ∧ (∀ m ∈ t₁, Effect.Heeds look m) ∧
      r = .error e) ∨
    ∃ t₁ d t₂ c, Path (shipped config (reconcilers s)) t₁ (.done (.ok d)) ∧ (∀ m ∈ t₁, Effect.Heeds look m) ∧
      t = ⟨.fetch key, .ok (some s)⟩ :: (t₁ ++ ⟨.fetch key, .ok (some s)⟩ :: t₂) ∧
      Path (shipped config (overwrite d s)) t₂ (.done c) ∧ r = c.map (fun _ => .awaitChange) ∧
      Course (Faithful look) w t₂ w' := by
  rcases path_reconcileKey_iff.1 path with ⟨e, -, rfl⟩ | ⟨-, rfl⟩ | ⟨s', t', rfl, worked⟩
  · cases (Faithful.fetched stored course).1
  · cases (Faithful.fetched stored course).1
  obtain ⟨h, onwards⟩ := Faithful.fetched stored course
  cases h
  rw [work_eq] at worked
  obtain ⟨e, rfl, failed⟩ | ⟨t₁, d, t₂, rfl, reconciled, rest⟩ := path_andThen_iff.1 worked
  · exact .inl ⟨t', e, failed, Faithful.heeds_of_course onwards, rfl⟩
  obtain ⟨v, course₁, course₂⟩ := Course.append_iff.1 onwards
  have heeds := Faithful.heeds_of_course course₁
  obtain ⟨l, st, rfl, rfl, -⟩ := exists_of_path_reconcilers reconciled
  obtain rfl := Faithful.eq_of_course course₁ (writes_map_asked l)
  -- the commit is the rest of the pass, but for its result
  obtain ⟨c, committed, rfl⟩ : ∃ c, Path (shipped config (commit key (s.withStatus st))) t₂ (.done c) ∧
      r = c.map (fun _ => Action.awaitChange) := by
    obtain ⟨e, rfl, h⟩ | ⟨t₃, c, t₄, rfl, h, hend⟩ := path_andThen_iff.1 rest
    · exact ⟨_, h, rfl⟩
    · obtain ⟨rfl, rfl⟩ := path_end_iff.1 hend
      exact ⟨_, by rwa [List.append_nil], rfl⟩
  rcases path_commit_iff.1 committed with ⟨e, -, rfl⟩ | ⟨-, rfl⟩ | ⟨s', t₃, rfl, written⟩
  · cases (Faithful.fetched stored course₂).1
  · cases (Faithful.fetched stored course₂).1
  · obtain ⟨h, course₃⟩ := Faithful.fetched stored course₂
    cases h
    exact .inr ⟨_, _, t₃, c, reconciled, heeds, rfl, written, rfl, course₃⟩

/-! ### quiet stores -/

/-- The stored service is converged, and nothing keeps its reconcilers from finding that out. -/
structure Quiet (config : Config) (look : Lookup) (key : Key) (w : Store) : Prop where
  domain : Text.isBlank config.ingress.domain = false
  converged : ∃ s st, w.get? key = some s ∧ s.key? = some key ∧ s.status = some st ∧
    look.Answers key s.spec.requested ∧ Converged config look key s.spec.requested s.metadata.generation st

/-- **A pass over a quiet store** succeeds, writes nothing, tells nothing, and leaves the store as it is. -/
theorem Quiet.pass (quiet : Quiet config look key w) (path : Path (shipped config (reconcileKey key)) t (.done r))
    (course : Course (Faithful look) w t w') :
    r = .ok .awaitChange ∧ writes t = [] ∧ published t = [] ∧ w' = w := by
  obtain ⟨s, st, stored, hid, hst, answers, conv⟩ := quiet.converged
  have empty : s.statusOrEmpty = st := by
    unfold Service.statusOrEmpty
    rw [hst]
    rfl
  rcases cases_of_pass stored path course with
    ⟨t₁, e, failed, heeds, -⟩ | ⟨t₁, d, t₂, c, reconciled, heeds, rfl, written, rfl, rest⟩
  · obtain ⟨_, h, -⟩ := (reconciled_of_path hid failed heeds).converges quiet.domain answers
    cases h
  · obtain ⟨st', hd, -, -, same⟩ := (reconciled_of_path hid reconciled heeds).converges quiet.domain answers
    cases hd
    rw [empty] at same
    obtain rfl := same conv
    -- the status is the stored one, so that the commit stops at its read
    obtain ⟨l, _, rfl, -, -⟩ := exists_of_path_reconcilers reconciled
    rcases path_overwrite_iff.1 written with ⟨-, rfl, rfl⟩ | ⟨hne, -⟩
    · refine ⟨rfl, ?_, ?_, Course.nil_iff.1 rest⟩
      · rw [writes_fetch, writes_append, writes_map_asked, writes_fetch]
        rfl
      · rw [published_fetch, published_append, published_map_asked, published_fetch]
        rfl
    · exact absurd hst hne

/-- **A pass that succeeds leaves the store quiet**, whatever the status was. -/
theorem quiet_of_pass {a : Action} (stored : w.get? key = some s) (hid : s.key? = some key)
    (path : Path (shipped config (reconcileKey key)) t (.done (.ok a))) (course : Course (Faithful look) w t w') :
    Quiet config look key w' := by
  rcases cases_of_pass stored path course with
    ⟨t₁, e, -, -, h⟩ | ⟨t₁, d, t₂, c, reconciled, heeds, rfl, written, hc, rest⟩
  · cases h
  cases reconciled_of_path hid reconciled heeds with
  | @converged st domain answers _ conv _ =>
    rcases path_overwrite_iff.1 written with ⟨hst, -, rfl⟩ | ⟨-, x, t₃, rfl, told⟩
    · obtain rfl := Course.nil_iff.1 rest
      exact ⟨domain, s, st, stored, hid, hst, answers, conv⟩
    · obtain ⟨u, step, after⟩ := Course.cons_iff.1 rest
      obtain ⟨v, rfl, hu⟩ := step.written stored hid
      obtain ⟨-, rfl⟩ := path_tell_iff.1 told
      obtain rfl := Faithful.eq_of_course after (writes_map_publish _)
      exact ⟨domain, _, st, hu, hid, rfl, answers, conv⟩

/-! ### every further pass -/

/-- Something that happens to a service after a pass. -/
inductive Round where
  | pass (t : List (Answered Effect.Answer)) (r : Except Failure Action)
  /-- Anything but a pass. -/
  | touch

/-- What happens in a round: a pass over a faithful store, or anything that leaves spec, generation and status alone. -/
inductive Takes (config : Config) (look : Lookup) (key : Key) : Store → Round → Store → Prop
  | pass {w w' : Store} {t : List (Answered Effect.Answer)} {r : Except Failure Action}
      (path : Path (shipped config (reconcileKey key)) t (.done r)) (course : Course (Faithful look) w t w') :
      Takes config look key w (.pass t r) w'
  | touch {w w' : Store} {s s' : Service} (before : w.get? key = some s) (after : w'.get? key = some s')
      (hid : s'.key? = s.key?) (spec : s'.spec = s.spec)
      (generation : s'.metadata.generation = s.metadata.generation) (status : s'.status = s.status) :
      Takes config look key w .touch w'

theorem Quiet.round {e : Round} (quiet : Quiet config look key w) (takes : Takes config look key w e w') :
    Quiet config look key w' := by
  cases takes with
  | pass path course =>
    obtain ⟨-, -, -, rfl⟩ := quiet.pass path course
    exact quiet
  | touch before after hid spec generation status =>
    obtain ⟨x, st, stored, hx, hst, answers, conv⟩ := quiet.converged
    obtain rfl := Option.some.inj (stored.symm.trans before)
    refine ⟨quiet.domain, _, st, after, hid.trans hx, status.trans hst, ?_, ?_⟩
    · rwa [spec]
    · rwa [spec, generation]

/-- **Success leaves nothing to do.** After a pass that succeeds, whatever the status was before, every further pass
succeeds, writes nothing, tells nothing and leaves the store as it is, as long as spec, generation and workloads stay
the same. Each reconciler alone leaves what it has left before, too, whenever it is run again. -/
theorem settles (config : Config) (look : Lookup) :
    (∀ key s w w' t a, w.get? key = some s → s.key? = some key →
      Path (shipped config (reconcileKey key)) t (.done (.ok a)) → Course (Faithful look) w t w' →
      ∀ rounds v v' t' r, Course (Takes config look key) w' rounds v →
        Path (shipped config (reconcileKey key)) t' (.done r) → Course (Faithful look) v t' v' →
        r = .ok .awaitChange ∧ writes t' = [] ∧ published t' = [] ∧ v' = v) ∧
    (∀ k s s' t t' r, Path (Workload.reconcile config.clusterDomain k s) t (.done ⟨s', none⟩) →
      (∀ m ∈ t, Probe.Heeds look m) → Path (Workload.reconcile config.clusterDomain k s') t' (.done r) →
      (∀ m ∈ t', Probe.Heeds look m) → r = ⟨s', none⟩) ∧
    ∀ s s' t t' r, Path (Ingress.reconcile config.ingress s) t (.done ⟨s', none⟩) →
      Path (Ingress.reconcile config.ingress s') t' (.done r) → r = ⟨s', none⟩ := by
  refine ⟨?_, ?_, ?_⟩
  · intro key s w w' t a stored hid path course rounds v v' t' r further path' course'
    have quiet : Quiet config look key w' := quiet_of_pass stored hid path course
    have still : Quiet config look key v := further.keeps quiet fun _ _ _ _ takes h => h.round takes
    exact still.pass path' course'
  · intro k s s' t t' r path heeds path' heeds'
    exact Workload.reconcile_again path heeds path' heeds'
  · intro s s' t t' r path path'
    exact Ingress.reconcile_again path path'

namespace Shop

def store (s : Service) : Store := ({} : Store).set Shop.key s

def after : Service := next.withVersion (some "8")

/-- A pass over the shop that reads `s`. -/
def readings (s : Service) : List (Answered Effect.Answer) :=
  ⟨.fetch Shop.key, .ok (some s)⟩ :: calls ++ [⟨.fetch Shop.key, .ok (some s)⟩]

end Shop

/-- After a pass over the shop and another one, a third one has nothing to do. -/
theorem settles_shop :
    Course (Faithful Shop.look) (Shop.store (Shop.service Shop.was))
        (Shop.readings (Shop.service Shop.was) ++ [⟨.write Shop.next, .ok ()⟩, ⟨.publish Shop.notReady, ()⟩])
        (Shop.store Shop.after) ∧
      Takes {} Shop.look Shop.key (Shop.store Shop.after) (.pass (Shop.readings Shop.after) (.ok .awaitChange))
        (Shop.store Shop.after) ∧
      writes (Shop.readings Shop.after) = [] ∧ published (Shop.readings Shop.after) = [] := by
  have path : Path (shipped {} (reconcileKey Shop.key))
      (Shop.readings (Shop.service Shop.was) ++ [⟨.write Shop.next, .ok ()⟩, ⟨.publish Shop.notReady, ()⟩])
      (.done (.ok .awaitChange)) :=
    .cons (.cons (.cons (.cons (.cons (.cons (.cons (.cons (.cons (.cons (.nil _))))))))))
  have course : Course (Faithful Shop.look) (Shop.store (Shop.service Shop.was))
      (Shop.readings (Shop.service Shop.was) ++ [⟨.write Shop.next, .ok ()⟩, ⟨.publish Shop.notReady, ()⟩])
      (Shop.store Shop.after) :=
    .cons (.fetch _ _) (.cons (.deployment _ _) (.cons (.clock _ _) (.cons (.deployment _ _) (.cons (.clock _ _)
      (.cons (.clock _ _) (.cons (.clock _ _) (.cons (.fetch _ _) (.cons (.of_write rfl)
        (.cons (.publish _ _) (.nil _))))))))))
  have path' : Path (shipped {} (reconcileKey Shop.key)) (Shop.readings Shop.after) (.done (.ok .awaitChange)) :=
    .cons (.cons (.cons (.cons (.cons (.cons (.cons (.cons (.nil _))))))))
  have course' : Course (Faithful Shop.look) (Shop.store Shop.after) (Shop.readings Shop.after)
      (Shop.store Shop.after) :=
    .cons (.fetch _ _) (.cons (.deployment _ _) (.cons (.clock _ _) (.cons (.deployment _ _) (.cons (.clock _ _)
      (.cons (.clock _ _) (.cons (.clock _ _) (.cons (.fetch _ _) (.nil _))))))))
  obtain ⟨-, nothing, silence, -⟩ := (settles {} Shop.look).1 Shop.key (Shop.service Shop.was) _ _ _ _ rfl rfl path
    course [.pass _ _] _ _ _ _ (.cons (.pass path' course') (.nil _)) path' course'
  exact ⟨course, .pass path' course', nothing, silence⟩

end ModelServing.Pass
