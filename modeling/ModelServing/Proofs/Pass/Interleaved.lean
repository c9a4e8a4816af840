import ModelServing.Proofs.Pass.Sharing

/-!
# Passes side by side

Passes for different keys do not get in each other's way.

* `Careful key p` says that `p` calls for nothing but what belongs to `key`, and that it is done with the store once it
  has written; `careful_reconcile` says that passes are so, and `careful_dispatch` that they still are with the decision
  after them;
* `Site.view` is what a site shows of one key: `view_of_other` says that calls for other keys do not change it, so that
  `course_alone` gives a run of the calls for that key alone;
* `eq_of_careful` says that the view decides how a careful program runs;
* `Together.agrees` says that careful programs for different keys do one by one what they do side by side, and
  `interleaved_agrees` that passes do, whether or not the decision on what comes next is a part of them.
-/

namespace ModelServing

open Prog

namespace Pass

/-! ### careful programs -/

/-- The call is about the service with that key, or about no service at all. -/
def Effect.About (key : Key) : Effect → Prop
  | .fetch k => k = key
  | .write d => d.key? = some key
  | .forget k => k = key
  | .delay k => k = key
  | .deployment _ | .clock | .publish _ => True

/-- The call does not reach the store. -/
def Effect.Offstage : Effect → Prop
  | .fetch _ | .write _ => False
  | _ => True

/-- What is read stands under its own key. -/
def Effect.Finds : Answered Effect.Answer → Prop
  | ⟨.fetch key, r⟩ => ∀ s, r = .ok (some s) → s.key? = some key
  | _ => True

/-- What may come after a write. -/
def Effect.Late (key : Key) (e : Effect) : Prop := e.About key ∧ e.Offstage

/-- `p` calls for nothing but what belongs to `key`, as long as that is what it reads, and neither reads nor writes
after it has written. -/
def Careful {α : Type} (key : Key) : Prog Effect Effect.Answer α → Prop
  | .done _ => True
  | .ask e next =>
    e.About key ∧ ∀ r, Effect.Finds ⟨e, r⟩ →
      Careful key (next r) ∧ ((∃ d, e = .write d) → Only (Effect.Late key) (next r))

namespace Careful

variable {α β : Type} {key : Key} {p : Prog Effect Effect.Answer α} {f : α → Prog Effect Effect.Answer β}

theorem of_only (h : Only (Effect.Late key) p) : Careful key p := by
  induction p with
  | done a => exact trivial
  | ask e next ih => exact ⟨h.1.1, fun r _ => ⟨ih r (h.2 r), fun _ => h.2 r⟩⟩

/-- A careful program may go on with anything that leaves the store alone. -/
theorem bind (h : Careful key p) (hf : ∀ a, Only (Effect.Late key) (f a)) : Careful key (p.bind f) := by
  induction p with
  | done a => exact of_only (hf a)
  | ask e next ih =>
    refine ⟨h.1, fun r found => ?_⟩
    obtain ⟨rest, late⟩ := h.2 r found
    exact ⟨ih r rest, fun write => (late write).bind hf⟩

theorem late_of_inner {e : Effect} (h : e.Inner) : e.Late key := by
  cases e with
  | deployment | clock | publish => exact ⟨trivial, trivial⟩
  | _ => exact h.elim

/-- A program that has not reached the store yet may go on with anything careful. -/
theorem bind_inner (h : Only Effect.Inner p) (hf : ∀ t a, Path p t (.done a) → Careful key (f a)) :
    Careful key (p.bind f) := by
  induction p with
  | done a => exact hf [] a (.nil _)
  | ask e next ih =>
    have late : e.Late key := late_of_inner h.1
    refine ⟨late.1, fun r _ => ⟨ih r (h.2 r) fun t a path => hf _ a (.cons path), ?_⟩⟩
    rintro ⟨d, rfl⟩
    exact late.2.elim

theorem about_of_path {t : List (Answered Effect.Answer)} {q : Prog Effect Effect.Answer α} (h : Careful key p)
    (path : Path p t q) (finds : ∀ m ∈ t, Effect.Finds m) : ∀ m ∈ t, m.1.About key := by
  induction path with
  | nil => simp
  | cons path ih =>
    obtain ⟨first, others⟩ := List.forall_mem_cons.1 finds
    exact List.forall_mem_cons.2 ⟨h.1, ih (h.2 _ first).1 others⟩

end Careful

/-! ### passes are careful -/

section Passes

variable {key : Key} {config : Config}

theorem careful_commit {d : Service} (hd : d.key? = some key) :
    Careful key (shipped config (andThen (commit key d) fun _ => .done (.ok Action.awaitChange))) := by
  rw [commit_eq]
  refine ⟨rfl, fun r _ => ⟨?_, fun ⟨_, h⟩ => by cases h⟩⟩
  rcases r with e | _ | stored
  · exact trivial
  · exact trivial
  · show Careful key (shipped config (andThen (overwrite d stored) fun _ => .done (.ok Action.awaitChange)))
    unfold overwrite
    split
    · exact trivial
    · have late (a : Except Failure Unit) : Only (Effect.Late key)
          (shipped config (andThen (recorded d stored.status a) fun _ => .done (.ok Action.awaitChange))) :=
        (only_recorded config d stored.status a).mono fun _ => Careful.late_of_inner
      exact ⟨hd, fun a _ => ⟨.of_only (late a), fun _ => late a⟩⟩

theorem careful_reconcileKey : Careful key (shipped config (reconcileKey key)) := by
  refine ⟨rfl, fun r found => ⟨?_, fun ⟨_, h⟩ => by cases h⟩⟩
  rcases r with e | _ | s
  · exact trivial
  · exact ⟨rfl, fun _ _ => ⟨trivial, fun _ => trivial⟩⟩
  · have hid : s.key? = some key := found s rfl
    show Careful key (shipped config (work key s))
    rw [work_eq, andThen, shipped_bind]
    refine .bind_inner (only_reconcilers config s) fun t a path => ?_
    rcases a with e | d
    · exact trivial
    · -- the reconcilers leave the key of the service alone
      obtain ⟨-, st, -, rfl, -⟩ := exists_of_path_reconcilers path
      exact careful_commit hid

/-- **A pass is careful.** -/
theorem careful_reconcile {seen : Service} (hid : seen.key? = some key) :
    Careful key (shipped config (reconcile seen)) := by
  unfold reconcile
  rw [hid]
  show Careful key (shipped config (andThen (reconcileKey key) _))
  rw [andThen, shipped_bind]
  refine .bind careful_reconcileKey fun a => ?_
  rcases a with e | action
  · exact trivial
  · exact ⟨⟨rfl, trivial⟩, fun _ => trivial⟩

/-- What is decided after a failure is about the key that was seen, and leaves the store alone. -/
theorem only_errorPolicy {seen : Service} (hid : seen.key? = some key) (e : Failure) :
    Only (Effect.Late key) (shipped config (errorPolicy seen e)) := by
  unfold errorPolicy
  rw [hid]
  dsimp only
  split
  · exact ⟨⟨rfl, trivial⟩, fun _ => trivial⟩
  · split
    · exact ⟨⟨rfl, trivial⟩, fun _ => trivial⟩
    · exact trivial

/-- **A dispatch is careful.** -/
theorem careful_dispatch {seen : Service} (hid : seen.key? = some key) :
    Careful key (shipped config (dispatch seen)) := by
  unfold dispatch
  rw [shipped_bind]
  refine .bind (careful_reconcile hid) fun a => ?_
  rcases a with e | action
  · show Only (Effect.Late key) (shipped config ((errorPolicy seen e).bind _))
    rw [shipped_bind]
    exact (only_errorPolicy hid e).bind fun _ => trivial
  · exact trivial

end Passes

/-! ### one key at a time -/

/-- What a site shows of one key. -/
structure View where
  stored : Option Service
  base : Duration
  max : Duration
  failures : Option UInt32
  readings : Nat

def Site.view (key : Key) (w : Site) : View where
  stored := w.store.get? key
  base := w.backoff.base
  max := w.backoff.max
  failures := w.backoff.counts.get? key
  readings := w.readings key

/-- The view, with the service as `f` shows it. -/
def View.through (f : Service → Service) (x : View) : View := { x with stored := x.stored.map f }

@[simp] theorem View.through_id (x : View) : x.through id = x := by
  unfold through
  rw [Option.map_id_apply]

section OneKey

variable {c : Setting} {key : Key} {w w' : Site}

theorem view_put {k : Key} {s : Service} {hs : s.key? = some k} :
    (w.put k s hs).view key = { w.view key with stored := if key = k then some s else w.store.get? key } := by
  unfold Site.view Site.put
  simp only [Store.get?_set]

/-- **A call for another key** does not change the view. -/
theorem Step.view_of_other {who : Key} {m : Answered Effect.Answer} (step : Step c w (who, m) w')
    (about : m.1.About who) (other : who ≠ key) : w'.view key = w.view key := by
  cases step with
  | write _ d k old v hr hd hold =>
    obtain rfl : k = who := Option.some.inj (hd.symm.trans about)
    rw [view_put, if_neg other.symm]
    rfl
  | clock =>
    unfold Site.view Site.tick
    simp only [Function.update_of_ne other.symm]
  | forget _ k =>
    obtain rfl : k = who := about
    unfold Site.view Site.forget Backoff.forget
    simp only [Table.get?_erase, if_neg other.symm]
  | delay _ k =>
    obtain rfl : k = who := about
    unfold Site.view Site.record Backoff.record
    simp only [Table.get?_insert, if_neg other.symm]
  | _ => rfl

theorem Step.finds {x : Turn} (step : Step c w x w') : Effect.Finds x.2 := by
  cases step with
  | fetch who k h =>
    intro s hs
    exact w.keyed k s (Except.ok.inj hs)
  | fetchFails who k e h =>
    intro s hs
    cases hs
  | _ => exact trivial

/-- What a call for `key` does to the view of `key`. -/
def Alone (c : Setting) (key : Key) (x : View) (m : Answered Effect.Answer) (y : View) : Prop :=
  ∃ w w', w.view key = x ∧ Step c w (key, m) w' ∧ w'.view key = y

/-- **One key at a time**: the calls for a key are a run of their own, as long as every call is about the key that it is
for. -/
theorem course_alone {t : List Turn} (course : Course (Step c) w t w') (about : ∀ x ∈ t, x.2.1.About x.1) :
    Course (Alone c key) (w.view key) (Turn.calls key t) (w'.view key) := by
  induction course with
  | nil w => exact .nil _
  | @cons w v w' x t step rest ih =>
    obtain ⟨who, m⟩ := x
    obtain ⟨first, others⟩ := List.forall_mem_cons.1 about
    -- a turn of another pass is left out, since the view is the same on both sides of it
    by_cases own : who = key
    · subst own
      rw [Turn.calls_own]
      exact .cons ⟨w, v, rfl, step, rfl⟩ (ih others)
    · rw [Turn.calls_other own, ← step.view_of_other first own]
      exact ih others

/-! ### the view decides -/

section Decided

variable {x y x' y' : View} {f : Service → Service}

/-- What may come after a write is answered out of the view. -/
theorem Alone.decided {e : Effect} {a b : e.Answer} (late : e.Late key) (one : Alone c key x ⟨e, a⟩ x')
    (two : Alone c key y ⟨e, b⟩ y') (same : x.through f = y.through f) : a = b ∧ x'.through f = y'.through f := by
  obtain ⟨w, w', rfl, step, rfl⟩ := one
  obtain ⟨u, u', rfl, step', rfl⟩ := two
  -- the services may differ, but none of these calls looks at them
  have same' := same
  simp only [View.through, Site.view, View.mk.injEq] at same'
  obtain ⟨stored, base, max, failures, readings⟩ := same'
  cases e with
  | fetch k => exact late.2.elim
  | write d => exact late.2.elim
  | deployment k =>
    cases step
    cases step'
    exact ⟨rfl, same⟩
  | publish e =>
    cases step
    cases step'
    exact ⟨rfl, same⟩
  | clock =>
    cases step
    cases step'
    refine ⟨by rw [readings], ?_⟩
    simp only [View.through, Site.view, Site.tick, stored, base, max, failures, readings, Function.update_self]
  | forget k =>
    cases step
    cases step'
    refine ⟨rfl, ?_⟩
    simp only [View.through, Site.view, Site.forget, Backoff.forget, Table.get?_erase, stored, base, max, failures,
      readings]
  | delay k =>
    obtain rfl : k = key := late.1
    cases step
    cases step'
    have count : w.backoff.failures k = u.backoff.failures k := by
      unfold Backoff.failures
      rw [failures]
    refine ⟨Backoff.next_congr base max count, ?_⟩
    simp only [View.through, Site.view, Site.record, Backoff.record, Table.get?_insert, stored, base, max, count,
      readings, if_pos]

theorem Alone.fetched {a b : Except Failure (Option Service)} (one : Alone c key x ⟨.fetch key, a⟩ x')
    (two : Alone c key x ⟨.fetch key, b⟩ y') : a = b ∧ x' = x ∧ y' = x := by
  obtain ⟨w, w', rfl, step, rfl⟩ := one
  obtain ⟨u, u', same, step', rfl⟩ := two
  have stored : u.store.get? key = w.store.get? key := congrArg View.stored same
  cases step with
  | fetch _ _ readable =>
    cases step' with
    | fetch => exact ⟨by rw [stored], rfl, same⟩
    | fetchFails _ _ e unreadable =>
      rw [readable] at unreadable
      cases unreadable
  | fetchFails _ _ e unreadable =>
    cases step' with
    | fetch _ _ readable =>
      rw [readable] at unreadable
      cases unreadable
    | fetchFails _ _ e' unreadable' =>
      refine ⟨?_, rfl, same⟩
      rw [unreadable] at unreadable'
      cases unreadable'
      rfl

theorem Setting.refusal?_congr {st st' : Store} {d : Service} (hd : d.key? = some key)
    (same : st.get? key = st'.get? key) : c.refusal? st d = c.refusal? st' d := by
  unfold refusal? Store.write
  rw [hd]
  dsimp only
  rw [same]
  rcases c.unwritable key with _ | e
  · rcases st'.get? key with _ | old
    · rfl
    · by_cases stale : Store.stale d.metadata.resourceVersion old.metadata.resourceVersion = true
      · simp only [if_pos stale]
      · simp only [if_neg stale]
  · rfl

/-- What is left of a write but the version depends on the view. -/
theorem Alone.wrote {d : Service} {a b : Except Failure Unit} (hd : d.key? = some key)
    (one : Alone c key x ⟨.write d, a⟩ x') (two : Alone c key x ⟨.write d, b⟩ y') :
    a = b ∧ x'.through Service.unversioned = y'.through Service.unversioned := by
  obtain ⟨w, w', rfl, step, rfl⟩ := one
  obtain ⟨u, u', same, step', rfl⟩ := two
  have stored : u.store.get? key = w.store.get? key := congrArg View.stored same
  have refusal : c.refusal? u.store d = c.refusal? w.store d := Setting.refusal?_congr hd stored
  cases step with
  | write _ _ k old v fine hk hold =>
    cases step' with
    | write _ _ k' old' v' fine' hk' hold' =>
      obtain rfl : k = key := Option.some.inj (hk.symm.trans hd)
      obtain rfl : k' = k := Option.some.inj (hk'.symm.trans hd)
      obtain rfl : old' = old := Option.some.inj (hold'.symm.trans (stored.trans hold))
      refine ⟨rfl, ?_⟩
      rw [view_put, view_put, if_pos rfl, if_pos rfl, same]
      rfl
    | writeFails _ _ e refused =>
      rw [refusal, fine] at refused
      cases refused
  | writeFails _ _ e refused =>
    cases step' with
    | write _ _ k old v fine =>
      rw [← refusal, fine] at refused
      cases refused
    | writeFails _ _ e' refused' =>
      rw [refusal, refused] at refused'
      cases refused'
      exact ⟨rfl, congrArg _ same.symm⟩

variable {α : Type} {p : Prog Effect Effect.Answer α} {t t' : List (Answered Effect.Answer)} {a b : α}

theorem eq_of_only (late : Only (Effect.Late key) p) (one : Path p t (.done a)) (two : Path p t' (.done b))
    (course : Course (Alone c key) x t x') (course' : Course (Alone c key) y t' y')
    (same : x.through f = y.through f) : t = t' ∧ a = b ∧ x'.through f = y'.through f := by
  induction p generalizing t t' x y with
  | done r =>
    obtain ⟨rfl, rfl, rfl⟩ := course_of_done one course
    obtain ⟨rfl, rfl, rfl⟩ := course_of_done two course'
    exact ⟨rfl, rfl, same⟩
  | ask e next ih =>
    obtain ⟨r, t, z, rfl, step, onwards, rest⟩ := course_of_ask one course
    obtain ⟨r', t', z', rfl, step', onwards', rest'⟩ := course_of_ask two course'
    obtain ⟨rfl, alike⟩ := step.decided late.1 step' same
    obtain ⟨rfl, rfl, final⟩ := ih r (late.2 r) onwards onwards' rest rest' alike
    exact ⟨rfl, rfl, final⟩

/-- **Two runs of a careful program** from one view make the same calls, are answered alike, and leave views that are
alike but for the version. -/
theorem eq_of_careful (careful : Careful key p) (finds : ∀ m ∈ t, Effect.Finds m) (one : Path p t (.done a))
    (two : Path p t' (.done b)) (course : Course (Alone c key) x t x') (course' : Course (Alone c key) x t' y') :
    t = t' ∧ a = b ∧ x'.through Service.unversioned = y'.through Service.unversioned := by
  induction p generalizing t t' x with
  | done r =>
    obtain ⟨rfl, rfl, rfl⟩ := course_of_done one course
    obtain ⟨rfl, rfl, rfl⟩ := course_of_done two course'
    exact ⟨rfl, rfl, rfl⟩
  | ask e next ih =>
    obtain ⟨r, t, z, rfl, step, onwards, rest⟩ := course_of_ask one course
    obtain ⟨r', t', z', rfl, step', onwards', rest'⟩ := course_of_ask two course'
    obtain ⟨first, others⟩ := List.forall_mem_cons.1 finds
    obtain ⟨careful', late⟩ := careful.2 r first
    -- only a write leaves views that differ, and after a write the store is left alone
    by_cases write : ∃ d, e = .write d
    · obtain ⟨d, rfl⟩ := write
      obtain ⟨rfl, alike⟩ := step.wrote careful.1 step'
      obtain ⟨rfl, rfl, final⟩ := eq_of_only (late ⟨d, rfl⟩) onwards onwards' rest rest' alike
      exact ⟨rfl, rfl, final⟩
    · obtain ⟨rfl, rfl⟩ : r = r' ∧ z = z' := by
        cases e with
        | fetch k =>
          obtain rfl : k = key := careful.1
          obtain ⟨answer, hz, hz'⟩ := step.fetched step'
          exact ⟨answer, hz.trans hz'.symm⟩
        | write d => exact absurd ⟨d, rfl⟩ write
        | _ => simpa using step.decided (f := id) ⟨careful.1, trivial⟩ step' rfl
      obtain ⟨rfl, rfl, final⟩ := ih r careful' others onwards onwards' rest rest'
      exact ⟨rfl, rfl, final⟩

end Decided

/-! ### side by side -/

section SideBySide

variable {α : Type} {p : Key → Prog Effect Effect.Answer α} {keys keys' : List Key} {w'' : Site} {t t' : List Turn}
  {r r' : Key → α}

theorem finds_of_course (course : Course (Step c) w t w') : ∀ x ∈ t, Effect.Finds x.2 := by
  induction course with
  | nil => simp
  | cons step rest ih => exact List.forall_mem_cons.2 ⟨step.finds, ih⟩

theorem finds_calls (course : Course (Step c) w t w') : ∀ m ∈ Turn.calls key t, Effect.Finds m := by
  intro m hm
  exact finds_of_course course (key, m) (Turn.mem_calls_iff.1 hm)

theorem Together.about (run : Together c p keys w t r w') (careful : ∀ key ∈ keys, Careful key (p key)) :
    ∀ x ∈ t, x.2.1.About x.1 := by
  rintro ⟨key, m⟩ hx
  have hk : key ∈ keys := run.own _ hx
  exact (careful key hk).about_of_path (run.ends key hk) (finds_calls run.course) m (Turn.mem_calls_iff.2 hx)

theorem Together.view_of_not_mem (run : Together c p keys w t r w') (careful : ∀ key ∈ keys, Careful key (p key))
    (hk : key ∉ keys) : w'.view key = w.view key := by
  have alone : Course (Alone c key) (w.view key) (Turn.calls key t) (w'.view key) :=
    course_alone run.course (run.about careful)
  have silent : Turn.calls key t = [] := by
    refine Turn.calls_eq_nil fun x hx h => hk ?_
    exact h ▸ run.own x hx
  rw [silent] at alone
  exact Course.nil_iff.1 alone

/-- **Two runs of the same careful passes**, side by side in whatever way, differ in versions at most. -/
theorem Together.agree (one : Together c p keys w t r w') (two : Together c p keys' w t' r' w'')
    (careful : ∀ key ∈ keys, Careful key (p key)) (same : ∀ key, key ∈ keys' ↔ key ∈ keys) (key : Key) :
    (key ∈ keys → Turn.calls key t' = Turn.calls key t ∧ r' key = r key) ∧
      (w''.view key).through Service.unversioned = (w'.view key).through Service.unversioned := by
  have careful' : ∀ key ∈ keys', Careful key (p key) := fun key hk => careful key ((same key).1 hk)
  by_cases hk : key ∈ keys
  · obtain ⟨calls, result, final⟩ := eq_of_careful (careful key hk) (finds_calls one.course) (one.ends key hk)
      (two.ends key ((same key).2 hk)) (course_alone one.course (one.about careful))
      (course_alone two.course (two.about careful'))
    exact ⟨fun _ => ⟨calls.symm, result.symm⟩, final.symm⟩
  · have untouched : w''.view key = w.view key := two.view_of_not_mem careful' fun h => hk ((same key).1 h)
    refine ⟨fun h => absurd h hk, ?_⟩
    rw [untouched, one.view_of_not_mem careful hk]

/-- **Careful programs do one by one what they do side by side**, in any order. -/
theorem Together.agrees {order : List Key} (run : Together c p keys w t r w')
    (careful : ∀ key ∈ keys, Careful key (p key)) (different : keys.Nodup) (perm : order.Perm keys) :
    Agrees c p keys order w t r w' := by
  have different' : order.Nodup := perm.nodup_iff.2 different
  have agree {r' : Key → α} {t' : List Turn} {w'' : Site} (run' : OneByOne c p r' order w t' w'') :=
    run.agree (run'.together different') careful fun _ => perm.mem_iff
  constructor
  case possible => exact exists_oneByOne c p r different' w
  case results =>
    intro r' t' w'' run' key hk
    exact ((agree run' key).1 hk).2
  case events =>
    intro r' t' w'' run' key hk
    rw [((agree run' key).1 hk).1]
  case stored =>
    intro r' t' w'' run' key
    exact congrArg View.stored (agree run' key).2
  case counts =>
    intro r' t' w'' run' key
    exact congrArg View.failures (agree run' key).2

end SideBySide

end OneKey

/-- **Passes side by side do what they do one by one.** Take passes for different keys, each for a service that was
seen, in any run side by side, whatever fails for whichever key and whatever the clocks of the passes say. In any order
they can run one by one, too, from where they started; and then each of them has the same result and tells the same
events, the services that are stored in the end are the same but for their versions, and so are the counts of
failures. The same holds of dispatches, where a pass that fails may be counted and is tried again after a delay that
depends on that count. -/
theorem interleaved_agrees {c : Setting} {config : Config} {seen : Key → Service} {keys order : List Key} {w : Site}
    (different : keys.Nodup) (ids : ∀ key ∈ keys, (seen key).key? = some key) (perm : order.Perm keys) :
    (∀ t r w', Together c (fun key => shipped config (reconcile (seen key))) keys w t r w' →
      Agrees c (fun key => shipped config (reconcile (seen key))) keys order w t r w') ∧
    ∀ t r w', Together c (fun key => shipped config (dispatch (seen key))) keys w t r w' →
      Agrees c (fun key => shipped config (dispatch (seen key))) keys order w t r w' := by
  constructor
  · intro t r w' together
    exact together.agrees (fun key hk => careful_reconcile (ids key hk)) different perm
  · intro t r w' together
    exact together.agrees (fun key hk => careful_dispatch (ids key hk)) different perm

namespace Shop

def neighbour : Key := ⟨"shop", "neighbour"⟩

/-- The neighbour may be unreadable, and it is noon all the time. -/
def setting (unreadable : Option Failure) : Setting where
  look := look
  unreadable k := if k = neighbour then unreadable else none
  unwritable _ := none
  clock _ _ := noon

def seen (k : Key) : Service := { service none with metadata := { name := some k.name, ns := some k.ns } }

/-- The shop is stored and its neighbour is not, though its pass has failed before. -/
def site : Site where
  store := ({} : Store).set key (service was)
  keyed := .set (fun _ _ h => by cases h) rfl
  backoff := Backoff.record { base := Duration.ofSecs 5, max := Duration.ofSecs 300 } neighbour
  readings _ := 0

/-- The pass of the shop, with calls of its neighbour after the first call and before the write. -/
def rush (early : List (Answered Effect.Answer)) (late : Answered Effect.Answer) : List Turn :=
  (key, ⟨.fetch key, .ok (some (service was))⟩) :: early.map (Prod.mk neighbour) ++ calls.map (Prod.mk key) ++
    [(key, ⟨.fetch key, .ok (some (service was))⟩), (neighbour, late), (key, ⟨.write next, .ok ()⟩),
      (key, ⟨.publish notReady, ()⟩), (key, ⟨.forget key, ()⟩)]

def quietRush : List Turn := rush [⟨.fetch neighbour, .ok none⟩, ⟨.forget neighbour, ()⟩] ⟨.forget neighbour, ()⟩

def timeout : Failure := .client (.broken "client error (Connect)" ["tcp connect error", "timed out"])

def failedRush : List Turn := rush [⟨.fetch neighbour, .error timeout⟩] ⟨.delay neighbour, Duration.ofSecs 10⟩

/-- The shop is settled, and its neighbour is tried again after the delay of a second failure. -/
def outcome (k : Key) : Outcome :=
  if k = neighbour then ⟨some timeout, .requeue (Duration.ofSecs 10)⟩ else ⟨none, .awaitChange⟩

theorem refusal?_next (e : Option Failure) : (setting e).refusal? site.store next = none := by rfl

theorem exists_together_passes : ∃ w', Together (setting none) (fun k => shipped {} (reconcile (seen k)))
    [key, neighbour] site quietRush (fun _ => .ok .awaitChange) w' := by
  have course : Course (Step (setting none)) site quietRush _ :=
    .cons (.fetch _ _ key rfl) (.cons (.fetch _ _ neighbour rfl) (.cons (.forget _ _ neighbour)
      (.cons (.deployment _ _ _) (.cons (.clock _ _) (.cons (.deployment _ _ _) (.cons (.clock _ _)
        (.cons (.clock _ _) (.cons (.clock _ _) (.cons (.fetch _ _ key rfl) (.cons (.forget _ _ neighbour)
          (.cons (.write _ _ _ key (service was) (some "8") (by exact refusal?_next _) rfl rfl)
            (.cons (.publish _ _ _) (.cons (.forget _ _ key) (.nil _))))))))))))))
  have shop : Path (shipped {} (reconcile (seen key))) (Turn.calls key quietRush) (.done (.ok .awaitChange)) :=
    .cons (.cons (.cons (.cons (.cons (.cons (.cons (.cons (.cons (.cons (.cons (.nil _)))))))))))
  have beside : Path (shipped {} (reconcile (seen neighbour))) (Turn.calls neighbour quietRush)
      (.done (.ok .awaitChange)) :=
    .cons (.cons (.cons (.nil _)))
  exact ⟨_, course, by decide, List.forall_mem_cons.2 ⟨shop, List.forall_mem_singleton.2 beside⟩⟩

theorem exists_together_dispatches : ∃ w', w'.backoff.counts.get? neighbour = some 2 ∧
    Together (setting (some timeout)) (fun k => shipped {} (dispatch (seen k))) [key, neighbour] site failedRush
      outcome w' := by
  have course : Course (Step (setting (some timeout))) site failedRush _ :=
    .cons (.fetch _ _ key rfl) (.cons (.fetchFails _ _ neighbour _ rfl)
      (.cons (.deployment _ _ _) (.cons (.clock _ _) (.cons (.deployment _ _ _) (.cons (.clock _ _)
        (.cons (.clock _ _) (.cons (.clock _ _) (.cons (.fetch _ _ key rfl) (.cons (.delay _ _ neighbour)
          (.cons (.write _ _ _ key (service was) (some "8") (by exact refusal?_next _) rfl rfl)
            (.cons (.publish _ _ _) (.cons (.forget _ _ key) (.nil _)))))))))))))
  have shop : Path (shipped {} (dispatch (seen key))) (Turn.calls key failedRush) (.done (outcome key)) :=
    .cons (.cons (.cons (.cons (.cons (.cons (.cons (.cons (.cons (.cons (.cons (.nil _)))))))))))
  have beside : Path (shipped {} (dispatch (seen neighbour))) (Turn.calls neighbour failedRush)
      (.done (outcome neighbour)) :=
    .cons (.cons (.nil _))
  exact ⟨_, by rfl, course, by decide, List.forall_mem_cons.2 ⟨shop, List.forall_mem_singleton.2 beside⟩⟩

end Shop

/-- The shop goes down while its neighbour is looked for, or afterwards, and so it does if that look fails, which is
the second failure of the neighbour. -/
theorem interleaved_agrees_shop :
    (∃ r t w', OneByOne (Shop.setting none) (fun k => shipped {} (reconcile (Shop.seen k))) r
        [Shop.neighbour, Shop.key] Shop.site t w' ∧
      published (Turn.calls Shop.key t) = [Shop.notReady]) ∧
    ∃ r t w', OneByOne (Shop.setting (some Shop.timeout)) (fun k => shipped {} (dispatch (Shop.seen k))) r
        [Shop.neighbour, Shop.key] Shop.site t w' ∧
      published (Turn.calls Shop.key t) = [Shop.notReady] ∧
      r Shop.neighbour = ⟨some Shop.timeout, .requeue (Duration.ofSecs 10)⟩ ∧
      w'.backoff.counts.get? Shop.neighbour = some 2 := by
  have different : [Shop.key, Shop.neighbour].Nodup := by decide
  have ids : ∀ key ∈ [Shop.key, Shop.neighbour], (Shop.seen key).key? = some key := by decide
  have perm : [Shop.neighbour, Shop.key].Perm [Shop.key, Shop.neighbour] := .swap _ _ _
  constructor
  · obtain ⟨_, together⟩ := Shop.exists_together_passes
    have agrees := (interleaved_agrees different ids perm).1 _ _ _ together
    obtain ⟨r, t, w', run⟩ := agrees.possible
    exact ⟨r, t, w', run, agrees.events run Shop.key (by decide)⟩
  · obtain ⟨_, twice, together⟩ := Shop.exists_together_dispatches
    have agrees := (interleaved_agrees different ids perm).2 _ _ _ together
    obtain ⟨r, t, w', run⟩ := agrees.possible
    exact ⟨r, t, w', run, agrees.events run Shop.key (by decide), agrees.results run Shop.neighbour (by decide),
      (agrees.counts run Shop.neighbour).trans twice⟩

end Pass

end ModelServing
