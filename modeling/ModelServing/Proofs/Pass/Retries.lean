import Mathlib.Logic.Function.Iterate
import ModelServing.Proofs.Pass.Runs

/-!
# How long a failure waits

* `Ends` lists the runs of a dispatch, `ends_of_path` says that there are no others;
* `Counted` is what happens to the counts of failures while the calls of a pass are answered, whoever answers the rest;
* `streak` counts the dispatches of a key that were put back since the last one that settled the key, in the list of
  those that came before, and `Tallied` says that the counts are these;
* `action_of_streak` gives the end of every dispatch from what came before it.
-/

namespace ModelServing

open Prog

/-! ### counts -/

namespace Backoff

variable {b : Backoff} {key : Key}

theorem failures_iterate_record (n : Nat) :
    ((record · key)^[n] b).failures key = succ^[n] (b.failures key) := by
  induction n with
  | zero => rfl
  | succ n ih => rw [Function.iterate_succ_apply', Function.iterate_succ_apply', failures_record, if_pos rfl, ih]

theorem limits_iterate_record (n : Nat) :
    ((record · key)^[n] b).base = b.base ∧ ((record · key)^[n] b).max = b.max := by
  induction n with
  | zero => exact ⟨rfl, rfl⟩
  | succ n ih =>
    rw [Function.iterate_succ_apply']
    exact ih

end Backoff

namespace Pass

/-! ### the runs of a dispatch -/

/-- The runs of a dispatch for `key`: the pass succeeds, or it fails with what is not found, or with what may pass, or
with what stays. -/
inductive Ends (key : Key) : List (Answered Call.Answer) → Outcome → Prop
  | succeeded {t : List (Answered Call.Answer)} (runs : Runs key t (.ok .awaitChange)) :
      Ends key (t ++ [⟨.forget key, ()⟩]) ⟨none, .awaitChange⟩
  | vanished {t : List (Answered Call.Answer)} {e : Failure} (runs : Runs key t (.error e)) (gone : e.notFound = true) :
      Ends key (t ++ [⟨.forget key, ()⟩]) ⟨some e, .awaitChange⟩
  | delayed {t : List (Answered Call.Answer)} {e : Failure} {d : Duration} (runs : Runs key t (.error e))
      (found : e.notFound = false) (passing : e.retryable = true) :
      Ends key (t ++ [⟨.delay key, d⟩]) ⟨some e, .requeue d⟩
  | refused {t : List (Answered Call.Answer)} {e : Failure} (runs : Runs key t (.error e))
      (found : e.notFound = false) (lasting : e.retryable = false) : Ends key t ⟨some e, .awaitChange⟩

theorem Runs.awaits {key : Key} {t : List (Answered Call.Answer)} {a : Action} {r : Except Failure Action}
    (h : Runs key t r) (ok : r = .ok a) : a = .awaitChange := by
  cases h with
  | unread => cases ok
  | absent =>
    cases ok
    rfl
  | stopped => cases ok
  | @committed s d t u c worked commits =>
    cases c with
    | error e => cases ok
    | ok c =>
      cases ok
      rfl

/-- A service without a namespace is not worked on at all. -/
theorem dispatch_unscoped {seen : Service} (hid : seen.key? = none) :
    dispatch seen = .done ⟨some (.unscoped seen.name), .awaitChange⟩ := by
  unfold dispatch reconcile errorPolicy
  rw [hid]
  rfl

/-- **There are no other runs of a dispatch.** -/
theorem ends_of_path {seen : Service} {key : Key} {t : List (Answered Call.Answer)} {o : Outcome}
    (hid : seen.key? = some key) (path : Path (dispatch seen) t (.done o)) : Ends key t o := by
  unfold dispatch reconcile errorPolicy at path
  rw [hid] at path
  obtain ⟨t₁, r, t₂, rfl, passed, decided⟩ := path_bind_done_iff.1 path
  obtain ⟨e, rfl, failed⟩ | ⟨u, a, u', rfl, run, forgotten⟩ := path_andThen_done_iff.1 passed
  · have runs : Runs key t₁ (.error e) := runs_of_path failed
    dsimp only at decided
    split at decided
    · obtain ⟨_, _, rfl, h⟩ := path_ask_done_iff.1 decided
      obtain ⟨rfl, ho⟩ := path_done_iff.1 h
      cases ho
      exact .vanished runs ‹_›
    · split at decided
      · obtain ⟨d, _, rfl, h⟩ := path_ask_done_iff.1 decided
        obtain ⟨rfl, ho⟩ := path_done_iff.1 h
        cases ho
        exact .delayed runs (by simpa using ‹¬ e.notFound = true›) ‹_›
      · obtain ⟨rfl, ho⟩ := path_done_iff.1 decided
        cases ho
        rw [List.append_nil]
        exact .refused runs (by simpa using ‹¬ e.notFound = true›) (by simpa using ‹¬ e.retryable = true›)
  · have runs : Runs key u (.ok a) := runs_of_path run
    obtain rfl := runs.awaits rfl
    obtain ⟨_, _, rfl, h⟩ := path_ask_done_iff.1 forgotten
    obtain ⟨rfl, hr⟩ := path_done_iff.1 h
    cases hr
    obtain ⟨rfl, ho⟩ := path_done_iff.1 decided
    cases ho
    rw [List.append_nil]
    exact .succeeded runs

/-! ### the counts in a dispatch -/

/-- The calls that are about the counts. -/
def Call.Counts : Call → Prop
  | .forget _ | .delay _ => True
  | _ => False

/-- What happens to the counts while a call is answered; the other calls are answered in any way. -/
inductive Counted : Backoff → Answered Call.Answer → Backoff → Prop
  | forget (b : Backoff) (key : Key) : Counted b ⟨.forget key, ()⟩ (b.forget key)
  | delay (b : Backoff) (key : Key) : Counted b ⟨.delay key, (b.next key).1⟩ (b.next key).2
  | aside (b : Backoff) (m : Answered Call.Answer) (h : ¬ m.1.Counts) : Counted b m b

section Counted

variable {b b' : Backoff} {key : Key} {t : List (Answered Call.Answer)} {r : Except Failure Action}

theorem Counted.eq_forget {a : Unit} (h : Counted b ⟨.forget key, a⟩ b') : b' = b.forget key := by
  cases h with
  | forget => rfl
  | aside _ h => exact absurd trivial h

theorem Counted.eq_next {d : Duration} (h : Counted b ⟨.delay key, d⟩ b') :
    d = (b.next key).1 ∧ b' = b.record key := by
  cases h with
  | delay => exact ⟨rfl, rfl⟩
  | aside _ h => exact absurd trivial h

theorem counted_eq_self (course : Course Counted b t b') (aside : ∀ m ∈ t, ¬ m.1.Counts) : b' = b := by
  refine course.keeps (I := (· = b)) rfl fun m hm u v step hu => ?_
  have hc := aside m hm
  cases step with
  | forget => exact absurd trivial hc
  | delay => exact absurd trivial hc
  | aside => exact hu

/-- A pass leaves the counts alone, except that it forgets a service that is not there. -/
theorem Runs.counted (h : Runs key t r) (course : Course Counted b t b') :
    b' = b ∨ (r = .ok .awaitChange ∧ b' = b.forget key) := by
  have inner {s : Service} {t : List (Answered Call.Answer)} {r : Except Failure Service}
      (worked : Path (reconcilers s) t (.done r)) : ∀ m ∈ t, ¬ m.1.Counts := by
    rintro ⟨c, a⟩ hm hc
    have hin := inner_of_path_reconcilers worked _ hm
    cases c with
    | forget => exact hin
    | delay => exact hin
    | _ => exact hc
  cases h with
  | unread => exact .inl (counted_eq_self course (by simp [Call.Counts]))
  | absent =>
    obtain ⟨u, fetched, rest⟩ := Course.cons_iff.1 course
    obtain ⟨v, forgotten, last⟩ := Course.cons_iff.1 rest
    obtain rfl := Course.nil_iff.1 last
    cases fetched
    exact .inr ⟨rfl, forgotten.eq_forget⟩
  | stopped worked => exact .inl (counted_eq_self course (by simpa [Call.Counts] using inner worked))
  | @committed s d t u c worked commits =>
    have aside : ∀ m ∈ u, ¬ m.1.Counts := by
      cases commits <;> simp [Call.Counts, telling]
    refine .inl (counted_eq_self course fun m hm => ?_)
    simp only [List.cons_append, List.mem_cons, List.mem_append] at hm
    rcases hm with rfl | hm | hm
    · exact id
    · exact inner worked m hm
    · exact aside m hm

end Counted

/-! ### streaks -/

/-- What is known of a dispatch afterwards: the service that was seen, the calls with their answers, and the end. -/
structure Dispatched where
  seen : Service
  calls : List (Answered Call.Answer)
  outcome : Outcome

namespace Dispatched

def of (key : Key) (d : Dispatched) : Bool := decide (d.seen.key? = some key)

/-- The key was put back, for another pass after a delay. -/
def requeued (d : Dispatched) : Bool := d.outcome.action != .awaitChange

/-- The pass succeeded, or the service was not found. -/
def settled (d : Dispatched) : Bool := (d.outcome.failure.map Failure.notFound).getD true

end Dispatched

/-- How many dispatches of `key` were put back since the last one of them that settled it. -/
def streak (key : Key) (earlier : List Dispatched) : Nat :=
  ((earlier.filter (·.of key)).reverse.takeWhile (!·.settled)).countP (·.requeued)

section Streak

variable {key : Key} {earlier l l' : List Dispatched} {d : Dispatched}

theorem streak_concat :
    streak key (earlier ++ [d]) =
      if d.of key then if d.settled then 0 else streak key earlier + (if d.requeued then 1 else 0)
      else streak key earlier := by
  unfold streak
  rw [List.filter_append, List.reverse_append]
  cases hk : d.of key with
  | false => simp [hk]
  | true =>
    cases hs : d.settled with
    | true => simp [hk, hs]
    | false => simp [hk, hs, List.countP_cons]

/-- Dispatches of other keys do not count, and neither do those that failed for good. -/
theorem streak_insert (h : d.of key = false ∨ (d.settled = false ∧ d.requeued = false)) :
    streak key (l ++ d :: l') = streak key (l ++ l') := by
  unfold streak
  rw [List.filter_append, List.filter_append, List.filter_cons]
  cases hk : d.of key with
  | false => rfl
  | true =>
    rcases h with h | ⟨hs, hr⟩
    · rw [hk] at h
      cases h
    · -- the dispatch is passed over on the way back to the last one that settled the key
      rw [if_pos rfl, List.reverse_append, List.reverse_append, List.reverse_cons, List.append_assoc,
        List.singleton_append, List.takeWhile_append, List.takeWhile_append]
      split
      · rw [List.takeWhile_cons, hs]
        simp [hr]
      · rfl

end Streak

/-! ### runs of dispatches -/

/-- A dispatch, while the counts are kept and everything else is answered in any way. -/
def Dispatches (b : Backoff) (d : Dispatched) (b' : Backoff) : Prop :=
  Path (dispatch d.seen) d.calls (.done d.outcome) ∧ Course Counted b d.calls b'

/-- The counts after some dispatches, from none. -/
structure Tallied (base max : Duration) (earlier : List Dispatched) (b : Backoff) : Prop where
  base : b.base = base
  max : b.max = max
  failures : ∀ key, b.failures key = Backoff.succ^[streak key earlier] 0

section Tallied

variable {base max : Duration} {earlier : List Dispatched} {d : Dispatched} {b b' : Backoff}

theorem tallied_nil : Tallied base max [] { base := base, max := max } := ⟨rfl, rfl, fun _ => rfl⟩

theorem Tallied.next_eq (h : Tallied base max earlier b) (key : Key) :
    (b.next key).1 =
      (((Backoff.record · key)^[streak key earlier] { base := base, max := max : Backoff }).next key).1 := by
  obtain ⟨hb, hm⟩ := @Backoff.limits_iterate_record { base := base, max := max } key (streak key earlier)
  refine Backoff.next_congr (h.base.trans hb.symm) (h.max.trans hm.symm) ?_
  rw [h.failures, Backoff.failures_iterate_record]
  rfl

theorem Tallied.concat (h : Tallied base max earlier b) (hb : b'.base = b.base) (hm : b'.max = b.max)
    (hf : ∀ key, b'.failures key =
      if d.of key then if d.settled then 0 else if d.requeued then Backoff.succ (b.failures key) else b.failures key
      else b.failures key) : Tallied base max (earlier ++ [d]) b' where
  base := hb.trans h.base
  max := hm.trans h.max
  failures key := by
    rw [hf, streak_concat, h.failures]
    split
    · split
      · rfl
      · split
        · rw [Function.iterate_succ_apply']
        · rfl
    · rfl

theorem of_congr {key k : Key} (hid : d.seen.key? = some key) : d.of k = decide (k = key) := by
  simp [Dispatched.of, hid, eq_comm]

/-- **A dispatch keeps the tally.** -/
theorem Tallied.dispatch (h : Tallied base max earlier b) (step : Dispatches b d b') :
    Tallied base max (earlier ++ [d]) b' := by
  obtain ⟨path, course⟩ := step
  cases hid : d.seen.key? with
  | none =>
    rw [dispatch_unscoped hid] at path
    rw [(path_done_iff.1 path).1] at course
    obtain rfl := Course.nil_iff.1 course
    refine h.concat rfl rfl fun key => ?_
    simp [Dispatched.of, hid]
  | some key =>
    obtain ⟨seen, calls, outcome⟩ := d
    have hof (k : Key) : Dispatched.of k ⟨seen, calls, outcome⟩ = decide (k = key) := of_congr hid
    dsimp only at path course hid
    -- the pass leaves the counts alone, or forgets a service that is gone; the last call decides
    cases ends_of_path hid path with
    | succeeded runs =>
      obtain ⟨u, passed, forgotten⟩ := Course.concat_iff.1 course
      obtain rfl := forgotten.eq_forget
      rcases runs.counted passed with rfl | ⟨-, rfl⟩
      · refine h.concat rfl rfl fun k => ?_
        simp [hof, Dispatched.settled]
      · refine h.concat rfl rfl fun k => ?_
        simp +contextual [hof, Dispatched.settled]
    | vanished runs gone =>
      obtain ⟨u, passed, forgotten⟩ := Course.concat_iff.1 course
      obtain rfl := forgotten.eq_forget
      obtain rfl | ⟨hr, -⟩ := runs.counted passed
      · refine h.concat rfl rfl fun k => ?_
        simp [hof, Dispatched.settled, gone]
      · cases hr
    | delayed runs found passing =>
      obtain ⟨u, passed, counted⟩ := Course.concat_iff.1 course
      obtain ⟨-, rfl⟩ := counted.eq_next
      obtain rfl | ⟨hr, -⟩ := runs.counted passed
      · refine h.concat rfl rfl fun k => ?_
        by_cases hk : k = key
        · simp [hof, hk, Dispatched.settled, found, Dispatched.requeued]
        · simp [hof, hk]
      · cases hr
    | refused runs found lasting =>
      obtain rfl | ⟨hr, -⟩ := runs.counted course
      · refine h.concat rfl rfl fun k => ?_
        simp [hof, Dispatched.settled, found, Dispatched.requeued]
      · cases hr

theorem Tallied.course {run : List Dispatched} (h : Tallied base max earlier b) (course : Course Dispatches b run b') :
    Tallied base max (earlier ++ run) b' := by
  induction course generalizing earlier with
  | nil => rwa [List.append_nil]
  | @cons b u b' d run step rest ih =>
    have next := ih (h.dispatch step)
    rwa [List.append_assoc] at next

/-- A dispatch that is settled, or that nothing can be done about, waits for a change. -/
theorem Dispatches.awaits (step : Dispatches b d b')
    (waits : d.outcome.failure = none ∨ d.seen.key? = none ∨
      ∃ e, d.outcome.failure = some e ∧ (e.notFound = true ∨ e.retryable = false)) :
    d.outcome.action = .awaitChange := by
  obtain ⟨seen, calls, outcome⟩ := d
  obtain ⟨path, -⟩ := step
  dsimp only at path waits ⊢
  cases hid : seen.key? with
  | none =>
    rw [dispatch_unscoped hid] at path
    have ended := Prog.done.inj (path_done_iff.1 path).2
    rw [ended]
  | some key =>
    cases ends_of_path hid path with
    | succeeded => rfl
    | vanished => rfl
    | delayed runs found passing =>
      rcases waits with h | h | ⟨e', h, h'⟩
      · cases h
      · rw [hid] at h
        cases h
      · cases h
        simp [found, passing] at h'
    | refused => rfl

/-- Any other dispatch puts its service back, with the delay that the tally of its key earns. -/
theorem Tallied.requeues {key : Key} {e : Failure} (h : Tallied base max earlier b) (step : Dispatches b d b')
    (hid : d.seen.key? = some key) (failed : d.outcome.failure = some e) (found : e.notFound = false)
    (passing : e.retryable = true) :
    d.outcome.action =
      .requeue (((Backoff.record · key)^[streak key earlier] { base := base, max := max : Backoff }).next key).1 := by
  obtain ⟨seen, calls, outcome⟩ := d
  obtain ⟨path, course⟩ := step
  dsimp only at path course hid failed ⊢
  cases ends_of_path hid path with
  | succeeded => cases failed
  | vanished runs gone =>
    cases failed
    rw [found] at gone
    cases gone
  | delayed runs =>
    obtain ⟨u, passed, counted⟩ := Course.concat_iff.1 course
    obtain ⟨rfl, -⟩ := counted.eq_next
    obtain rfl | ⟨hr, -⟩ := runs.counted passed
    · rw [h.next_eq]
    · cases hr
  | refused runs _ lasting =>
    cases failed
    rw [passing] at lasting
    cases lasting

/-- **How every dispatch ends.** In a run of dispatches over any services, whatever their calls are answered: one that
succeeds, or was for a service without a namespace, or has not found its service, or has failed for good, waits for a
change; any other puts its service back, with the delay that is earned by as many failures in a row as there are
dispatches of the same key that were put back since the last one that settled it. Dispatches that failed for good and
those of other keys could as well not have been, and nothing counts of the service that was seen but its key. -/
theorem action_of_streak {earlier later : List Dispatched} {d : Dispatched} {b : Backoff}
    (run : Course Dispatches { base := base, max := max } (earlier ++ d :: later) b) :
    ((d.outcome.failure = none ∨ d.seen.key? = none ∨
        (∃ e, d.outcome.failure = some e ∧ (e.notFound = true ∨ e.retryable = false))) →
      d.outcome.action = .awaitChange) ∧
    (∀ key e, d.seen.key? = some key → d.outcome.failure = some e → e.notFound = false → e.retryable = true →
      d.outcome.action =
        .requeue (((Backoff.record · key)^[streak key earlier] { base := base, max := max : Backoff }).next key).1) ∧
    (∀ key x l l', x.of key = false ∨ (x.settled = false ∧ x.requeued = false) →
      streak key (l ++ x :: l') = streak key (l ++ l')) ∧
    ∀ seen : Service, seen.metadata.ns = d.seen.metadata.ns → seen.name = d.seen.name →
      dispatch seen = dispatch d.seen := by
  obtain ⟨b₁, before, onwards⟩ := Course.append_iff.1 run
  obtain ⟨b₂, step, -⟩ := Course.cons_iff.1 onwards
  have tallied : Tallied base max earlier b₁ := tallied_nil.course before
  refine ⟨step.awaits, fun key e => tallied.requeues step, fun _ _ _ _ => streak_insert, fun seen ns name => ?_⟩
  have key : seen.key? = d.seen.key? := by
    unfold Service.key?
    rw [ns, name]
  unfold dispatch reconcile errorPolicy
  rw [key, name]

end Tallied

namespace Shop

def cutOff : Failure := .client (.broken "connection reset")

def readFails (s : Service) (id : Key) (e : Failure) : Action → Dispatched
  | .awaitChange => ⟨s, [⟨.fetch id, .error e⟩], ⟨some e, .awaitChange⟩⟩
  | .requeue d => ⟨s, [⟨.fetch id, .error e⟩, ⟨.delay id, d⟩], ⟨some e, .requeue d⟩⟩

/-- A read that is cut off, one that is forbidden, and one of a neighbour that is cut off. -/
def morning : List Dispatched :=
  [readFails (service none) key cutOff (.requeue (Duration.ofSecs 5)),
    readFails (service was) key (.client (.refused ⟨"Failure", "", "Forbidden", 403⟩)) .awaitChange,
    readFails { service none with metadata := { name := some "neighbour", ns := some "shop" } } ⟨"shop", "neighbour"⟩
      cutOff (.requeue (Duration.ofSecs 5))]

end Shop

/-- When the shop is cut off once more it waits for ten seconds, this being the second time. -/
theorem action_of_streak_shop : ∃ b,
    Course Dispatches { base := Duration.ofSecs 5, max := Duration.ofSecs 300 }
      (Shop.morning ++ [Shop.readFails (Shop.service none) Shop.key Shop.cutOff (.requeue (Duration.ofSecs 10))]) b ∧
    streak Shop.key Shop.morning = 1 ∧
    Action.requeue (Duration.ofSecs 10) = .requeue (((Backoff.record · Shop.key)^[streak Shop.key Shop.morning]
      { base := Duration.ofSecs 5, max := Duration.ofSecs 300 : Backoff }).next Shop.key).1 := by
  have run : Course Dispatches { base := Duration.ofSecs 5, max := Duration.ofSecs 300 }
      (Shop.morning ++ [Shop.readFails (Shop.service none) Shop.key Shop.cutOff (.requeue (Duration.ofSecs 10))]) _ :=
    .cons ⟨.cons (.cons (.nil _)), .cons (.aside _ _ id) (.cons (.delay _ Shop.key) (.nil _))⟩
      (.cons ⟨.cons (.nil _), .cons (.aside _ _ id) (.nil _)⟩
        (.cons ⟨.cons (.cons (.nil _)), .cons (.aside _ _ id) (.cons (.delay _ ⟨"shop", "neighbour"⟩) (.nil _))⟩
          (.cons ⟨.cons (.cons (.nil _)), .cons (.aside _ _ id) (.cons (.delay _ Shop.key) (.nil _))⟩ (.nil _))))
  exact ⟨_, run, by decide, (action_of_streak run).2.1 Shop.key Shop.cutOff rfl rfl rfl rfl⟩

end Pass

end ModelServing
