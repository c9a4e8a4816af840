import ModelServing.Proofs.Api.Client
import ModelServing.Pass
import ModelServing.Store

/-!
# Stores under other hands

A store as a cluster keeps it: every change gives the object a version that it never had before, and a status is
written only over the version that the request of its writer carries.

* `Store.set` puts a service under a key, `Store.Keyed` says that each stands under its own, `Service.withVersion` gives
  it a version;
* `Shared` is such a store with the versions that the object of each key ever had, `Shared.put` and `Shared.delete` are
  what other clients do to it;
* `Moment` is a call of a pass or a change by another client, `Shared.Step` what each of them does: the store may refuse
  any call, and has to refuse a write over another version, or over nothing;
* `Shared.get?_of_write` says what a write that succeeds has sent, what it has found there and what it leaves;
* `Shared.held_or_lost` says what a reader knows later: either nobody has touched the object since, or its version will
  never be there again; `Shared.held_of_write` that it is the former if a write over that version succeeds in the end.
-/

namespace ModelServing

open Prog

namespace Store

def set (st : Store) (key : Key) (s : Service) : Store := ⟨st.services.insert key s⟩

theorem get?_set (st : Store) (key k : Key) (s : Service) :
    (st.set key s).get? k = if k = key then some s else st.get? k := Table.get?_insert _ _ _ _

/-- Every service stands under its own key. -/
def Keyed (st : Store) : Prop := ∀ key s, st.get? key = some s → s.key? = some key

theorem Keyed.set {st : Store} {key : Key} {s : Service} (h : st.Keyed) (hs : s.key? = some key) :
    (st.set key s).Keyed := by
  intro k x hx
  rw [get?_set] at hx
  split at hx
  · cases hx
    rw [‹k = key›]
    exact hs
  · exact h k x hx

end Store

def Service.withVersion (s : Service) (v : Option String) : Service :=
  { s with metadata := { s.metadata with resourceVersion := v } }

@[simp] theorem Service.key?_withVersion (s : Service) (v : Option String) : (s.withVersion v).key? = s.key? := rfl

@[simp] theorem Service.resourceVersion_withVersion (s : Service) (v : Option String) :
    (s.withVersion v).metadata.resourceVersion = v := rfl

/-- A store that many clients change. Every object stands under its own key, and its version is one of those that the
object of that key has had so far. -/
structure Shared where
  store : Store
  versions : Key → List String
  keyed : ∀ key s, store.get? key = some s → s.key? = some key
  known : ∀ key s v, store.get? key = some s → s.metadata.resourceVersion = some v → v ∈ versions key

/-- Something that happens to a store: a call of a pass that is answered, or a change of an object by anyone else. -/
inductive Moment where
  | call (m : Answered Pass.Effect.Answer)
  | change (key : Key)

/-- The calls among the moments. -/
def Moment.calls (t : List Moment) : List (Answered Pass.Effect.Answer) :=
  t.filterMap fun
    | .call m => some m
    | .change _ => none

namespace Moment

variable {t t' : List Moment} {m : Answered Pass.Effect.Answer}

@[simp] theorem calls_call : calls (.call m :: t) = m :: calls t := rfl

@[simp] theorem calls_append : calls (t ++ t') = calls t ++ calls t' := List.filterMap_append

theorem mem_calls : m ∈ calls t ↔ .call m ∈ t := by
  unfold calls
  rw [List.mem_filterMap]
  constructor
  · rintro ⟨_ | _, h, hm⟩
    · cases hm
      exact h
    · cases hm
  · intro h
    exact ⟨_, h, rfl⟩

end Moment

namespace Shared

def empty : Shared where
  store := {}
  versions _ := []
  keyed _ _ h := by cases h
  known _ _ _ h := by cases h

/-- `s` under its key from now on, with the version `v`. -/
def put (w : Shared) (key : Key) (s : Service) (v : String) (hs : s.key? = some key) : Shared where
  store := w.store.set key (s.withVersion (some v))
  versions k := if k = key then v :: w.versions k else w.versions k
  keyed k x hx := by
    rw [Store.get?_set] at hx
    split at hx
    · cases hx
      simpa [‹k = key›] using hs
    · exact w.keyed k x hx
  known k x v' hx hv := by
    rw [Store.get?_set] at hx
    split at hx
    · cases hx
      simp at hv
      simp [hv, ‹k = key›]
    · rw [if_neg ‹_›]
      exact w.known k x v' hx hv

/-- Nothing under `key` from now on. -/
def delete (w : Shared) (key : Key) : Shared where
  store := w.store.delete key
  versions := w.versions
  keyed k x hx := by
    rw [Store.get?_delete] at hx
    split at hx
    · cases hx
    · exact w.keyed k x hx
  known k x v hx hv := by
    rw [Store.get?_delete] at hx
    split at hx
    · cases hx
    · exact w.known k x v hx hv

/-- **What the store does.** A read gives the stored object, or fails. A write is what the client makes of it: a
request, and something that it says when that is answered. The store knows nothing but the request: it looks up the
object that the request names, and stores the status only if the version that the request carries is the one which that
object has; its answer may be lost then. Else nothing is stored, and every request that is sent fails, or the write fails
in another way. The other calls of a pass do not reach the store. Others may create, change and delete any object at any
moment. Every object that is stored gets a version that it never had. -/
inductive Step : Shared → Moment → Shared → Prop
  | fetch (w : Shared) (key : Key) : Step w (.call ⟨.fetch key, .ok (w.store.get? key)⟩) w
  | fetchFails (w : Shared) (key : Key) (e : Failure) : Step w (.call ⟨.fetch key, .error e⟩) w
  | write (w : Shared) (s : Service) (r : Request) (reply : Reply) (a : Except Failure Unit) (key : Key) (old : Service)
      (v : String) (sent : Path (Client.writeStatus s) [⟨r, reply⟩] (.done a)) (writes : r.Writes key)
      (hold : w.store.get? key = some old)
      (hseen : Store.stale r.version? old.metadata.resourceVersion = false)
      (hv : v ∉ w.versions key) :
      Step w (.call ⟨.write s, a⟩) (w.put key { old with status := s.status } v (w.keyed key old hold))
  | writeRefused (w : Shared) (s : Service) (t : List (Answered fun _ : Request => Reply)) (a : Except Failure Unit)
      (sent : Path (Client.writeStatus s) t (.done a)) (refused : ∀ m ∈ t, m.2.Fails) :
      Step w (.call ⟨.write s, a⟩) w
  | writeFails (w : Shared) (s : Service) (e : Failure) : Step w (.call ⟨.write s, .error e⟩) w
  | deployment (w : Shared) (key : Key) (r : Except Failure (Option Deployment)) : Step w (.call ⟨.deployment key, r⟩) w
  | clock (w : Shared) (now : Instant) : Step w (.call ⟨.clock, now⟩) w
  | publish (w : Shared) (e : Event) : Step w (.call ⟨.publish e, ()⟩) w
  | forget (w : Shared) (key : Key) : Step w (.call ⟨.forget key, ()⟩) w
  | delay (w : Shared) (key : Key) (d : Duration) : Step w (.call ⟨.delay key, d⟩) w
  | put (w : Shared) (key : Key) (s : Service) (v : String) (hs : s.key? = some key) (hv : v ∉ w.versions key) :
      Step w (.change key) (w.put key s v hs)
  | delete (w : Shared) (key : Key) : Step w (.change key) (w.delete key)

/-! ### what the answers say -/

theorem get?_of_fetch {w w' : Shared} {key : Key} {o : Option Service} (step : Step w (.call ⟨.fetch key, .ok o⟩) w') :
    w' = w ∧ w.store.get? key = o := by
  generalize hm : Moment.call ⟨.fetch key, .ok o⟩ = m at step
  cases step with
  | fetch =>
    cases hm
    exact ⟨rfl, rfl⟩
  | _ => cases hm

/-- A write that succeeds has sent one request, for the object of that key and over the version that the service has,
puts the status that was written into that object, and moves its version on. -/
theorem get?_of_write {w w' : Shared} {key : Key} {d : Service} (step : Step w (.call ⟨.write d, .ok ()⟩) w')
    (hd : d.key? = some key) :
    ∃ r reply old v, Path (Client.writeStatus d) [⟨r, reply⟩] (.done (.ok ())) ∧ r.Writes key ∧
      w.store.get? key = some old ∧
      Store.stale d.metadata.resourceVersion old.metadata.resourceVersion = false ∧
      w'.store.get? key = some ({ old with status := d.status : Service }.withVersion (some v)) := by
  cases step with
  | write _ r reply _ k old v sent writes hold hseen hv =>
    obtain rfl : k = key := Option.some.inj (writes.names.symm.trans ((Client.key?_of_path sent).trans hd))
    rw [Client.version?_of_path sent] at hseen
    refine ⟨r, reply, old, v, sent, writes, hold, hseen, ?_⟩
    show (w.store.set k _).get? k = _
    rw [Store.get?_set, if_pos rfl]
  | writeRefused _ t _ sent refused =>
    obtain ⟨m, hm, welcome⟩ := Client.not_fails_of_path sent
    exact absurd (refused m hm) welcome

/-! ### what a reader knows later -/

/-- The object under `key` is `s`, unchanged. -/
def Held (key : Key) (s : Service) (w : Shared) : Prop := w.store.get? key = some s

/-- The version `v` was there once, and is not there now. -/
def Lost (key : Key) (v : String) (w : Shared) : Prop :=
  v ∈ w.versions key ∧ ∀ x, w.store.get? key = some x → ∃ v', x.metadata.resourceVersion = some v' ∧ v' ≠ v

variable {key : Key} {s : Service} {v : String} {w w' : Shared}

theorem lost_put {k : Key} {x : Service} {v' : String} {hx : x.key? = some k} (hk : v ∈ w.versions key)
    (hf : v' ∉ w.versions k) (h : k = key ∨ Lost key v w) : Lost key v (w.put k x v' hx) := by
  refine ⟨?_, fun y hy => ?_⟩
  · simp only [put]
    split
    · exact List.mem_cons_of_mem _ hk
    · exact hk
  · simp only [put, Store.get?_set] at hy
    split at hy
    · cases hy
      refine ⟨v', rfl, ?_⟩
      rintro rfl
      exact hf (‹key = k› ▸ hk)
    · rcases h with rfl | h
      · exact absurd rfl ‹_›
      · exact h.2 y hy

theorem lost_delete {k : Key} (hk : v ∈ w.versions key) (h : k = key ∨ Lost key v w) : Lost key v (w.delete k) := by
  refine ⟨hk, fun y hy => ?_⟩
  simp only [delete, Store.get?_delete] at hy
  split at hy
  · cases hy
  · rcases h with rfl | h
    · exact absurd rfl ‹_›
    · exact h.2 y hy

theorem Lost.step {m : Moment} (h : Lost key v w) (step : Step w m w') : Lost key v w' := by
  cases step with
  | write s r reply a k old v' sent writes hold hseen hf => exact lost_put h.1 hf (.inr h)
  | put k x v' hx hf => exact lost_put h.1 hf (.inr h)
  | delete k => exact lost_delete h.1 (.inr h)
  | _ => exact h

theorem Lost.course {t : List Moment} (h : Lost key v w) (course : Course Step w t w') : Lost key v w' :=
  course.keeps h fun _ _ _ _ step lost => lost.step step

/-- A put under another key leaves the object alone, one under its own key loses its version. -/
theorem held_or_lost_put {k : Key} {x : Service} {v' : String} {hx : x.key? = some k} (h : Held key s w)
    (known : v ∈ w.versions key) (hf : v' ∉ w.versions k) :
    (Held key s (w.put k x v' hx) ∧ k ≠ key) ∨ Lost key v (w.put k x v' hx) := by
  by_cases hk : k = key
  · exact .inr (lost_put known hf (.inl hk))
  · refine .inl ⟨?_, hk⟩
    unfold Held put
    rw [Store.get?_set, if_neg (Ne.symm hk)]
    exact h

/-- A change or a write of an object loses its version, every other moment leaves the object alone. -/
theorem held_or_lost_of_step {m : Moment} (h : Held key s w) (hv : s.metadata.resourceVersion = some v)
    (step : Step w m w') : (Held key s w' ∧ m ≠ .change key) ∨ Lost key v w' := by
  have known : v ∈ w.versions key := w.known key s v h hv
  cases step with
  | write _ _ _ _ k _ _ _ _ _ _ hf => exact (held_or_lost_put h known hf).imp_left fun held => ⟨held.1, by simp⟩
  | put k x v' hx hf => exact (held_or_lost_put h known hf).imp_left fun held => ⟨held.1, by simpa using held.2⟩
  | delete k =>
    by_cases hk : k = key
    · exact .inr (lost_delete known (.inl hk))
    · refine .inl ⟨?_, by simpa using hk⟩
      unfold Held delete
      rw [Store.get?_delete, if_neg (Ne.symm hk)]
      exact h
  | _ => exact .inl ⟨h, by simp⟩

/-- **What a reader knows later**: either the object is still the one that was read and nobody has changed it in
between, or the version that was read will not be there again. -/
theorem held_or_lost {t : List Moment} (h : Held key s w) (hv : s.metadata.resourceVersion = some v)
    (course : Course Step w t w') : (Held key s w' ∧ .change key ∉ t) ∨ Lost key v w' := by
  induction course with
  | nil w => exact .inl ⟨h, by simp⟩
  | @cons w u w' m t step rest ih =>
    rcases held_or_lost_of_step h hv step with ⟨held, hne⟩ | lost
    · rcases ih held with ⟨held', hnot⟩ | lost'
      · exact .inl ⟨held', by simp [hne.symm, hnot]⟩
      · exact .inr lost'
    · exact .inr (lost.course rest)

theorem Lost.refuses {d : Service} (lost : Lost key v w) (step : Step w (.call ⟨.write d, .ok ()⟩) w')
    (hd : d.key? = some key) (hv : d.metadata.resourceVersion = some v) : False := by
  obtain ⟨-, -, old, -, -, -, hold, hseen, -⟩ := get?_of_write step hd
  obtain ⟨v', hv', hne⟩ := lost.2 old hold
  simp [Store.stale, hv, hv', hne.symm] at hseen

/-- **What a writer knows**: if its write over the version that it read succeeds in the end, the object has been the one
that it read all the time, and nobody has changed it. -/
theorem held_of_write {t t' : List Moment} {u w'' : Shared} {d : Service} (h : Held key s w)
    (hv : s.metadata.resourceVersion = some v) (course : Course Step w t u) (later : Course Step u t' w')
    (write : Step w' (.call ⟨.write d, .ok ()⟩) w'') (hd : d.key? = some key)
    (hdv : d.metadata.resourceVersion = some v) : Held key s u ∧ .change key ∉ t := by
  rcases held_or_lost h hv course with held | lost
  · exact held
  · exact ((lost.course later).refuses write hd hdv).elim

/-- Such a writer has found the same whenever it has read again. -/
theorem found_of_write {t : List Moment} {w'' : Shared} {d : Service} {o : Option Service} (h : Held key s w)
    (hv : s.metadata.resourceVersion = some v) (course : Course Step w t w') (again : .call ⟨.fetch key, .ok o⟩ ∈ t)
    (write : Step w' (.call ⟨.write d, .ok ()⟩) w'') (hd : d.key? = some key)
    (hdv : d.metadata.resourceVersion = some v) : o = some s := by
  obtain ⟨t₁, t₂, rfl⟩ := List.append_of_mem again
  obtain ⟨u, sooner, later⟩ := Course.append_iff.1 course
  obtain ⟨u', step, -⟩ := Course.cons_iff.1 later
  obtain ⟨rfl, found⟩ := get?_of_fetch step
  obtain ⟨held, -⟩ := held_of_write h hv sooner later write hd hdv
  exact found.symm.trans held

end Shared

end ModelServing
