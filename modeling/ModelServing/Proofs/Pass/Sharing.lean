import Mathlib.Data.List.Perm.Basic
import Mathlib.Logic.Function.Basic
import ModelServing.Proofs.Pass.Contention

/-!
# What passes share

Passes for different keys share a store and the counts of failures, and their calls may come in any order.

* `Setting` is what does not depend on that order, `Site` what the passes share, `Step` what a call does to it;
* `Together` is a run of passes side by side, `OneByOne` a run of one after the other, and `Agrees` says that the latter
  does what the former did;
* `OneByOne.together` says that the latter is one way to be side by side, `exists_oneByOne` that it always is possible.
-/

namespace ModelServing

open Prog

namespace Service

/-- The service without its version. -/
def unversioned (s : Service) : Service := s.withVersion none

/-- The service with another status and another version. -/
def revised (s : Service) (status : Option Status) (v : Option String) : Service :=
  { s with status := status : Service }.withVersion v

@[simp] theorem key?_revised (s : Service) (status : Option Status) (v : Option String) :
    (s.revised status v).key? = s.key? := rfl

end Service

namespace Pass

/-! ### what passes share -/

/-- What depends on the key, the workload or the pass alone: the answers to looks, the failures of the store to read
and to write a service, and the readings of the clock of each pass, in order. -/
structure Setting where
  look : Lookup
  unreadable : Key → Option Failure
  unwritable : Key → Option Failure
  clock : Key → Nat → Instant

/-- What passes share, every service standing under its own key, and how often the pass of each key has read its
clock. -/
structure Site where
  store : Store
  keyed : store.Keyed
  backoff : Backoff
  readings : Key → Nat

namespace Site

def put (w : Site) (key : Key) (s : Service) (hs : s.key? = some key) : Site :=
  { w with store := w.store.set key s, keyed := w.keyed.set hs }

def forget (w : Site) (key : Key) : Site := { w with backoff := w.backoff.forget key }

def record (w : Site) (key : Key) : Site := { w with backoff := w.backoff.record key }

def tick (w : Site) (key : Key) : Site := { w with readings := Function.update w.readings key (w.readings key + 1) }

end Site

/-- A call that is answered, and the key of the pass whose call it is. -/
abbrev Turn : Type := Key × Answered Effect.Answer

/-- The calls of the pass for `key`. -/
def Turn.calls (key : Key) (t : List Turn) : List (Answered Effect.Answer) :=
  t.filterMap fun x => if x.1 = key then some x.2 else none

/-- Why the status of `d` is not stored, if it is not. -/
def Setting.refusal? (c : Setting) (st : Store) (d : Service) : Option Failure :=
  match d.key? with
  | none => some (.unscoped d.name)
  | some key =>
    match c.unwritable key, st.write d with
    | some e, _ => some e
    | none, .error e => some e
    | none, .ok _ => none

/-- **What a call does.** A status that is stored moves the version of its service on to anything. -/
inductive Step (c : Setting) : Site → Turn → Site → Prop
  | fetch (w : Site) (who key : Key) (h : c.unreadable key = none) :
      Step c w (who, ⟨.fetch key, .ok (w.store.get? key)⟩) w
  | fetchFails (w : Site) (who key : Key) (e : Failure) (h : c.unreadable key = some e) :
      Step c w (who, ⟨.fetch key, .error e⟩) w
  | write (w : Site) (who : Key) (d : Service) (key : Key) (old : Service) (v : Option String)
      (h : c.refusal? w.store d = none) (hd : d.key? = some key) (hold : w.store.get? key = some old) :
      Step c w (who, ⟨.write d, .ok ()⟩)
        (w.put key (old.revised d.status v) ((old.key?_revised _ _).trans (w.keyed key old hold)))
  | writeFails (w : Site) (who : Key) (d : Service) (e : Failure) (h : c.refusal? w.store d = some e) :
      Step c w (who, ⟨.write d, .error e⟩) w
  | deployment (w : Site) (who key : Key) : Step c w (who, ⟨.deployment key, c.look key⟩) w
  | clock (w : Site) (who : Key) : Step c w (who, ⟨.clock, c.clock who (w.readings who)⟩) (w.tick who)
  | publish (w : Site) (who : Key) (e : Event) : Step c w (who, ⟨.publish e, ()⟩) w
  | forget (w : Site) (who key : Key) : Step c w (who, ⟨.forget key, ()⟩) (w.forget key)
  | delay (w : Site) (who key : Key) : Step c w (who, ⟨.delay key, (w.backoff.next key).1⟩) (w.record key)

/-! ### runs side by side, and one by one -/

section Runs

variable {α : Type}

/-- The passes `p` of the keys, side by side: each of them is run to its end, with the result `r`. -/
structure Together (c : Setting) (p : Key → Prog Effect Effect.Answer α) (keys : List Key) (w : Site) (t : List Turn)
    (r : Key → α) (w' : Site) : Prop where
  course : Course (Step c) w t w'
  own : ∀ x ∈ t, x.1 ∈ keys
  ends : ∀ key ∈ keys, Path (p key) (Turn.calls key t) (.done (r key))

/-- The passes of the keys, one after the other in the order of the list. -/
inductive OneByOne (c : Setting) (p : Key → Prog Effect Effect.Answer α) (r : Key → α) :
    List Key → Site → List Turn → Site → Prop
  | nil (w : Site) : OneByOne c p r [] w [] w
  | cons {key : Key} {keys : List Key} {w v w' : Site} {u : List (Answered Effect.Answer)} {t : List Turn}
      (path : Path (p key) u (.done (r key))) (course : Course (Step c) w (u.map (Prod.mk key)) v)
      (rest : OneByOne c p r keys v t w') : OneByOne c p r (key :: keys) w (u.map (Prod.mk key) ++ t) w'

end Runs

namespace Turn

variable {key : Key} {t t' : List Turn} {u : List (Answered Effect.Answer)}

@[simp] theorem calls_append : calls key (t ++ t') = calls key t ++ calls key t' := List.filterMap_append

@[simp] theorem calls_own {m : Answered Effect.Answer} : calls key ((key, m) :: t) = m :: calls key t := by
  simp [calls]

theorem calls_other {x : Turn} (h : x.1 ≠ key) : calls key (x :: t) = calls key t := by
  simp [calls, h]

@[simp] theorem calls_map_own : calls key (u.map (Prod.mk key)) = u := by
  induction u with
  | nil => rfl
  | cons m u ih => rw [List.map_cons, calls_own, ih]

theorem calls_eq_nil (h : ∀ x ∈ t, x.1 ≠ key) : calls key t = [] := by
  unfold calls
  rw [List.filterMap_eq_nil_iff]
  exact fun x hx => if_neg (h x hx)

theorem mem_calls_iff {m : Answered Effect.Answer} : m ∈ calls key t ↔ (key, m) ∈ t := by
  unfold calls
  rw [List.mem_filterMap]
  constructor
  · rintro ⟨⟨who, m'⟩, hx, h⟩
    dsimp only at h
    split at h
    · cases h
      exact ‹who = key› ▸ hx
    · cases h
  · intro h
    exact ⟨_, h, if_pos rfl⟩

end Turn

/-- The passes of a run from `w` to `w'`, with the calls `t` and the results `r`, can run one by one in that order, too,
and whenever they do, each of them has the same result and tells the same events, the services that are stored in the
end are the same but for their versions, and so are the counts of failures. -/
structure Agrees {α : Type} (c : Setting) (p : Key → Prog Effect Effect.Answer α) (keys order : List Key) (w : Site)
    (t : List Turn) (r : Key → α) (w' : Site) : Prop where
  possible : ∃ r' t' w'', OneByOne c p r' order w t' w''
  results : ∀ {r' t' w''}, OneByOne c p r' order w t' w'' → ∀ key ∈ keys, r' key = r key
  events : ∀ {r' t' w''}, OneByOne c p r' order w t' w'' →
    ∀ key ∈ keys, published (Turn.calls key t') = published (Turn.calls key t)
  stored : ∀ {r' t' w''}, OneByOne c p r' order w t' w'' →
    ∀ key, (w''.store.get? key).map Service.unversioned = (w'.store.get? key).map Service.unversioned
  counts : ∀ {r' t' w''}, OneByOne c p r' order w t' w'' →
    ∀ key, w''.backoff.counts.get? key = w'.backoff.counts.get? key

/-! ### one by one -/

section OneByOne

variable {α : Type} {c : Setting} {p : Key → Prog Effect Effect.Answer α} {keys : List Key} {w w' : Site}
  {t : List Turn} {r r' : Key → α}

/-- **One by one is one way to be side by side.** -/
theorem OneByOne.together (run : OneByOne c p r keys w t w') (different : keys.Nodup) : Together c p keys w t r w' := by
  induction run with
  | nil w => exact ⟨.nil w, by simp, by simp⟩
  | @cons key keys w v w' u t path course rest ih =>
    obtain ⟨fresh, different⟩ := List.nodup_cons.1 different
    obtain ⟨later, own, ends⟩ := ih different
    have mine : ∀ x ∈ u.map (Prod.mk key), x.1 = key := by
      intro x hx
      obtain ⟨m, -, rfl⟩ := List.mem_map.1 hx
      rfl
    -- the later passes make no calls for the first key, and the first one makes none for theirs
    refine ⟨Course.append_iff.2 ⟨v, course, later⟩, ?_, ?_⟩
    · intro x hx
      rcases List.mem_append.1 hx with hx | hx
      · exact mine x hx ▸ List.mem_cons_self
      · exact List.mem_cons_of_mem _ (own x hx)
    · intro k hk
      rw [Turn.calls_append]
      rcases List.mem_cons.1 hk with rfl | hk
      · have none : Turn.calls k t = [] := Turn.calls_eq_nil fun x hx h => fresh (h ▸ own x hx)
        rw [Turn.calls_map_own, none, List.append_nil]
        exact path
      · have none : Turn.calls k (u.map (Prod.mk key)) = [] :=
          Turn.calls_eq_nil fun x hx h => fresh ((mine x hx).symm.trans h ▸ hk)
        rw [none, List.nil_append]
        exact ends k hk

theorem OneByOne.congr (run : OneByOne c p r keys w t w') (same : ∀ key ∈ keys, r' key = r key) :
    OneByOne c p r' keys w t w' := by
  induction run with
  | nil w => exact .nil w
  | cons path course rest ih =>
    obtain ⟨first, others⟩ := List.forall_mem_cons.1 same
    exact .cons (first ▸ path) course (ih others)

theorem exists_step (c : Setting) (w : Site) (who : Key) (e : Effect) : ∃ a w', Step c w (who, ⟨e, a⟩) w' := by
  cases e with
  | fetch k =>
    cases h : c.unreadable k with
    | none => exact ⟨_, _, .fetch w who k h⟩
    | some e => exact ⟨_, _, .fetchFails w who k e h⟩
  | write d =>
    cases h : c.refusal? w.store d with
    | some e => exact ⟨_, _, .writeFails w who d e h⟩
    | none =>
      obtain ⟨k, hd, old, hold⟩ : ∃ k, d.key? = some k ∧ ∃ old, w.store.get? k = some old := by
        unfold Setting.refusal? at h
        split at h
        · cases h
        · split at h
          · cases h
          · cases h
          · obtain ⟨k, old, hk, hold, -⟩ := Store.get?_write ‹w.store.write d = .ok _›
            exact ⟨k, hk, old, hold⟩
      exact ⟨_, _, .write w who d k old none h hd hold⟩
  | deployment k => exact ⟨_, _, .deployment w who k⟩
  | clock => exact ⟨_, _, .clock w who⟩
  | publish e => exact ⟨_, _, .publish w who e⟩
  | forget k => exact ⟨_, _, .forget w who k⟩
  | delay k => exact ⟨_, _, .delay w who k⟩

theorem exists_run (c : Setting) (who : Key) (q : Prog Effect Effect.Answer α) (w : Site) :
    ∃ u a w', Path q u (.done a) ∧ Course (Step c) w (u.map (Prod.mk who)) w' := by
  induction q generalizing w with
  | done a => exact ⟨[], a, w, .nil _, .nil _⟩
  | ask e next ih =>
    obtain ⟨a, v, step⟩ := exists_step c w who e
    obtain ⟨u, b, w', path, course⟩ := ih a v
    exact ⟨⟨e, a⟩ :: u, b, w', .cons path, .cons step course⟩

theorem exists_oneByOne (c : Setting) (p : Key → Prog Effect Effect.Answer α) (r : Key → α) (different : keys.Nodup)
    (w : Site) : ∃ r' t w', OneByOne c p r' keys w t w' := by
  induction keys generalizing w with
  | nil => exact ⟨r, [], w, .nil w⟩
  | cons key keys ih =>
    obtain ⟨fresh, different⟩ := List.nodup_cons.1 different
    obtain ⟨u, a, v, path, course⟩ := exists_run c key (p key) w
    obtain ⟨r', t, w', rest⟩ := ih different v
    -- the key is not among the later ones, so that its result can be set aside
    have others : OneByOne c p (Function.update r' key a) keys v t w' := by
      refine rest.congr fun k hk => ?_
      have other : k ≠ key := fun h => fresh (h ▸ hk)
      exact Function.update_of_ne other _ _
    exact ⟨Function.update r' key a, _, w', .cons (by rwa [Function.update_self]) course others⟩

end OneByOne

end Pass

end ModelServing
