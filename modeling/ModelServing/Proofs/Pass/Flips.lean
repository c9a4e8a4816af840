import Mathlib.Data.List.Chain
import ModelServing.Proofs.Pass.Runs

/-!
# Every flip of readiness is told once

* `Flips a l b` says that a value that was `a` has become `b` through the flips in `l`;
* `flips` are the flips of readiness among events;
* `Served` is what a store does that keeps each status that it is given, `Amid` the same among changes of anything but
  the status by others;
* `flips_of_pass` says that a pass tells the flip between the statuses before and after it, and
  `told_flips_alternate` what follows for a run of passes over one service.
-/

namespace ModelServing

open Prog

/-! ### values that flip -/

/-- A value that was `a` has become `b` through the flips in the list, each to the value that is listed. -/
inductive Flips : Bool → List Bool → Bool → Prop
  | nil (a : Bool) : Flips a [] a
  | cons {a b : Bool} {l : List Bool} (rest : Flips (!a) l b) : Flips a ((!a) :: l) b

namespace Flips

variable {a b c : Bool} {l l' : List Bool}

theorem append (h : Flips a l b) (h' : Flips b l' c) : Flips a (l ++ l') c := by
  induction h with
  | nil a => exact h'
  | cons rest ih => exact .cons (ih h')

theorem head_eq (h : Flips a l b) {x : Bool} (hx : l.head? = some x) : x = !a := by
  cases h with
  | nil => cases hx
  | cons rest => exact (Option.some.inj hx).symm

theorem isChain (h : Flips a l b) : l.IsChain (· ≠ ·) := by
  induction h with
  | nil a => exact .nil
  | @cons a b l rest ih =>
    cases rest with
    | nil => exact .singleton _
    | cons rest' => exact .cons_cons (by simp) ih

theorem count_sub (h : Flips a l b) : (l.count true : Int) - l.count false = b.toInt - a.toInt := by
  induction h with
  | nil a => simp
  | @cons a b l rest ih =>
    cases a with
    | false =>
      simp only [Bool.not_false, Bool.toInt_true, Bool.toInt_false] at ih ⊢
      rw [List.count_cons_self, List.count_cons_of_ne (by decide)]
      omega
    | true =>
      simp only [Bool.not_true, Bool.toInt_true, Bool.toInt_false] at ih ⊢
      rw [List.count_cons_self, List.count_cons_of_ne (by decide)]
      omega

end Flips

/-! ### flips among events -/

/-- What an event says about readiness, if it says anything: whether the service became ready. -/
def Event.flip? (e : Event) : Option Bool :=
  if e.reason = Event.ready then some true else if e.reason = Event.notReady then some false else none

def flips (l : List Event) : List Bool := l.filterMap Event.flip?

@[simp] theorem flips_append (l l' : List Event) : flips (l ++ l') = flips l ++ flips l' := List.filterMap_append

@[simp] theorem flips_failed (r : Reference) (step cause : String) : flips [.failed r step cause] = [] := by
  simp [flips, Event.flip?, Event.failed, Event.internalError, Event.ready, Event.notReady]

@[simp] theorem flips_writeFailed (r : Reference) (name cause : String) : flips [.writeFailed r name cause] = [] := by
  simp [flips, Event.flip?, Event.writeFailed, Event.updateFailed, Event.ready, Event.notReady]

/-- The event of a move of readiness is the flip between both statuses. -/
theorem flips_flipped (r : Reference) (name : String) (old new : Option Status) :
    Flips (Status.isReady old) (flips (Event.flipped? r name (.between old new)).toList) (Status.isReady new) := by
  unfold Transition.between
  cases Status.isReady old with
  | false =>
    cases Status.isReady new with
    | false => exact .nil false
    | true => exact .cons (.nil true)
  | true =>
    cases Status.isReady new with
    | false => exact .cons (.nil false)
    | true => exact .nil true

/-! ### a store that keeps each status -/

/-- The stored status. -/
def Store.status? (st : Store) (key : Key) : Option Status := (st.get? key).bind (·.status)

namespace Pass

/-- **What the store does.** A read gives the stored service, or fails. A write that succeeds stores the status that it
carries, one that fails stores nothing. Reconcilers leave any service that has the key of the one that they were
given. -/
inductive Served : Store → Answered Call.Answer → Store → Prop
  | fetch (w : Store) (key : Key) : Served w ⟨.fetch key, .ok (w.get? key)⟩ w
  | fetchFails (w : Store) (key : Key) (e : Failure) : Served w ⟨.fetch key, .error e⟩ w
  | write (w : Store) (d : Service) (key : Key) (old : Service) (v : Option String) (hd : d.key? = some key)
      (hold : w.get? key = some old) :
      Served w ⟨.write d, .ok ()⟩ (w.set key ({ old with status := d.status : Service }.withVersion v))
  | writeFails (w : Store) (d : Service) (e : Failure) : Served w ⟨.write d, .error e⟩ w
  | component (w : Store) (k : Kind) (s : Service) (rev : Revision) (same : rev.service.key? = s.key?) :
      Served w ⟨.component k s, rev⟩ w
  | ingress (w : Store) (s : Service) (rev : Revision) (same : rev.service.key? = s.key?) :
      Served w ⟨.ingress s, rev⟩ w
  | publish (w : Store) (e : Event) : Served w ⟨.publish e, ()⟩ w
  | forget (w : Store) (key : Key) : Served w ⟨.forget key, ()⟩ w
  | delay (w : Store) (key : Key) (d : Duration) : Served w ⟨.delay key, d⟩ w

/-- What others may have done to a store: anything, except that the status under `key` is still the same. -/
structure Others (key : Key) (w w' : Store) : Prop where
  status : w'.status? key = w.status? key
  keyed : w.Keyed → w'.Keyed

theorem Others.rfl {key : Key} {w : Store} : Others key w w := ⟨Eq.refl _, id⟩

/-- The store answers a call, with changes by others before and after. -/
def Amid (key : Key) (w : Store) (m : Answered Call.Answer) (w' : Store) : Prop :=
  ∃ v v', Others key w v ∧ Served v m v' ∧ Others key v' w'

section Amid

variable {key : Key} {w w' : Store} {m : Answered Call.Answer} {t : List (Answered Call.Answer)}

theorem Served.keeps (h : Served w m w') : Call.KeepsKey m := by
  cases h with
  | component _ _ _ same => exact same
  | ingress _ _ same => exact same
  | _ => trivial

theorem Served.keyed (h : Served w m w') (keyed : w.Keyed) : w'.Keyed := by
  cases h with
  | write d k old v hd hold => exact keyed.set (keyed k old hold)
  | _ => exact keyed

theorem Served.eq_self (h : Served w m w') (hm : ∀ d, m ≠ ⟨.write d, .ok ()⟩) : w' = w := by
  cases h with
  | write d => exact absurd rfl (hm d)
  | _ => rfl

theorem Amid.keyed (h : Amid key w m w') (keyed : w.Keyed) : w'.Keyed := by
  obtain ⟨v, v', before, served, after⟩ := h
  exact after.keyed (served.keyed (before.keyed keyed))

theorem keyed_of_course (course : Course (Amid key) w t w') (keyed : w.Keyed) : w'.Keyed :=
  course.keeps keyed fun _ _ _ _ h => h.keyed

theorem keeps_of_course (course : Course (Amid key) w t w') : ∀ m ∈ t, Call.KeepsKey m := by
  induction course with
  | nil => simp
  | cons h rest ih =>
    obtain ⟨v, v', -, served, -⟩ := h
    exact List.forall_mem_cons.2 ⟨served.keeps, ih⟩

/-- Nothing but a write that succeeds changes the status. -/
theorem status_of_course (course : Course (Amid key) w t w') (ht : ∀ d, ⟨.write d, .ok ()⟩ ∉ t) :
    w'.status? key = w.status? key := by
  refine course.keeps (I := fun u => u.status? key = w.status? key) rfl fun m hm u u' h hu => ?_
  obtain ⟨v, v', before, served, after⟩ := h
  have same : v' = v := served.eq_self fun d hd => ht d (hd ▸ hm)
  rw [after.status, same, before.status, hu]

theorem Served.found {o : Option Service} (h : Served w ⟨.fetch key, .ok o⟩ w') : w' = w ∧ w.get? key = o := by
  generalize hm : (⟨.fetch key, .ok o⟩ : Answered Call.Answer) = m at h
  cases h with
  | fetch =>
    cases hm
    exact ⟨rfl, rfl⟩
  | _ => cases hm

theorem status_of_fetch {s : Service} (h : Amid key w ⟨.fetch key, .ok (some s)⟩ w') (keyed : w.Keyed) :
    s.key? = some key ∧ s.status = w.status? key ∧ w'.status? key = w.status? key := by
  obtain ⟨v, v', before, served, after⟩ := h
  obtain ⟨rfl, found⟩ := served.found
  have status : v'.status? key = s.status := by
    unfold Store.status?
    rw [found]
    rfl
  exact ⟨before.keyed keyed key s found, by rw [← before.status, status], by rw [after.status, before.status]⟩

theorem status_of_write {d : Service} (h : Amid key w ⟨.write d, .ok ()⟩ w') (hd : d.key? = some key) :
    w'.status? key = d.status := by
  obtain ⟨v, v', before, served, after⟩ := h
  rw [after.status]
  cases served with
  | write _ k old v hd' hold =>
    obtain rfl : k = key := Option.some.inj (hd'.symm.trans hd)
    unfold Store.status?
    rw [Store.get?_set, if_pos rfl]
    rfl

end Amid

/-! ### passes -/

/-- A pass over such a store. -/
def Passes (key : Key) (w : Store) (a : Account) (w' : Store) : Prop :=
  Path (reconcileKey key) a.calls (.done a.result) ∧ Course (Amid key) w a.calls w'

section Passes

variable {key : Key} {w w' : Store}

theorem flips_of_silent {t : List (Answered Call.Answer)} (course : Course (Amid key) w t w')
    (ht : ∀ d, ⟨.write d, .ok ()⟩ ∉ t) (silent : flips (told t) = []) :
    Flips (Status.isReady (w.status? key)) (flips (told t)) (Status.isReady (w'.status? key)) := by
  rw [status_of_course course ht, silent]
  exact .nil _

/-- **A pass tells the flip** between the status that was stored before it and the one that is stored after it. -/
theorem flips_of_pass {a : Account} (h : Passes key w a w') (keyed : w.Keyed) :
    Flips (Status.isReady (w.status? key)) (flips (told a.calls)) (Status.isReady (w'.status? key)) := by
  obtain ⟨calls, result⟩ := a
  obtain ⟨path, course⟩ := h
  dsimp only at path course ⊢
  cases runs_of_path path with
  | unread => exact flips_of_silent course (by simp) rfl
  | absent => exact flips_of_silent course (by simp) rfl
  | stopped worked =>
    refine flips_of_silent course ((runs_of_path path).no_write rfl) ?_
    obtain ⟨step, cause, failed⟩ := told_of_path_reconcilers_error worked
    rw [told_fetch, failed, flips_failed]
  | @committed s d t u c worked commits =>
    obtain ⟨silent, kept⟩ := told_of_path_reconcilers worked
    have inner : ∀ x, ⟨.write x, .ok ()⟩ ∉ t := fun x hx => inner_of_path_reconcilers worked _ hx
    cases commits with
    | unread =>
      refine flips_of_silent course (by simp [inner]) ?_
      simp [silent, flips]
    | gone =>
      refine flips_of_silent course (by simp [inner]) ?_
      simp [silent, flips]
    | unchanged same =>
      refine flips_of_silent course (by simp [inner]) ?_
      simp [silent, flips]
    | refused differs =>
      refine flips_of_silent course (by simp [inner, telling]) ?_
      simp [silent]
    | @written stored differs =>
      -- first read, reconcilers, second read, write, and what is told of it
      obtain ⟨w₂, upto, onwards⟩ := Course.append_iff.1 course
      obtain ⟨w₁, first, between⟩ := Course.cons_iff.1 upto
      obtain ⟨w₃, second, writing⟩ := Course.cons_iff.1 onwards
      obtain ⟨w₄, write, telling'⟩ := Course.cons_iff.1 writing
      have keyed₂ : w₂.Keyed := keyed_of_course upto keyed
      obtain ⟨hid, -, since₁⟩ := status_of_fetch first keyed
      have since₂ : w₂.status? key = w₁.status? key := status_of_course between inner
      obtain ⟨-, found, -⟩ := status_of_fetch second keyed₂
      have hd : d.key? = some key := (kept (keeps_of_course between)).trans hid
      have now : w₄.status? key = d.status := status_of_write write hd
      have later : w'.status? key = w₄.status? key := status_of_course telling' (by simp [telling])
      have events : told (⟨.fetch key, .ok (some s)⟩ :: t ++ ⟨.fetch key, .ok (some stored)⟩ :: ⟨.write d, .ok ()⟩ ::
          telling (Event.flipped? d.reference d.name (.between stored.status d.status)).toList) =
          (Event.flipped? d.reference d.name (.between stored.status d.status)).toList := by
        simp [silent]
      rw [events, later, now, ← since₁, ← since₂, ← found]
      exact flips_flipped _ _ _ _

def toldBy (run : List Account) : List Event := run.flatMap fun a => told a.calls

theorem flips_of_run {run : List Account} (course : Course (Passes key) w run w') (keyed : w.Keyed) :
    w'.Keyed ∧ Flips (Status.isReady (w.status? key)) (flips (toldBy run)) (Status.isReady (w'.status? key)) := by
  induction course with
  | nil w => exact ⟨keyed, .nil _⟩
  | @cons w v w' a run h rest ih =>
    obtain ⟨keyed', later⟩ := ih (keyed_of_course h.2 keyed)
    refine ⟨keyed', ?_⟩
    show Flips _ (flips (told a.calls ++ toldBy run)) _
    rw [flips_append]
    exact (flips_of_pass h keyed).append later

/-- **Every flip of readiness is told once.** However often reads, writes and reconcilers of the passes over a service
fail, and whatever others do to all but its status: ready and not ready are told in turn, ready first if the service was
not ready at the start, and after any number of passes the service has been told to be ready once more than not ready if
it has become ready, once less if it has ceased to be, and as often if it is as at the start. -/
theorem told_flips_alternate {v : Store} {run rest : List Account} (keyed : w.Keyed)
    (course : Course (Passes key) w run v) (further : Course (Passes key) v rest w') :
    (flips (toldBy (run ++ rest))).IsChain (· ≠ ·) ∧
      (∀ x, (flips (toldBy (run ++ rest))).head? = some x → (x = true ↔ Status.isReady (w.status? key) = false)) ∧
      ((flips (toldBy run)).count true : Int) - (flips (toldBy run)).count false =
        (Status.isReady (v.status? key)).toInt - (Status.isReady (w.status? key)).toInt := by
  have whole := (flips_of_run (Course.append_iff.2 ⟨v, course, further⟩) keyed).2
  refine ⟨whole.isChain, fun x hx => ?_, (flips_of_run course keyed).2.count_sub⟩
  rw [whole.head_eq hx]
  simp

end Passes

namespace Shop

/-- A pass over the shop that reads `s` and means to leave the status `st`, up to its write. -/
def visit (s : Service) (st : Status) : List (Answered Call.Answer) :=
  [⟨.fetch key, .ok (some s)⟩, ⟨.component .predictor s, ⟨s, none⟩⟩, ⟨.component .explainer s, ⟨s, none⟩⟩,
    ⟨.ingress s, ⟨s.withStatus st, none⟩⟩, ⟨.fetch key, .ok (some s)⟩]

def lostRace : Failure := .client (.refused .modified)

/-- The shop closes; then a write is refused. -/
def week : List Account :=
  [⟨visit (service was) (settled was) ++ [⟨.write next, .ok ()⟩, ⟨.publish notReady, ()⟩], .ok .awaitChange⟩,
    ⟨visit next {} ++ [⟨.write (next.withStatus {}), .error lostRace⟩,
      ⟨.publish (.writeFailed next.reference "fraud" lostRace.message), ()⟩], .error (.statusWrite "fraud" lostRace)⟩]

def monday : Account :=
  ⟨visit next was ++ [⟨.write (next.withStatus was), .ok ()⟩,
    ⟨.publish ⟨.normal, Event.ready, Event.updateStatus, some "InferenceService [fraud] is Ready", next.reference⟩, ()⟩],
    .ok .awaitChange⟩

end Shop

/-- Within a week and a day the shop is told to be not ready once, and then ready. -/
theorem told_flips_alternate_shop :
    let opened : Store := ({} : Store).set Shop.key (Shop.service Shop.was)
    let closed : Store := opened.set Shop.key Shop.next
    opened.Keyed ∧ Course (Passes Shop.key) opened Shop.week closed ∧
      Course (Passes Shop.key) closed [Shop.monday] (closed.set Shop.key (Shop.next.withStatus Shop.was)) ∧
      flips (toldBy (Shop.week ++ [Shop.monday])) = [false, true] ∧
      (flips (toldBy (Shop.week ++ [Shop.monday]))).IsChain (· ≠ ·) ∧
      ((flips (toldBy Shop.week)).count true : Int) - (flips (toldBy Shop.week)).count false = -1 := by
  intro opened closed
  have keyed : opened.Keyed := by
    refine Store.Keyed.set ?_ rfl
    intro key s h
    cases h
  have alone {w m w'} (served : Served w m w') : Amid Shop.key w m w' := ⟨w, w', .rfl, served, .rfl⟩
  have visits (w : Store) (s : Service) (st : Status) (stored : w.get? Shop.key = some s) :
      Course (Amid Shop.key) w (Shop.visit s st) w := by
    have read : Amid Shop.key w ⟨.fetch Shop.key, .ok (some s)⟩ w := alone (stored ▸ .fetch w Shop.key)
    exact .cons read (.cons (alone (.component _ _ _ _ rfl)) (.cons (alone (.component _ _ _ _ rfl))
      (.cons (alone (.ingress _ _ _ rfl)) (.cons read (.nil _)))))
  have course : Course (Passes Shop.key) opened Shop.week closed :=
    .cons ⟨.cons (.cons (.cons (.cons (.cons (.cons (.cons (.nil _))))))),
        Course.append_iff.2 ⟨_, visits opened (Shop.service Shop.was) _ rfl,
          .cons (alone (.write _ _ Shop.key (Shop.service Shop.was) (some "7") rfl rfl))
            (.cons (alone (.publish _ _)) (.nil _))⟩⟩
      (.cons ⟨.cons (.cons (.cons (.cons (.cons (.cons (.cons (.nil _))))))),
          Course.append_iff.2 ⟨_, visits closed Shop.next _ rfl,
            .cons (alone (.writeFails _ _ _)) (.cons (alone (.publish _ _)) (.nil _))⟩⟩ (.nil _))
  have further : Course (Passes Shop.key) closed [Shop.monday]
      (closed.set Shop.key (Shop.next.withStatus Shop.was)) :=
    .cons ⟨.cons (.cons (.cons (.cons (.cons (.cons (.cons (.nil _))))))),
        Course.append_iff.2 ⟨_, visits closed Shop.next _ rfl,
          .cons (alone (.write _ _ Shop.key Shop.next (some "7") rfl rfl)) (.cons (alone (.publish _ _)) (.nil _))⟩⟩
      (.nil _)
  obtain ⟨alternate, -, gained⟩ := told_flips_alternate keyed course further
  exact ⟨keyed, course, further, by decide, alternate, gained⟩

end Pass

end ModelServing
