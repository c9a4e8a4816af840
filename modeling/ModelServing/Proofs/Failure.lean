import ModelServing.Proofs.Pass.Steps

/-!
# Which failures are tried again

A failure may be wrapped any number of times in the steps that it stopped.

* `Failure.root` is the failure inside all wrappers, and `Failure.Lasting` says that trying again does not help;
* `retryable_root` and `retryable_eq_false_iff` say that the root alone decides whether a failure is tried again;
* `Failure.Refused` is a refusal of the cluster inside failed writes of statuses, and `hasCode_iff` says that only there
  its code is seen;
* `path_errorPolicy_iff` lists the runs of the decision after a failure;
* `retried_iff_retryable` is all of this together.
-/

namespace ModelServing

open Prog

theorem Refusal.retryable_eq_false_iff {r : Refusal} :
    r.retryable = false ↔ (400 ≤ r.code ∧ r.code ≤ 499) ∧ r.code ≠ 409 ∧ r.code ≠ 429 := by
  simp only [retryable, Bool.or_eq_false_iff, beq_eq_false_iff_ne, Bool.not_eq_false', Bool.and_eq_true,
    decide_eq_true_eq]
  omega

namespace Failure

/-- The failure inside all wrappers. -/
def root : Failure → Failure
  | component _ cause | ingress cause | statusWrite _ cause => cause.root
  | e => e

/-- Trying again does not help: something is not acceptable, or the cluster blames the request, and neither for a lost
race nor for its haste. -/
inductive Lasting : Failure → Prop
  | invalid (service message : String) : Lasting (.invalid service message)
  | refused (r : Refusal) (blamed : 400 ≤ r.code ∧ r.code ≤ 499) (race : r.code ≠ 409) (haste : r.code ≠ 429) :
      Lasting (.client (.refused r))

/-- The cluster refused with the code, directly or when statuses were written. -/
inductive Refused (code : Nat) : Failure → Prop
  | directly (r : Refusal) (h : r.code = code) : Refused code (.client (.refused r))
  | writing (service : String) {e : Failure} (h : Refused code e) : Refused code (.statusWrite service e)

variable {e : Failure} {code code' : Nat}

/-! ### the root -/

/-- **The root alone decides whether a failure is tried again.** -/
theorem retryable_root (e : Failure) : e.root.retryable = e.retryable := by
  induction e with
  | component _ _ ih | ingress _ ih | statusWrite _ _ ih => exact ih
  | client | invalid | internal => rfl

theorem retryable_eq_false_iff : e.retryable = false ↔ e.root.Lasting := by
  induction e with
  | component _ _ ih | ingress _ ih | statusWrite _ _ ih => exact ih
  | invalid service message => exact ⟨fun _ => .invalid service message, fun _ => rfl⟩
  | internal => exact ⟨nofun, nofun⟩
  | client c =>
    cases c with
    | refused r =>
      constructor
      · intro h
        obtain ⟨blamed, race, haste⟩ := Refusal.retryable_eq_false_iff.1 h
        exact .refused r blamed race haste
      · intro h
        cases h with
        | refused _ blamed race haste => exact Refusal.retryable_eq_false_iff.2 ⟨blamed, race, haste⟩
    | _ => exact ⟨nofun, nofun⟩

/-! ### codes of refusals -/

/-- **The code of a refusal is seen through failed writes of statuses, and through nothing else.** -/
theorem hasCode_iff : e.hasCode code = true ↔ e.Refused code := by
  constructor
  · intro h
    induction e with
    | statusWrite service _ ih => exact .writing service (ih h)
    | client c =>
      cases c with
      | refused r => exact .directly r (beq_iff_eq.1 h)
      | _ => cases h
    | _ => cases h
  · intro h
    induction h with
    | directly r h => exact beq_iff_eq.2 h
    | writing _ _ ih => exact ih

theorem Refused.exists_root (h : e.Refused code) : ∃ r, r.code = code ∧ e.root = .client (.refused r) := by
  induction h with
  | directly r h => exact ⟨r, h, rfl⟩
  | writing _ _ ih => exact ih

theorem Refused.retryable_eq (h : e.Refused code) (r : Refusal) (hr : r.code = code) : e.retryable = r.retryable := by
  obtain ⟨r', hr', hroot⟩ := h.exists_root
  rw [← retryable_root, hroot]
  show r'.retryable = r.retryable
  unfold Refusal.retryable
  rw [hr', hr]

theorem Refused.code_inj (h : e.Refused code) (h' : e.Refused code') : code = code' := by
  obtain ⟨r, rfl, hroot⟩ := h.exists_root
  obtain ⟨r', rfl, hroot'⟩ := h'.exists_root
  rw [hroot] at hroot'
  cases hroot'
  rfl

/-! ### the decision -/

theorem retryable_of_notFound (h : e.notFound = true) : e.retryable = false :=
  (hasCode_iff.1 h).retryable_eq (Refusal.absent "" "") rfl

theorem retryable_of_conflict (h : e.conflict = true) : e.retryable = true :=
  (hasCode_iff.1 h).retryable_eq Refusal.modified rfl

end Failure

namespace Pass

variable {seen : Service} {e : Failure} {key : Key} {t : List (Answered Call.Answer)} {a : Action}

/-- **The runs of the decision after a failure**: what may be tried again is put back, and nothing else is. -/
theorem path_errorPolicy_iff (hid : seen.key? = some key) :
    Path (errorPolicy seen e) t (.done a) ↔
      (e.retryable = true ∧ ∃ d, t = [⟨.delay key, d⟩] ∧ a = .requeue d) ∨
      (e.retryable = false ∧ t = (if e.notFound then [⟨.forget key, ()⟩] else []) ∧ a = .awaitChange) := by
  unfold errorPolicy
  rw [hid]
  dsimp only
  cases gone : e.notFound with
  | true =>
    -- what is not found is not to be tried again either
    rw [if_pos rfl, if_pos rfl, Failure.retryable_of_notFound gone, path_ask_done_iff]
    constructor
    · rintro ⟨⟨⟩, t', rfl, h⟩
      obtain ⟨rfl, ha⟩ := path_done_iff.1 h
      exact .inr ⟨rfl, rfl, Prog.done.inj ha⟩
    · rintro (⟨h, -⟩ | ⟨-, rfl, rfl⟩)
      · cases h
      · exact ⟨(), [], rfl, .nil _⟩
  | false =>
    rw [if_neg Bool.false_ne_true, if_neg Bool.false_ne_true]
    cases passing : e.retryable with
    | true =>
      rw [if_pos rfl, path_ask_done_iff]
      constructor
      · rintro ⟨d, t', rfl, h⟩
        obtain ⟨rfl, ha⟩ := path_done_iff.1 h
        exact .inl ⟨rfl, d, rfl, Prog.done.inj ha⟩
      · rintro (⟨-, d, rfl, rfl⟩ | ⟨h, -⟩)
        · exact ⟨d, [], rfl, .nil _⟩
        · cases h
    | false =>
      rw [if_neg Bool.false_ne_true, path_done_iff]
      constructor
      · rintro ⟨rfl, ha⟩
        exact .inr ⟨rfl, rfl, Prog.done.inj ha⟩
      · rintro (⟨h, -⟩ | ⟨-, rfl, rfl⟩)
        · cases h
        · exact ⟨rfl, rfl⟩

/-- **Which failures are tried again.** However a failure is wrapped, its root alone decides whether it is tried again:
it is not just if trying again does not help at its root. It counts as not found, or as a conflict, just if the cluster
refused with that code, directly or when statuses were written; what is not found is never to be tried again, a conflict
always is, and no failure is both. So what is put back after a delay is just what may be tried again, and nothing of
that is taken for a service that is gone. -/
theorem retried_iff_retryable (e : Failure) :
    ((∀ e' : Failure, e'.root = e.root → e'.retryable = e.retryable) ∧ (e.retryable = false ↔ e.root.Lasting)) ∧
    ((e.notFound = true ↔ e.Refused 404) ∧ (e.conflict = true ↔ e.Refused 409)) ∧
    ((e.notFound = true → e.retryable = false) ∧ (e.conflict = true → e.retryable = true) ∧
      ¬ (e.notFound = true ∧ e.conflict = true)) ∧
    ∀ seen key, seen.key? = some key → ∀ t a, Path (errorPolicy seen e) t (.done a) ↔
      (e.retryable = true ∧ ∃ d, t = [⟨.delay key, d⟩] ∧ a = .requeue d) ∨
      (e.retryable = false ∧ t = (if e.notFound then [⟨.forget key, ()⟩] else []) ∧ a = .awaitChange) := by
  refine ⟨⟨fun e' same => ?_, Failure.retryable_eq_false_iff⟩, ⟨Failure.hasCode_iff, Failure.hasCode_iff⟩,
    ⟨Failure.retryable_of_notFound, Failure.retryable_of_conflict, ?_⟩, fun seen key hid t a => path_errorPolicy_iff hid⟩
  · rw [← Failure.retryable_root e', same, Failure.retryable_root]
  · rintro ⟨gone, raced⟩
    have same : 404 = 409 := (Failure.hasCode_iff.1 gone).code_inj (Failure.hasCode_iff.1 raced)
    cases same

/-- A shop that was gone when its status was written is left alone and forgotten, and one that somebody else had changed
by then is put back. -/
theorem retried_iff_retryable_shop :
    let seen := Shop.service none
    let gone : Failure := .statusWrite "fraud" (.statusWrite "fraud" (.gone "fraud"))
    let raced : Failure := .statusWrite "fraud" (.client (.refused .modified))
    let delay := Duration.ofSecs 5
    seen.key? = some Shop.key ∧
    (gone.notFound = true ∧ gone.retryable = false ∧
      Path (errorPolicy seen gone) [⟨.forget Shop.key, ()⟩] (.done .awaitChange)) ∧
    (raced.conflict = true ∧ raced.retryable = true ∧
      Path (errorPolicy seen raced) [⟨.delay Shop.key, delay⟩] (.done (.requeue delay))) := by
  intro seen gone raced delay
  have hid : seen.key? = some Shop.key := rfl
  obtain ⟨-, ⟨found, -⟩, ⟨lasts, -⟩, leaves⟩ := retried_iff_retryable gone
  obtain ⟨-, ⟨-, conflict⟩, ⟨-, passes, -⟩, puts⟩ := retried_iff_retryable raced
  have isGone : gone.notFound = true := found.2 (.writing _ (.writing _ (.directly _ rfl)))
  have isRaced : raced.conflict = true := conflict.2 (.writing _ (.directly _ rfl))
  exact ⟨hid, ⟨isGone, lasts isGone, (leaves seen Shop.key hid _ _).2 (.inr ⟨lasts isGone, by rw [isGone]; rfl, rfl⟩)⟩,
    isRaced, passes isRaced, (puts seen Shop.key hid _ _).2 (.inl ⟨passes isRaced, delay, rfl, rfl⟩)⟩

end Pass

end ModelServing
