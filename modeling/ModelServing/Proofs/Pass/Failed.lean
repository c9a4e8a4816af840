import ModelServing.Proofs.Pass.Runs

/-!
# Passes that fail

A pass works on a copy of its service and writes once, at its end, so that one that fails has changed nothing that is
stored.

* `Host` answers the calls of one pass out of a store: it may do as it likes, but nothing except a write that succeeds
  changes the store;
* `Host.pass` is a pass with its calls answered, `perform` a run of passes, each with a host of its own;
* `failed_leave_nothing` says that a pass that fails leaves the store as it was, and that a run without its failed
  passes goes on just as it does with them.
-/

namespace ModelServing

open Prog

namespace Prog

variable {C : Type} {R : C → Type} {α σ : Type}

/-- The program with its calls answered out of a state, after those in `t`: all calls, the result, and the state. -/
def play (answer : List (Answered R) → (c : C) → σ → R c × σ) :
    Prog C R α → List (Answered R) → σ → List (Answered R) × α × σ
  | .done a, t, st => (t, a, st)
  | .ask c next, t, st =>
    let (r, st') := answer t c st
    play answer (next r) (t ++ [⟨c, r⟩]) st'

/-- What is played is a complete run, along which the state goes through the steps of the answers. -/
theorem path_play {W : σ → Answered R → σ → Prop} {answer : List (Answered R) → (c : C) → σ → R c × σ}
    (steps : ∀ t c st, W st ⟨c, (answer t c st).1⟩ (answer t c st).2) (p : Prog C R α) (t : List (Answered R)) (st : σ) :
    ∃ u, (p.play answer t st).1 = t ++ u ∧ Path p u (.done (p.play answer t st).2.1) ∧
      Course W st u (p.play answer t st).2.2 := by
  induction p generalizing t st with
  | done a => exact ⟨[], (List.append_nil t).symm, .nil _, .nil _⟩
  | ask c next ih =>
    obtain ⟨u, calls, path, course⟩ := ih (answer t c st).1 (t ++ [⟨c, (answer t c st).1⟩]) (answer t c st).2
    refine ⟨⟨c, (answer t c st).1⟩ :: u, ?_, .cons path, .cons (steps t c st) course⟩
    rw [play, calls, List.append_assoc]
    rfl

end Prog

namespace Pass

/-- Who answers the calls of one pass out of a store, knowing what was answered before. Only a write that succeeds
changes the store. -/
structure Host (σ : Type) where
  answer : List (Answered Call.Answer) → (c : Call) → σ → c.Answer × σ
  keeps : ∀ t c st, (∀ s, c ≠ .write s) → (answer t c st).2 = st
  refuses : ∀ t s st e, (answer t (.write s) st).1 = .error e → (answer t (.write s) st).2 = st

variable {σ : Type}

namespace Host

def pass (host : Host σ) (key : Key) (st : σ) : Account × σ :=
  let (calls, result, st') := (reconcileKey key).play host.answer [] st
  (⟨calls, result⟩, st')

/-- The store stays as it is unless a write succeeds. -/
def Step (st : σ) (m : Answered Call.Answer) (st' : σ) : Prop := (∀ s, m ≠ ⟨.write s, .ok ()⟩) → st' = st

theorem step (host : Host σ) (t : List (Answered Call.Answer)) (c : Call) (st : σ) :
    Step st ⟨c, (host.answer t c st).1⟩ (host.answer t c st).2 := by
  intro silent
  cases c with
  | write s =>
    cases answered : (host.answer t (.write s) st).1 with
    | error e => exact host.refuses t s st e answered
    | ok _ => exact absurd (by rw [answered]) (silent s)
  | _ => exact host.keeps t _ st fun s h => by cases h

theorem pass_of_error {host : Host σ} {key : Key} {st : σ} {e : Failure}
    (failed : (host.pass key st).1.result = .error e) : (host.pass key st).2 = st := by
  obtain ⟨u, -, path, course⟩ := path_play host.step (reconcileKey key) [] st
  have silent : ∀ s, ⟨.write s, .ok ()⟩ ∉ u := (runs_of_path path).no_write failed
  refine course.keeps (I := (· = st)) rfl fun m hm v w step hv => ?_
  exact (step fun s h => silent s (h ▸ hm)).trans hv

end Host

/-- A run of passes, each for a key and with a host of its own: what is known of them, and the store afterwards. -/
def perform : List (Key × Host σ) → σ → List Account × σ
  | [], st => ([], st)
  | (key, host) :: run, st =>
    let (account, st') := host.pass key st
    let (accounts, st'') := perform run st'
    (account :: accounts, st'')

def succeeding (run : List (Key × Host σ)) (st : σ) : List (Key × Host σ) :=
  ((run.zip (perform run st).1).filter fun x => x.2.result.isOk).map Prod.fst

section Perform

variable {key : Key} {host : Host σ} {run : List (Key × Host σ)} {st : σ}

theorem perform_cons :
    perform ((key, host) :: run) st =
      ((host.pass key st).1 :: (perform run (host.pass key st).2).1, (perform run (host.pass key st).2).2) := rfl

theorem succeeding_cons :
    succeeding ((key, host) :: run) st =
      if (host.pass key st).1.result.isOk then (key, host) :: succeeding run (host.pass key st).2
      else succeeding run (host.pass key st).2 := by
  unfold succeeding
  rw [perform_cons, List.zip_cons_cons, List.filter_cons]
  split
  · rfl
  · rfl

theorem perform_succeeding (run : List (Key × Host σ)) (st : σ) :
    perform (succeeding run st) st = ((perform run st).1.filter (·.result.isOk), (perform run st).2) := by
  induction run generalizing st with
  | nil => rfl
  | cons x run ih =>
    obtain ⟨key, host⟩ := x
    rw [succeeding_cons, perform_cons, List.filter_cons]
    cases result : (host.pass key st).1.result with
    | ok a =>
      have succeeded : (Except.ok a : Except Failure Action).isOk = true := rfl
      rw [if_pos succeeded, if_pos succeeded, perform_cons, ih]
    | error e =>
      have failed : ¬ (Except.error e : Except Failure Action).isOk = true := Bool.false_ne_true
      -- nothing of the failed pass is left, so that the others start from the same store
      have same : (host.pass key st).2 = st := Host.pass_of_error result
      rw [if_neg failed, if_neg failed, same, ih]

end Perform

/-- **No partial persistence.** A pass that fails, at whichever step, leaves the store as it was. So the failed passes
can be taken out of a run, whatever keys they are for: the others make the same calls, are answered alike, tell the same
events and have the same results, and the same is stored in the end. -/
theorem failed_leave_nothing {σ : Type} :
    (∀ (host : Host σ) (key : Key) (st : σ) (e : Failure),
      (host.pass key st).1.result = .error e → (host.pass key st).2 = st) ∧
    ∀ (run : List (Key × Host σ)) (st : σ),
      perform (succeeding run st) st = ((perform run st).1.filter (·.result.isOk), (perform run st).2) :=
  ⟨fun _ _ _ _ failed => Host.pass_of_error failed, perform_succeeding⟩

namespace Shop

/-- A host over a store in memory whose ingress leaves the status `status`, and whose writes fail with `fault`. -/
def host (status : Status) (fault : Option Failure) : Host Store where
  answer _ c st := match c with
    | .fetch key => (.ok (st.get? key), st)
    | .write s => match fault, st.write s with
      | some e, _ => (.error e, st)
      | none, .error e => (.error e, st)
      | none, .ok st' => (.ok (), st')
    | .component _ s => (⟨s, none⟩, st)
    | .ingress s => (⟨s.withStatus status, none⟩, st)
    | .publish _ => ((), st)
    | .forget _ => ((), st)
    | .delay _ => (Duration.ofSecs 5, st)
  keeps _ c st h := by
    cases c with
    | write s => exact absurd rfl (h s)
    | _ => rfl
  refuses _ s st e h := by
    dsimp only at h ⊢
    split at h
    · rfl
    · rfl
    · cases h

/-- Three passes over the shop, of which the second loses a race. -/
def days : List (Key × Host Store) :=
  [(key, host (settled was) none), (key, host {} (some (.client (.refused .modified)))), (key, host {} none)]

end Shop

/-- The pass that lost its race has left nothing, and could as well not have been. -/
theorem failed_leave_nothing_shop :
    let store := ({} : Store).set Shop.key (Shop.service Shop.was)
    ((Shop.host {} (some (.client (.refused .modified)))).pass Shop.key store).2 = store ∧
    ((perform Shop.days store).1.map (·.result.isOk)) = [true, false, true] ∧
      perform [(Shop.key, Shop.host (Shop.settled Shop.was) none), (Shop.key, Shop.host {} none)] store =
        ((perform Shop.days store).1.filter (·.result.isOk), (perform Shop.days store).2) := by
  intro store
  have loser : ((Shop.host {} (some (.client (.refused .modified)))).pass Shop.key store).1.result =
      .error (.statusWrite "fraud" (.client (.refused .modified))) := rfl
  exact ⟨failed_leave_nothing.1 _ Shop.key store _ loser, rfl, failed_leave_nothing.2 Shop.days store⟩

end Pass

end ModelServing
