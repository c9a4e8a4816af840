import ModelServing.Proofs.Pass.Contention

/-!
# The runs of a pass

A pass with any reconcilers, cut into its steps. The calls here are those of `Pass.Call`, so that a reconciler is one
call, answered by whatever it leaves.

* `told` are the events among answered calls, `Account` is what is known of a pass afterwards;
* `Commits` lists the runs of a commit and `Runs` those of a pass, `runs_of_path` says that there are no others;
* `Runs.no_write` says that nothing has been stored by a pass that fails.
-/

namespace ModelServing.Pass

open Prog

/-! ### what is told -/

/-- The events that were told, in order. -/
def told (t : List (Answered Call.Answer)) : List Event :=
  t.filterMap fun
    | ⟨.publish e, _⟩ => some e
    | _ => none

section Told

variable {t t' : List (Answered Call.Answer)}

@[simp] theorem told_nil : told [] = [] := rfl

@[simp] theorem told_append : told (t ++ t') = told t ++ told t' := List.filterMap_append

@[simp] theorem told_publish {e : Event} {a : Unit} : told (⟨.publish e, a⟩ :: t) = e :: told t := rfl

@[simp] theorem told_fetch {key : Key} {a : Except Failure (Option Service)} : told (⟨.fetch key, a⟩ :: t) = told t :=
  rfl

@[simp] theorem told_write {d : Service} {a : Except Failure Unit} : told (⟨.write d, a⟩ :: t) = told t := rfl

end Told

def telling (l : List Event) : List (Answered Call.Answer) := l.map fun e => ⟨.publish e, ()⟩

@[simp] theorem told_telling (l : List Event) : told (telling l) = l := by
  induction l with
  | nil => rfl
  | cons e l ih => exact congrArg (e :: ·) ih

/-! ### steps -/

variable {α β : Type} {t : List (Answered Call.Answer)}

theorem path_andThen_done_iff {p : Routine (Except Failure α)} {f : α → Routine (Except Failure β)}
    {r : Except Failure β} :
    Path (andThen p f) t (.done r) ↔
      (∃ e, r = .error e ∧ Path p t (.done (.error e))) ∨
      ∃ t₁ a t₂, t = t₁ ++ t₂ ∧ Path p t₁ (.done (.ok a)) ∧ Path (f a) t₂ (.done r) :=
  path_bind_except_iff fun _ => rfl

theorem path_tell_done_iff {e : Option Event} {a b : α} :
    Path (tell e a) t (.done b) ↔ b = a ∧ t = telling e.toList := by
  cases e with
  | none =>
    show Path (.done a) t (.done b) ↔ _
    rw [path_done_iff, Prog.done.injEq, and_comm]
    rfl
  | some e =>
    show Path (.ask (.publish e) fun _ => .done a) t (.done b) ↔ _
    rw [path_ask_done_iff]
    simp only [path_done_iff, Prog.done.injEq]
    constructor
    · rintro ⟨_, _, rfl, rfl, rfl⟩
      exact ⟨rfl, rfl⟩
    · rintro ⟨rfl, rfl⟩
      exact ⟨(), [], rfl, rfl, rfl⟩

/-! ### the reconcilers -/

/-- The answer, if it is that of a reconciler, is about the service that the reconciler was given. -/
def Call.KeepsKey : Answered Call.Answer → Prop
  | ⟨.component _ s, rev⟩ => rev.service.key? = s.key?
  | ⟨.ingress s, rev⟩ => rev.service.key? = s.key?
  | _ => True

variable {origin : Reference} {s d : Service}

/-- Components that succeed tell nothing, and a failure is told once. -/
theorem told_of_path_components {ks : List Kind} {r : Except Failure Service}
    (path : Path (components origin ks s) t (.done r)) :
    (∀ d, r = .ok d → told t = [] ∧ ((∀ m ∈ t, Call.KeepsKey m) → d.key? = s.key?)) ∧
      ∀ e, r = .error e → ∃ step cause, told t = [.failed origin step cause] := by
  -- each reconciler works on what the one before it has left, so the service varies along the kinds
  induction ks generalizing s t with
  | nil =>
    obtain ⟨rfl, h⟩ := path_done_iff.1 path
    cases h
    refine ⟨fun d hd => ?_, fun e he => ?_⟩
    · cases hd
      exact ⟨rfl, fun _ => rfl⟩
    · cases he
  | cons k ks ih =>
    obtain ⟨⟨s', _ | e⟩, t', rfl, rest⟩ := path_ask_done_iff.1 path
    · obtain ⟨fine, failed⟩ := ih rest
      refine ⟨fun d hd => ?_, failed⟩
      obtain ⟨silent, kept⟩ := fine d hd
      refine ⟨silent, fun keeps => ?_⟩
      obtain ⟨first, others⟩ := List.forall_mem_cons.1 keeps
      exact (kept others).trans first
    · obtain ⟨rfl, rfl⟩ := path_tell_done_iff.1 rest
      refine ⟨fun d hd => ?_, fun _ _ => ⟨k.name, e.message, rfl⟩⟩
      cases hd

theorem told_of_path_ingress {r : Except Failure Service} (path : Path (ingress origin s) t (.done r)) :
    (∀ d, r = .ok d → told t = [] ∧ ((∀ m ∈ t, Call.KeepsKey m) → d.key? = s.key?)) ∧
      ∀ e, r = .error e → ∃ step cause, told t = [.failed origin step cause] := by
  obtain ⟨⟨s', _ | e⟩, t', rfl, rest⟩ := path_ask_done_iff.1 path
  · obtain ⟨rfl, h⟩ := path_done_iff.1 rest
    cases h
    refine ⟨fun d hd => ?_, fun e he => ?_⟩
    · cases hd
      exact ⟨rfl, fun keeps => keeps _ (List.mem_singleton_self _)⟩
    · cases he
  · obtain ⟨rfl, rfl⟩ := path_tell_done_iff.1 rest
    refine ⟨fun d hd => ?_, fun _ _ => ⟨"ingress", e.message, rfl⟩⟩
    cases hd

/-- **Reconcilers that succeed** have told nothing, and have left the service that they were given if each of them
has. -/
theorem told_of_path_reconcilers (path : Path (reconcilers s) t (.done (.ok d))) :
    told t = [] ∧ ((∀ m ∈ t, Call.KeepsKey m) → d.key? = s.key?) := by
  obtain ⟨_, h, -⟩ | ⟨t₁, s₁, t₂, rfl, h₁, h₂⟩ := path_andThen_done_iff.1 path
  · cases h
  · obtain ⟨silent₁, kept₁⟩ := (told_of_path_components h₁).1 s₁ rfl
    obtain ⟨silent₂, kept₂⟩ := (told_of_path_ingress h₂).1 d rfl
    refine ⟨by rw [told_append, silent₁, silent₂]; rfl, fun keeps => ?_⟩
    obtain ⟨keeps₁, keeps₂⟩ := List.forall_mem_append.1 keeps
    exact (kept₂ keeps₂).trans (kept₁ keeps₁)

/-- **Reconcilers that fail** have told why, and nothing else. -/
theorem told_of_path_reconcilers_error {e : Failure} (path : Path (reconcilers s) t (.done (.error e))) :
    ∃ step cause, told t = [.failed s.reference step cause] := by
  obtain ⟨e', h, h₁⟩ | ⟨t₁, s₁, t₂, rfl, h₁, h₂⟩ := path_andThen_done_iff.1 path
  · exact (told_of_path_components h₁).2 e' rfl
  · obtain ⟨silent, -⟩ := (told_of_path_components h₁).1 s₁ rfl
    obtain ⟨step, cause, failed⟩ := (told_of_path_ingress h₂).2 e rfl
    exact ⟨step, cause, by rw [told_append, silent, failed]; rfl⟩

/-- Whatever the reconcilers are answered, they do not call for anything that reaches the store. -/
theorem inner_of_path_reconcilers {r : Except Failure Service} (path : Path (reconcilers s) t (.done r)) :
    ∀ m ∈ t, m.1.Inner :=
  ((only_andThen (only_components _ _ _) fun _ => only_ingress _ _).path path).1

/-! ### all runs -/

/-- What is known of a pass afterwards: its calls with their answers, and its result. -/
structure Account where
  calls : List (Answered Call.Answer)
  result : Except Failure Action

/-- The runs of a commit of `d`: the second read fails, or finds nothing, or finds the status that is to be stored, or
another one, and then the write is refused or stored. -/
inductive Commits (key : Key) (d : Service) : List (Answered Call.Answer) → Except Failure Commit → Prop
  | unread {e : Failure} : Commits key d [⟨.fetch key, .error e⟩] (.error e)
  | gone : Commits key d [⟨.fetch key, .ok none⟩] (.error (.gone key.name))
  | unchanged {stored : Service} (same : stored.status = d.status) :
      Commits key d [⟨.fetch key, .ok (some stored)⟩] (.ok .unchanged)
  | refused {stored : Service} {e : Failure} (differs : stored.status ≠ d.status) :
      Commits key d
        (⟨.fetch key, .ok (some stored)⟩ :: ⟨.write d, .error e⟩ :: telling [.writeFailed d.reference d.name e.message])
        (.error (.statusWrite d.name e))
  | written {stored : Service} (differs : stored.status ≠ d.status) :
      Commits key d
        (⟨.fetch key, .ok (some stored)⟩ :: ⟨.write d, .ok ()⟩ ::
          telling (Event.flipped? d.reference d.name (.between stored.status d.status)).toList)
        (.ok (.written (.between stored.status d.status)))

theorem commits_of_path {key : Key} {c : Except Failure Commit} (path : Path (commit key d) t (.done c)) :
    Commits key d t c := by
  rw [commit_eq] at path
  obtain ⟨e | _ | stored, t', rfl, rest⟩ := path_ask_done_iff.1 path
  · obtain ⟨rfl, h⟩ := path_done_iff.1 rest
    cases h
    exact .unread
  · obtain ⟨rfl, h⟩ := path_done_iff.1 rest
    cases h
    exact .gone
  · have rest : Path (overwrite d stored) t' (.done c) := rest
    unfold overwrite at rest
    split at rest
    · obtain ⟨rfl, h⟩ := path_done_iff.1 rest
      cases h
      exact .unchanged ‹_›
    · obtain ⟨a, t'', rfl, rest'⟩ := path_ask_done_iff.1 rest
      unfold recorded at rest'
      rcases a with e | _
      · obtain ⟨rfl, rfl⟩ := path_tell_done_iff.1 rest'
        exact .refused ‹_›
      · obtain ⟨rfl, rfl⟩ := path_tell_done_iff.1 rest'
        exact .written ‹_›

/-- The runs of a pass: the first read fails, or finds nothing, or finds a service that the reconcilers fail on, or one
that is committed. -/
inductive Runs (key : Key) : List (Answered Call.Answer) → Except Failure Action → Prop
  | unread {e : Failure} : Runs key [⟨.fetch key, .error e⟩] (.error e)
  | absent : Runs key [⟨.fetch key, .ok none⟩, ⟨.forget key, ()⟩] (.ok .awaitChange)
  | stopped {s : Service} {t : List (Answered Call.Answer)} {e : Failure}
      (worked : Path (reconcilers s) t (.done (.error e))) : Runs key (⟨.fetch key, .ok (some s)⟩ :: t) (.error e)
  | committed {s d : Service} {t u : List (Answered Call.Answer)} {c : Except Failure Commit}
      (worked : Path (reconcilers s) t (.done (.ok d))) (commits : Commits key d u c) :
      Runs key (⟨.fetch key, .ok (some s)⟩ :: t ++ u) (c.map fun _ => .awaitChange)

/-- **There are no other runs of a pass.** -/
theorem runs_of_path {key : Key} {r : Except Failure Action} (path : Path (reconcileKey key) t (.done r)) :
    Runs key t r := by
  obtain ⟨e | _ | s, t', rfl, rest⟩ := path_ask_done_iff.1 path
  · obtain ⟨rfl, h⟩ := path_done_iff.1 rest
    cases h
    exact .unread
  · obtain ⟨_, t'', rfl, rest'⟩ := path_ask_done_iff.1 rest
    obtain ⟨rfl, h⟩ := path_done_iff.1 rest'
    cases h
    exact .absent
  · have rest : Path (work key s) t' (.done r) := rest
    rw [work_eq] at rest
    obtain ⟨e, rfl, failed⟩ | ⟨t₁, d, t₂, rfl, worked, committed⟩ := path_andThen_done_iff.1 rest
    · exact .stopped failed
    · obtain ⟨e, rfl, failed⟩ | ⟨t₃, c, t₄, rfl, stored, last⟩ := path_andThen_done_iff.1 committed
      · exact .committed worked (commits_of_path failed)
      · obtain ⟨rfl, h⟩ := path_done_iff.1 last
        cases h
        rw [List.append_nil]
        exact .committed worked (commits_of_path stored)

theorem Commits.no_write {key : Key} {c : Except Failure Commit} {e : Failure} (h : Commits key d t c)
    (failed : c = .error e) : ∀ x, ⟨.write x, .ok ()⟩ ∉ t := by
  cases h with
  | unread => simp
  | gone => simp
  | unchanged same => cases failed
  | refused differs => simp [telling]
  | written differs => cases failed

/-- **A pass that fails has not stored anything.** -/
theorem Runs.no_write {key : Key} {r : Except Failure Action} {e : Failure} (h : Runs key t r)
    (failed : r = .error e) : ∀ x, ⟨.write x, .ok ()⟩ ∉ t := by
  have inner {s : Service} {t : List (Answered Call.Answer)} {r : Except Failure Service}
      (worked : Path (reconcilers s) t (.done r)) : ∀ x, ⟨.write x, .ok ()⟩ ∉ t :=
    fun x hx => inner_of_path_reconcilers worked _ hx
  cases h with
  | unread => simp
  | absent => cases failed
  | stopped worked => simpa using inner worked
  | @committed s d t u c worked commits =>
    have hc : ∃ e, c = .error e := by
      cases c with
      | error e => exact ⟨e, rfl⟩
      | ok _ => cases failed
    obtain ⟨e, hc⟩ := hc
    intro x hx
    simp only [List.cons_append, List.mem_cons, List.mem_append] at hx
    rcases hx with hx | hx | hx
    · cases hx
    · exact inner worked x hx
    · exact commits.no_write hc x hx

end ModelServing.Pass
