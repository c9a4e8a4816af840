import ModelServing.Proofs.Pass.Runs

/-!
# The plan of a pass

What a pass calls for is settled once its first read has found a service: the components of that service, the ingress,
a second read and a write. The pass folds over this list and holds one service while it does.

* `plan` is the list, of `Stage`s; `stages` are those that a run has come to;
* `Goes` and `Halts` say what the answer to one call comes to, and `Folds` puts them together: `folds_of_path_work`
  says that the runs of a pass behind its first read are such folds;
* `left` is the service that the pass holds after some of its calls, `Call.Apt` says which call fits it, and `Stops`
  which answer ends the pass;
* `Folds.cut` looks at one call of a fold, and `follows_plan` puts all of them together.
-/

namespace ModelServing.Pass

open Prog

/-! ### stages -/

/-- A reconciler of a pass. -/
inductive Worker where
  | component (k : Kind)
  | ingress
deriving DecidableEq

namespace Worker

def name : Worker → String
  | component k => k.name
  | ingress => "ingress"

/-- The failure of the pass when the reconciler fails. -/
def wrap : Worker → Failure → Failure
  | component k, e => .component k e
  | ingress, e => .ingress e

/-- The reconciler is called for `s` and leaves `rev`. -/
def leaves : Worker → Service → Revision → Answered Call.Answer
  | component k, s, rev => ⟨.component k s, rev⟩
  | ingress, s, rev => ⟨.ingress s, rev⟩

/-- The reconciler is called for `s`, and then `next` goes on with what it leaves. -/
def ask {α : Type} : Worker → Service → (Revision → Routine α) → Routine α
  | component k, s, next => .ask (.component k s) next
  | ingress, s, next => .ask (.ingress s) next

theorem path_ask_iff {α : Type} {x : Worker} {s : Service} {next : Revision → Routine α}
    {t : List (Answered Call.Answer)} {a : α} :
    Path (x.ask s next) t (.done a) ↔ ∃ rev u, t = x.leaves s rev :: u ∧ Path (next rev) u (.done a) := by
  cases x <;> exact path_ask_done_iff

end Worker

inductive Stage where
  | read
  | work (x : Worker)
  | write
deriving DecidableEq

def Call.stage? : Call → Option Stage
  | .fetch _ => some .read
  | .write _ => some .write
  | .component k _ => some (.work (.component k))
  | .ingress _ => some (.work .ingress)
  | _ => none

/-- The stages that a run has come to, in order. -/
def stages (t : List (Answered Call.Answer)) : List Stage := t.filterMap fun m => m.1.stage?

/-- What comes after the components. -/
def closing : List Stage := [.work .ingress, .read, .write]

/-- The stages of a pass whose first read finds a service with that spec. -/
def plan (spec : Spec) : List Stage :=
  .read :: .work (.component .predictor) ::
    (if spec.transformer.isSome then [.work (.component .transformer)] else []) ++
    (if spec.explainer.isSome then [.work (.component .explainer)] else []) ++ closing

theorem plan_eq (spec : Spec) :
    plan spec = .read :: (spec.requested.map fun k => .work (.component k)) ++ closing := by
  obtain ⟨predictor, transformer, explainer⟩ := spec
  cases transformer <;> cases explainer <;> rfl

@[simp] theorem stages_cons (m : Answered Call.Answer) (t : List (Answered Call.Answer)) :
    stages (m :: t) = m.1.stage?.toList ++ stages t := by
  unfold stages
  rw [List.filterMap_cons]
  cases m.1.stage? <;> rfl

@[simp] theorem stages_telling (l : List Event) : stages (telling l) = [] := by
  induction l with
  | nil => rfl
  | cons e l ih => exact ih

/-! ### the fold -/

/-- What a pass holds: the service that it works on, and the status that its second read has found. -/
structure Hand where
  service : Service
  found : Option Status := none

section Folds

variable {key : Key} {origin : Reference} {x : Stage} {xs : List Stage} {h h' : Hand} {s d : Service}
  {m : Answered Call.Answer} {t u : List (Answered Call.Answer)} {l : List Event} {r : Except Failure Action}

/-- The pass goes on: a reconciler hands its service on, and a second read has found another status than the one that
is held. -/
inductive Goes (key : Key) : Stage → Hand → Answered Call.Answer → Hand → Prop
  | work (x : Worker) (s d : Service) (o : Option Status) : Goes key (.work x) ⟨s, o⟩ (x.leaves s ⟨d, none⟩) ⟨d, o⟩
  | read (s stored : Service) (o : Option Status) (differs : stored.status ≠ s.status) :
      Goes key .read ⟨s, o⟩ ⟨.fetch key, .ok (some stored)⟩ ⟨s, stored.status⟩

/-- The pass ends with the result, after the events in the list; those of reconcilers point at `origin`. -/
inductive Halts (key : Key) (origin : Reference) :
    Stage → Hand → Answered Call.Answer → List Event → Except Failure Action → Prop
  | failed (x : Worker) (s d : Service) (o : Option Status) (e : Failure) :
      Halts key origin (.work x) ⟨s, o⟩ (x.leaves s ⟨d, some e⟩) [.failed origin x.name e.message] (.error (x.wrap e))
  | unread (h : Hand) (e : Failure) : Halts key origin .read h ⟨.fetch key, .error e⟩ [] (.error e)
  | gone (h : Hand) : Halts key origin .read h ⟨.fetch key, .ok none⟩ [] (.error (.gone key.name))
  | unchanged (s stored : Service) (o : Option Status) (same : stored.status = s.status) :
      Halts key origin .read ⟨s, o⟩ ⟨.fetch key, .ok (some stored)⟩ [] (.ok .awaitChange)
  | refused (s : Service) (o : Option Status) (e : Failure) :
      Halts key origin .write ⟨s, o⟩ ⟨.write s, .error e⟩ [.writeFailed s.reference s.name e.message]
        (.error (.statusWrite s.name e))
  | written (s : Service) (o : Option Status) :
      Halts key origin .write ⟨s, o⟩ ⟨.write s, .ok ()⟩
        (Event.flipped? s.reference s.name (.between o s.status)).toList (.ok .awaitChange)

/-- The fold of a pass over stages, from what it holds: its calls, and its result. -/
inductive Folds (key : Key) (origin : Reference) :
    List Stage → Hand → List (Answered Call.Answer) → Except Failure Action → Prop
  | ends {x : Stage} {xs : List Stage} {h : Hand} {m : Answered Call.Answer} {l : List Event}
      {r : Except Failure Action} (last : Halts key origin x h m l r) : Folds key origin (x :: xs) h (m :: telling l) r
  | goes {x : Stage} {xs : List Stage} {h h' : Hand} {m : Answered Call.Answer} {t : List (Answered Call.Answer)}
      {r : Except Failure Action} (first : Goes key x h m h') (rest : Folds key origin xs h' t r) :
      Folds key origin (x :: xs) h (m :: t) r

/-! ### a pass is such a fold -/

/-- A reconciler with what comes after it is one stage of the fold. -/
theorem folds_of_path_ask {x : Worker} {next : Revision → Routine (Except Failure Action)}
    (path : Path (x.ask s next) t (.done r))
    (onwards : ∀ d u, Path (next ⟨d, none⟩) u (.done r) → Folds key origin xs ⟨d, none⟩ u r)
    (failed : ∀ d e, next ⟨d, some e⟩ = tell (some (.failed origin x.name e.message)) (.error (x.wrap e))) :
    Folds key origin (.work x :: xs) ⟨s, none⟩ t r := by
  obtain ⟨⟨d, _ | e⟩, u, rfl, rest⟩ := Worker.path_ask_iff.1 path
  · exact .goes (.work x s d none) (onwards d u rest)
  · rw [failed] at rest
    obtain ⟨rfl, rfl⟩ := path_tell_done_iff.1 rest
    exact .ends (.failed x s d none e)

theorem folds_of_path_components {ks : List Kind} {f : Service → Routine (Except Failure Action)}
    (path : Path (andThen (components origin ks s) f) t (.done r))
    (onwards : ∀ d u, Path (f d) u (.done r) → Folds key origin xs ⟨d, none⟩ u r) :
    Folds key origin ((ks.map fun k => .work (.component k)) ++ xs) ⟨s, none⟩ t r := by
  induction ks generalizing s t with
  | nil => exact onwards s t path
  | cons k ks ih => exact folds_of_path_ask (x := .component k) path (fun _ _ => ih) fun _ _ => rfl

theorem folds_of_commits {c : Except Failure Commit} (commits : Commits key s t c) :
    Folds key origin [.read, .write] ⟨s, none⟩ t (c.map fun _ => .awaitChange) := by
  cases commits with
  | unread => exact .ends (.unread _ _)
  | gone => exact .ends (.gone _)
  | unchanged same => exact .ends (.unchanged s _ none same)
  | refused differs => exact .goes (.read s _ none differs) (.ends (.refused s _ _))
  | written differs => exact .goes (.read s _ none differs) (.ends (.written s _))

/-- **What a pass does with the service that it has read is a fold over the rest of its plan.** -/
theorem folds_of_path_work (path : Path (work key s) t (.done r)) :
    Folds key s.reference (plan s.spec).tail ⟨s, none⟩ t r := by
  rw [plan_eq]
  refine folds_of_path_components path fun d u reconciled => ?_
  refine folds_of_path_ask (x := .ingress) reconciled (fun d u committing => ?_) fun _ _ => rfl
  have committing : Path (andThen (commit key d) fun _ => .done (.ok .awaitChange)) u (.done r) := committing
  obtain ⟨e, rfl, failed⟩ | ⟨v, c, v', rfl, committed, last⟩ := path_andThen_done_iff.1 committing
  · exact folds_of_commits (commits_of_path failed)
  · obtain ⟨rfl, hr⟩ := path_done_iff.1 last
    cases hr
    rw [List.append_nil]
    exact folds_of_commits (commits_of_path committed)

/-! ### what the fold comes to -/

/-- What the reconcilers in a run have left of `s`: each of them leaves a service in the place of the one before. -/
def left (s : Service) (t : List (Answered Call.Answer)) : Service :=
  t.foldl (fun s m => match m with
    | ⟨.component _ _, rev⟩ => rev.service
    | ⟨.ingress _, rev⟩ => rev.service
    | _ => s) s

/-- The call of a pass for `key` that is about `s`, if it is about a service. -/
def Call.Apt (key : Key) (s : Service) : Call → Prop
  | .fetch k => k = key
  | .component _ x | .ingress x | .write x => x = s
  | _ => True

/-- A pass that holds `s` stops with this call: it fails, or finds nothing, or nothing to be done, or is the last. -/
def Stops (s : Service) : Answered Call.Answer → Prop
  | ⟨.fetch _, .ok (some stored)⟩ => stored.status = s.status
  | ⟨.fetch _, _⟩ => True
  | ⟨.component _ _, rev⟩ => rev.failure ≠ none
  | ⟨.ingress _, rev⟩ => rev.failure ≠ none
  | ⟨.write _, _⟩ => True
  | _ => False

theorem Goes.spec (first : Goes key x h m h') :
    m.1.stage? = some x ∧ m.1.Apt key h.service ∧ ¬ Stops h.service m ∧
      ∀ t, left h.service (m :: t) = left h'.service t ∧ told (m :: t) = told t := by
  cases first with
  | work x s d o => cases x <;> exact ⟨rfl, rfl, fun h => h rfl, fun _ => ⟨rfl, rfl⟩⟩
  | read s stored o differs => exact ⟨rfl, rfl, differs, fun _ => ⟨rfl, rfl⟩⟩

theorem Halts.spec (last : Halts key origin x h m l r) :
    m.1.stage? = some x ∧ m.1.Apt key h.service ∧ Stops h.service m := by
  cases last with
  | failed x s d o e => cases x <;> exact ⟨rfl, rfl, fun h => by cases h⟩
  | unread => exact ⟨rfl, rfl, trivial⟩
  | gone => exact ⟨rfl, rfl, trivial⟩
  | unchanged _ _ _ same => exact ⟨rfl, rfl, same⟩
  | refused => exact ⟨rfl, rfl, trivial⟩
  | written => exact ⟨rfl, rfl, trivial⟩

theorem Folds.stages_prefix (folds : Folds key origin xs h t r) : stages t <+: xs ∧ stages t ≠ [] := by
  induction folds with
  | ends last => simp [last.spec.1]
  | goes first rest ih => simp [first.spec.1, ih.1]

/-- **Every call of the fold is about the service that the reconcilers before it have left.** One that does not stop the
pass is followed by another one, and one that does is the last: nothing but the events of this end comes after it. -/
theorem Folds.cut (folds : Folds key origin xs h t r) {v w : List (Answered Call.Answer)} (cut : t = v ++ m :: w)
    (stage : m.1.stage? ≠ none) :
    told v = [] ∧ m.1.Apt key (left h.service v) ∧
      ((¬ Stops (left h.service v) m ∧ stages w ≠ []) ∨
        (Stops (left h.service v) m ∧ ∃ x o l, w = telling l ∧ Halts key origin x ⟨left h.service v, o⟩ m l r)) := by
  induction folds generalizing v with
  | @ends x xs h n l r last =>
    cases v with
    | nil =>
      cases cut
      obtain ⟨-, apt, stops⟩ := last.spec
      exact ⟨rfl, apt, .inr ⟨stops, x, h.found, l, rfl, last⟩⟩
    | cons n' v =>
      -- what is told at the end is no stage
      obtain ⟨-, telling_eq⟩ := List.cons_eq_cons.1 cut
      have mem : m ∈ telling l := by simp [telling_eq]
      exact absurd (List.filterMap_eq_nil_iff.1 (stages_telling l) m mem) stage
  | @goes x xs h h' n t r first rest ih =>
    obtain ⟨-, apt, goes, held⟩ := first.spec
    cases v with
    | nil =>
      cases cut
      exact ⟨rfl, apt, .inl ⟨goes, rest.stages_prefix.2⟩⟩
    | cons n' v =>
      obtain ⟨rfl, later⟩ := List.cons_eq_cons.1 cut
      rw [(held v).1, (held v).2]
      exact ih later

theorem Folds.stages_eq_nil_iff (folds : Folds key origin xs h t r) {v w : List (Answered Call.Answer)}
    (cut : t = v ++ m :: w) (stage : m.1.stage? ≠ none) : stages w = [] ↔ Stops (left h.service v) m := by
  obtain ⟨-, -, ⟨goes, more⟩ | ⟨stops, x, o, l, rfl, -⟩⟩ := folds.cut cut stage
  · exact iff_of_false more goes
  · exact iff_of_true (stages_telling l) stops

/-- A second read that finds nothing is a failure for good. -/
theorem Folds.gone (folds : Folds key origin xs h t r) (mem : ⟨.fetch key, .ok none⟩ ∈ t) :
    r = .error (.gone key.name) := by
  obtain ⟨v, w, cut⟩ := List.append_of_mem mem
  obtain ⟨-, -, ⟨goes, -⟩ | ⟨-, x, o, l, -, last⟩⟩ := folds.cut cut (by simp [Call.stage?])
  · exact absurd trivial goes
  · obtain rfl : Stage.read = x := Option.some.inj last.spec.1
    cases last with
    | gone => rfl

/-- **A pass follows its plan.** Whatever the store and the reconcilers answer: a first read that fails ends the pass,
and one that finds nothing ends it well, with nothing else touched. If it finds a service, its spec makes the plan, and
the calls are a prefix of it: a call is the last one just if it fails, or finds nothing, or finds the status that the
service has by then, or is the write. Reconcilers, second read and write are about the service that the reconcilers
before them have left, the first of them about the one that was read, whatever these change. -/
theorem follows_plan (path : Path (reconcileKey key) t (.done r)) :
    (∃ e, t = [⟨.fetch key, .error e⟩] ∧ r = .error e) ∨
    (t = [⟨.fetch key, .ok none⟩, ⟨.forget key, ()⟩] ∧ r = .ok .awaitChange) ∨
    ∃ s u, t = ⟨.fetch key, .ok (some s)⟩ :: u ∧ stages t <+: plan s.spec ∧ stages u ≠ [] ∧
      (∀ v m w, u = v ++ m :: w → m.1.stage? ≠ none →
        m.1.Apt key (left s v) ∧ (stages w = [] ↔ Stops (left s v) m)) ∧
      (⟨.fetch key, .ok none⟩ ∈ u → ∃ e, r = .error e ∧ e.notFound = true ∧ e.retryable = false) := by
  obtain ⟨e | _ | s, u, rfl, rest⟩ := path_ask_done_iff.1 path
  · obtain ⟨rfl, hr⟩ := path_done_iff.1 rest
    cases hr
    exact .inl ⟨e, rfl, rfl⟩
  · obtain ⟨_, v, rfl, rest'⟩ := path_ask_done_iff.1 rest
    obtain ⟨rfl, hr⟩ := path_done_iff.1 rest'
    cases hr
    exact .inr (.inl ⟨rfl, rfl⟩)
  · have folds : Folds key s.reference (plan s.spec).tail ⟨s, none⟩ u r := folds_of_path_work rest
    obtain ⟨ordered, some⟩ := folds.stages_prefix
    refine .inr (.inr ⟨s, u, rfl, List.cons_prefix_cons.2 ⟨rfl, ordered⟩, some, ?_, fun mem => ?_⟩)
    · intro v m w cut stage
      exact ⟨(folds.cut cut stage).2.1, folds.stages_eq_nil_iff cut stage⟩
    · exact ⟨_, folds.gone mem, rfl, rfl⟩

end Folds

namespace Shop

/-- What the reconciler of the predictor makes of the shop: it has another name and no explainer. -/
def renamed : Service where
  metadata := { name := some "fraud-2", ns := some "shop" }
  spec := { predictor := {} }

/-- The shop is renamed by a reconciler, and gone before the second read. -/
def moving : List (Answered Call.Answer) :=
  [⟨.component .predictor (service was), ⟨renamed, none⟩⟩, ⟨.component .explainer renamed, ⟨renamed, none⟩⟩,
    ⟨.ingress renamed, ⟨renamed, none⟩⟩, ⟨.fetch key, .ok none⟩]

end Shop

/-- The explainer is still reconciled, though the shop has none any more, and the pass fails for good. -/
theorem follows_plan_shop :
    Path (reconcileKey Shop.key) (⟨.fetch Shop.key, .ok (some (Shop.service Shop.was))⟩ :: Shop.moving)
        (.done (.error (.gone "fraud"))) ∧
      stages (⟨.fetch Shop.key, .ok (some (Shop.service Shop.was))⟩ :: Shop.moving) <+:
        [.read, .work (.component .predictor), .work (.component .explainer), .work .ingress, .read, .write] ∧
      (Failure.gone "fraud").notFound = true := by
  have path : Path (reconcileKey Shop.key) (⟨.fetch Shop.key, .ok (some (Shop.service Shop.was))⟩ :: Shop.moving)
      (.done (.error (.gone "fraud"))) := .cons (.cons (.cons (.cons (.cons (.nil _)))))
  obtain ⟨_, h, -⟩ | ⟨h, -⟩ | ⟨s, u, h, ordered, -, -, gone⟩ := follows_plan path
  · cases h
  · cases h
  · cases h
    obtain ⟨e, he, found, -⟩ := gone (by simp [Shop.moving])
    cases he
    exact ⟨path, ordered, found⟩

end ModelServing.Pass
