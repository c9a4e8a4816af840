import ModelServing.Proofs.Pass.Plan

/-!
# What a pass tells

A pass that fails says so twice: by its result, which wraps the failure, and by an event.

* `Folds.halts_of_mem` says how a pass ends that has made a call that stops it;
* `Accounted` says which event and which result belong to which failure, and that there are no others;
* `accounted_of_path` says this of every pass.
-/

namespace ModelServing.Pass

open Prog

/-! ### how a fold ends -/

section Folds

variable {key : Key} {origin : Reference} {x : Stage} {xs : List Stage} {h : Hand} {s d : Service}
  {m : Answered Call.Answer} {t v : List (Answered Call.Answer)} {l : List Event} {r : Except Failure Action}

theorem told_cons_of_stage (stage : m.1.stage? = some x) : told (m :: t) = told t := by
  obtain ⟨c, a⟩ := m
  cases c with
  | publish => cases stage
  | _ => rfl

theorem told_halted (silent : told v = []) (last : Halts key origin x h m l r) : told (v ++ m :: telling l) = l := by
  rw [told_append, silent, told_cons_of_stage last.spec.1, told_telling]
  rfl

theorem Halts.length_le (last : Halts key origin x h m l r) : l.length ≤ 1 := by
  cases last with
  | written s o =>
    unfold Event.flipped?
    split <;> simp
  | _ => simp

/-- A call that stops every pass is the last one, and the pass ends as it does. -/
theorem Folds.halts_of_mem (folds : Folds key origin xs h t r) (mem : m ∈ t) (stage : m.1.stage? = some x)
    (stops : ∀ s, Stops s m) :
    ∃ v o l, t = v ++ m :: telling l ∧ told t = l ∧ Halts key origin x ⟨left h.service v, o⟩ m l r := by
  obtain ⟨v, w, rfl⟩ := List.append_of_mem mem
  obtain ⟨silent, -, ⟨goes, -⟩ | ⟨-, y, o, l, rfl, last⟩⟩ := folds.cut rfl (by simp [stage])
  · exact absurd (stops _) goes
  · obtain rfl : x = y := Option.some.inj (stage.symm.trans last.spec.1)
    exact ⟨v, o, l, rfl, told_halted silent last, last⟩

theorem Folds.exists_halts (folds : Folds key origin xs h t r) :
    ∃ v m x h' l, t = v ++ m :: telling l ∧ told v = [] ∧ Halts key origin x h' m l r := by
  induction folds with
  | @ends x xs h m l r last => exact ⟨[], m, x, h, l, rfl, rfl, last⟩
  | @goes x xs h h' m t r first rest ih =>
    obtain ⟨v, n, y, h'', l, rfl, silent, last⟩ := ih
    exact ⟨m :: v, n, y, h'', l, rfl, by rw [(first.spec.2.2.2 v).2, silent], last⟩

end Folds

theorem left_append (s : Service) (t t' : List (Answered Call.Answer)) : left s (t ++ t') = left (left s t) t' :=
  List.foldl_append

theorem left_telling (s : Service) (l : List Event) : left s (telling l) = s := by
  induction l with
  | nil => rfl
  | cons e l ih => exact ih

/-! ### events and results -/

/-- The events and the result of a pass account for its calls. -/
structure Accounted (key : Key) (t : List (Answered Call.Answer)) (r : Except Failure Action) : Prop where
  once : (told t).length ≤ 1
  /-- A read that fails is the result, and is not told. -/
  unread : ∀ k e, ⟨.fetch k, .error e⟩ ∈ t → r = .error e ∧ told t = []
  /-- The failure of a component is told of the service that was read. -/
  component : ∀ s u, t = ⟨.fetch key, .ok (some s)⟩ :: u → ∀ k x d e, ⟨.component k x, ⟨d, some e⟩⟩ ∈ u →
    r = .error (.component k e) ∧ told t =
      [⟨.warning, "InternalError", "Reconcile", some ("Failed to reconcile " ++ k.name ++ ": " ++ e.message),
        s.reference⟩]
  /-- So is that of the ingress. -/
  ingress : ∀ s u, t = ⟨.fetch key, .ok (some s)⟩ :: u → ∀ x d e, ⟨.ingress x, ⟨d, some e⟩⟩ ∈ u →
    r = .error (.ingress e) ∧ told t =
      [⟨.warning, "InternalError", "Reconcile", some ("Failed to reconcile " ++ "ingress" ++ ": " ++ e.message),
        s.reference⟩]
  /-- The failure of the write is told of the service that the reconcilers have left. -/
  write : ∀ s u, t = ⟨.fetch key, .ok (some s)⟩ :: u → ∀ d e, ⟨.write d, .error e⟩ ∈ u →
    d = left s u ∧ r = .error (.statusWrite d.name e) ∧ told t =
      [⟨.warning, "UpdateFailed", "UpdateStatus",
        some ("Failed to update status for InferenceService \"" ++ d.name ++ "\": " ++ e.message), d.reference⟩]
  /-- A service that is gone at the second read is a failure that is not told. -/
  gone : ∀ s u, t = ⟨.fetch key, .ok (some s)⟩ :: u → ⟨.fetch key, .ok none⟩ ∈ u →
    r = .error (.gone key.name) ∧ told t = []
  /-- Nothing else makes a pass fail. -/
  failed : ∀ e, r = .error e →
    (∃ k, ⟨.fetch k, .error e⟩ ∈ t) ∨
    ∃ s u, t = ⟨.fetch key, .ok (some s)⟩ :: u ∧
      ((∃ k x d e, ⟨.component k x, ⟨d, some e⟩⟩ ∈ u) ∨ (∃ x d e, ⟨.ingress x, ⟨d, some e⟩⟩ ∈ u) ∨
        (∃ d e, ⟨.write d, .error e⟩ ∈ u) ∨ ⟨.fetch key, .ok none⟩ ∈ u)
  /-- A pass that succeeds has not written and tells nothing, or tells the flip of readiness that it has written. -/
  succeeded : ∀ a, r = .ok a →
    (told t = [] ∧ ∀ d b, ⟨.write d, b⟩ ∉ t) ∨
    ∃ v stored d, t = v ++ ⟨.fetch key, .ok (some stored)⟩ :: ⟨.write d, .ok ()⟩ :: telling (told t) ∧
      told t = (Event.flipped? d.reference d.name (.between stored.status d.status)).toList

section Accounted

variable {key : Key} {s : Service} {t : List (Answered Call.Answer)} {r : Except Failure Action}

/-- What is told of a pass that succeeds is the flip that its write makes. -/
theorem told_of_ok {a : Action} (path : Path (reconcileKey key) t (.done (.ok a))) :
    (told t = [] ∧ ∀ d b, ⟨.write d, b⟩ ∉ t) ∨
    ∃ v stored d, t = v ++ ⟨.fetch key, .ok (some stored)⟩ :: ⟨.write d, .ok ()⟩ :: telling (told t) ∧
      told t = (Event.flipped? d.reference d.name (.between stored.status d.status)).toList := by
  generalize hr : Except.ok a = r at path
  cases runs_of_path path with
  | unread => cases hr
  | absent => exact .inl ⟨rfl, by simp⟩
  | stopped => cases hr
  | @committed s d t u c worked commits =>
    have silent : told t = [] := (told_of_path_reconcilers worked).1
    cases commits with
    | unread => cases hr
    | gone => cases hr
    | refused => cases hr
    | unchanged =>
      have inner : ∀ x b, ⟨.write x, b⟩ ∉ t := fun x b hx => inner_of_path_reconcilers worked _ hx
      exact .inl ⟨by simp [silent], by simp [inner]⟩
    | @written stored differs =>
      have flip : told (⟨.fetch key, .ok (some s)⟩ :: t ++ ⟨.fetch key, .ok (some stored)⟩ :: ⟨.write d, .ok ()⟩ ::
          telling (Event.flipped? d.reference d.name (.between stored.status d.status)).toList) =
          (Event.flipped? d.reference d.name (.between stored.status d.status)).toList := by
        simp [silent]
      exact .inr ⟨_, stored, d, by rw [flip], flip⟩

theorem accounted_of_folds (folds : Folds key s.reference (plan s.spec).tail ⟨s, none⟩ t r)
    (path : Path (reconcileKey key) (⟨.fetch key, .ok (some s)⟩ :: t) (.done r)) :
    Accounted key (⟨.fetch key, .ok (some s)⟩ :: t) r where
  once := by
    obtain ⟨v, m, x, h, l, rfl, silent, last⟩ := folds.exists_halts
    rw [told_fetch, told_halted silent last]
    exact last.length_le
  unread k e mem := by
    have mem : ⟨.fetch k, .error e⟩ ∈ t := by simpa using mem
    obtain ⟨v, o, l, -, hl, last⟩ := folds.halts_of_mem mem rfl fun _ => trivial
    cases last
    exact ⟨rfl, hl⟩
  component s' u cut k x d e mem := by
    cases cut
    obtain ⟨v, o, l, -, hl, last⟩ := folds.halts_of_mem mem rfl fun _ h => by cases h
    cases last
    exact ⟨rfl, hl⟩
  ingress s' u cut x d e mem := by
    cases cut
    obtain ⟨v, o, l, -, hl, last⟩ := folds.halts_of_mem mem rfl fun _ h => by cases h
    cases last
    exact ⟨rfl, hl⟩
  write s' u cut d e mem := by
    cases cut
    obtain ⟨v, o, l, ht, hl, last⟩ := folds.halts_of_mem mem rfl fun _ => trivial
    cases last
    refine ⟨?_, rfl, hl⟩
    rw [ht, left_append]
    exact (left_telling _ _).symm
  gone s' u cut mem := by
    cases cut
    obtain ⟨v, o, l, -, hl, last⟩ := folds.halts_of_mem mem rfl fun _ => trivial
    cases last
    exact ⟨rfl, hl⟩
  failed e hr := by
    obtain ⟨v, m, x, h, l, rfl, -, last⟩ := folds.exists_halts
    cases last with
    | failed x y d o e' =>
      refine .inr ⟨s, _, rfl, ?_⟩
      cases x with
      | component k => exact .inl ⟨k, y, d, e', by simp [Worker.leaves]⟩
      | ingress => exact .inr (.inl ⟨y, d, e', by simp [Worker.leaves]⟩)
    | unread _ e' =>
      cases hr
      exact .inl ⟨key, by simp⟩
    | gone => exact .inr ⟨s, _, rfl, .inr (.inr (.inr (by simp)))⟩
    | unchanged => cases hr
    | refused d o e' => exact .inr ⟨s, _, rfl, .inr (.inr (.inl ⟨d, e', by simp⟩))⟩
    | written => cases hr
  succeeded a hr := by
    subst hr
    exact told_of_ok path

/-- **Failures are told as they are returned.** Whatever the calls of a pass are answered, and however the failures
among the answers are nested: it tells one event at most, and event and result agree on what has failed. -/
theorem accounted_of_path (path : Path (reconcileKey key) t (.done r)) : Accounted key t r := by
  have whole := path
  obtain ⟨e | _ | s, u, rfl, rest⟩ := path_ask_done_iff.1 path
  · obtain ⟨rfl, hr⟩ := path_done_iff.1 rest
    cases hr
    constructor <;> simp
  · obtain ⟨_, v, rfl, rest'⟩ := path_ask_done_iff.1 rest
    obtain ⟨rfl, hr⟩ := path_done_iff.1 rest'
    cases hr
    constructor <;> simp [told]
  · exact accounted_of_folds (folds_of_path_work rest) whole

end Accounted

namespace Shop

/-- A failure that looks like one of the ingress. -/
def puzzle : Failure := .ingress (.component .predictor (.internal "routes" "no gateway"))

/-- The explainer fails on a shop that the predictor has renamed. -/
def puzzled : List (Answered Call.Answer) :=
  [⟨.component .predictor (service was), ⟨renamed, none⟩⟩, ⟨.component .explainer renamed, ⟨renamed, some puzzle⟩⟩,
    ⟨.publish (.failed (service was).reference "explainer" puzzle.message), ()⟩]

end Shop

/-- The explainer is told to have failed, and the shop goes by the name that it was read with. -/
theorem accounted_of_path_shop :
    Path (reconcileKey Shop.key) (⟨.fetch Shop.key, .ok (some (Shop.service Shop.was))⟩ :: Shop.puzzled)
        (.done (.error (.component .explainer Shop.puzzle))) ∧
      (Shop.service Shop.was).reference.name = some "fraud" ∧ Shop.renamed.reference.name = some "fraud-2" ∧
      told (⟨.fetch Shop.key, .ok (some (Shop.service Shop.was))⟩ :: Shop.puzzled) =
        [⟨.warning, "InternalError", "Reconcile", some ("Failed to reconcile " ++ "explainer" ++ ": " ++
          Shop.puzzle.message), (Shop.service Shop.was).reference⟩] := by
  have path : Path (reconcileKey Shop.key) (⟨.fetch Shop.key, .ok (some (Shop.service Shop.was))⟩ :: Shop.puzzled)
      (.done (.error (.component .explainer Shop.puzzle))) := .cons (.cons (.cons (.cons (.nil _))))
  have failed : ⟨.component .explainer Shop.renamed, ⟨Shop.renamed, some Shop.puzzle⟩⟩ ∈ Shop.puzzled := by
    simp [Shop.puzzled]
  have accounted : Accounted Shop.key (⟨.fetch Shop.key, .ok (some (Shop.service Shop.was))⟩ :: Shop.puzzled)
      (.error (.component .explainer Shop.puzzle)) := accounted_of_path path
  exact ⟨path, rfl, rfl, (accounted.component _ _ rfl .explainer _ _ _ failed).2⟩

end ModelServing.Pass
