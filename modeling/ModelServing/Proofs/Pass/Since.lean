import Mathlib.Data.List.DropRight
import ModelServing.Proofs.Pass.Contention
import ModelServing.Proofs.Pass.Flips
import ModelServing.Proofs.Pass.Stamps

/-!
# Since when conditions hold

A service has no status, and then passes over it, one after the other, write one, while others change all of the
service but its status, and workloads change as they like. Passes may fail anywhere, or be cut short.

* `Beside` is what the store answers to a pass with its reconcilers, `Visits` is a pass over it;
* `stored?` is the status that a pass has stored, `spell` are the last of the passes that stored one, as long as their
  statuses agree on the value of a type;
* `Dated` says that the time of each condition was read in the first pass of the spell of its value; `Dated.visit` says
  that a pass keeps it so, `dated_of_run` that any number of passes do;
* `since_of_run` says so of all conditions that are ever stored.
-/

namespace ModelServing

open Prog

/-- What a status, if there is one, says under a type. -/
def Status.said? (o : Option Status) (type : String) : Option Condition := o.bind (·.condition? type)

theorem Status.said?_eq (s : Service) (type : String) : said? s.status type = s.statusOrEmpty.condition? type := by
  unfold said? Service.statusOrEmpty
  cases s.status <;> rfl

namespace Pass

variable {config : Config} {key : Key} {w w' w'' : Store} {t : List (Answered Effect.Answer)}

/-! ### a pass among others -/

/-- The store answers a pass that has its reconcilers put in: what they ask does not reach the store, and meanwhile
others may change anything but the status under `key`. -/
def Beside (key : Key) (w : Store) : Answered Effect.Answer → Store → Prop
  | ⟨.fetch k, a⟩, w' => Amid key w ⟨.fetch k, a⟩ w'
  | ⟨.write d, a⟩, w' => Amid key w ⟨.write d, a⟩ w'
  | ⟨.publish e, a⟩, w' => Amid key w ⟨.publish e, a⟩ w'
  | ⟨.forget k, a⟩, w' => Amid key w ⟨.forget k, a⟩ w'
  | ⟨.delay k, a⟩, w' => Amid key w ⟨.delay k, a⟩ w'
  | ⟨.deployment _, _⟩, w' => Others key w w'
  | ⟨.clock, _⟩, w' => Others key w w'

/-- A pass over such a store, which may end anywhere. -/
def Visits (config : Config) (key : Key) (w : Store) (t : List (Answered Effect.Answer)) (w' : Store) : Prop :=
  (∃ q, Path (shipped config (reconcileKey key)) t q) ∧ Course (Beside key) w t w'

theorem Beside.keyed {m : Answered Effect.Answer} (h : Beside key w m w') (keyed : w.Keyed) : w'.Keyed := by
  obtain ⟨e, a⟩ := m
  cases e with
  | deployment => exact Others.keyed h keyed
  | clock => exact Others.keyed h keyed
  | _ => exact Amid.keyed h keyed

theorem Beside.status {m : Answered Effect.Answer} (h : Beside key w m w') (hm : ∀ d, m ≠ ⟨.write d, .ok ()⟩) :
    w'.status? key = w.status? key := by
  have amid {m' : Answered Call.Answer} (h' : Amid key w m' w') (hm' : ∀ d, m' ≠ ⟨.write d, .ok ()⟩) :
      w'.status? key = w.status? key :=
    status_of_course (.cons h' (.nil _)) (by simpa using fun d hd => hm' d hd.symm)
  obtain ⟨e, a⟩ := m
  cases e with
  | deployment => exact Others.status h
  | clock => exact Others.status h
  | write d =>
    refine amid h fun d' hd => ?_
    cases hd
    exact hm d rfl
  | _ => exact amid h fun d' hd => by cases hd

theorem Beside.keyed_of_course (course : Course (Beside key) w t w') (keyed : w.Keyed) : w'.Keyed :=
  course.keeps keyed fun _ _ _ _ h => h.keyed

theorem Beside.status_of_course (course : Course (Beside key) w t w') (ht : ∀ d, ⟨.write d, .ok ()⟩ ∉ t) :
    w'.status? key = w.status? key := by
  refine course.keeps (I := fun u => u.status? key = w.status? key) rfl fun m hm u u' h hu => ?_
  have kept : u'.status? key = u.status? key := h.status fun d hd => ht d (hd ▸ hm)
  exact kept.trans hu

/-! ### the status that a pass stores -/

/-- The status that a pass has stored, if it has. -/
def stored? (t : List (Answered Effect.Answer)) : Option Status :=
  t.findSome? fun
    | ⟨.write d, .ok ()⟩ => d.status
    | _ => none

theorem stored?_eq_none (ht : ∀ d, ⟨.write d, .ok ()⟩ ∉ t) : stored? t = none := by
  unfold stored?
  rw [List.findSome?_eq_none_iff]
  rintro ⟨e, a⟩ hm
  cases e with
  | write d =>
    cases a with
    | error e => rfl
    | ok => exact absurd hm (ht d)
  | _ => rfl

theorem stored?_append {t' : List (Answered Effect.Answer)} (ht : ∀ d, ⟨.write d, .ok ()⟩ ∉ t) :
    stored? (t ++ t') = stored? t' := by
  have none : stored? t = none := stored?_eq_none ht
  unfold stored? at none ⊢
  rw [List.findSome?_append, none, Option.none_or]

theorem not_write_of_inner (inner : ∀ m ∈ t, m.1.Inner) (d : Service) (a : Except Failure Unit) : ⟨.write d, a⟩ ∉ t :=
  fun h => inner _ h

/-- **A pass stores no status, or one whose conditions come from those that were stored before**, by one move each. -/
theorem kept_or_stored (visit : Visits config key w t w') (keyed : w.Keyed) :
    (stored? t = none ∧ w'.status? key = w.status? key) ∨
      ∃ st, stored? t = some st ∧ w'.status? key = some st ∧
        (∀ type, Moves t (Status.said? (w.status? key) type) (st.condition? type)) ∧
        ((∀ old, w.status? key = some old → old.Apart) → st.Apart) := by
  obtain ⟨⟨q, path⟩, course⟩ := visit
  by_cases write : ∃ d, ⟨.write d, .ok ()⟩ ∈ t
  · obtain ⟨d, write⟩ := write
    obtain ⟨s, looks, stored, later, rfl, reconciled, inner⟩ := exists_of_write path write
    have looking : ∀ x, ⟨.write x, .ok ()⟩ ∉ looks := fun x =>
      not_write_of_inner ((only_reconcilers config s).path reconciled).1 x _
    have telling : ∀ x, ⟨.write x, .ok ()⟩ ∉ later := fun x => not_write_of_inner inner x _
    -- first read, reconcilers, second read, write, and what is told of it
    obtain ⟨w₂, upto, onwards⟩ := Course.append_iff.1 course
    obtain ⟨w₁, first, -⟩ := Course.cons_iff.1 upto
    obtain ⟨w₃, second, writing⟩ := Course.cons_iff.1 onwards
    obtain ⟨w₄, wrote, after⟩ := Course.cons_iff.1 writing
    obtain ⟨hid, found, -⟩ := status_of_fetch first keyed
    obtain ⟨l, st, rfl, rfl, -⟩ := exists_of_path_reconcilers reconciled
    have now : w₄.status? key = some st := status_of_write wrote hid
    have still : w'.status? key = w₄.status? key := Beside.status_of_course after telling
    obtain ⟨moves, apart⟩ := moves_of_path hid reconciled
    refine .inr ⟨st, ?_, still.trans now, fun type => ?_, fun old => apart ?_⟩
    · rw [stored?_append (by simpa using looking)]
      rfl
    · rw [← found, Status.said?_eq]
      exact (moves type).mono fun m hm => List.mem_append_left _ (List.mem_cons_of_mem _ hm)
    · exact Service.apart_statusOrEmpty (found ▸ old)
  · have silent : ∀ d, ⟨.write d, .ok ()⟩ ∉ t := fun d hd => write ⟨d, hd⟩
    exact .inl ⟨stored?_eq_none silent, Beside.status_of_course course silent⟩

/-! ### spells -/

variable {run : List (List (Answered Effect.Answer))} {type : String} {v : Truth} {o : Option Status} {st : Status}

/-- The passes that have stored a status. -/
def storing (run : List (List (Answered Effect.Answer))) : List (List (Answered Effect.Answer)) :=
  run.filter fun t => (stored? t).isSome

/-- The last of the passes that have stored a status, as long as each of these has the value under the type. -/
def spell (type : String) (v : Truth) (run : List (List (Answered Effect.Answer))) :
    List (List (Answered Effect.Answer)) :=
  (storing run).rtakeWhile fun t => (Status.said? (stored? t) type).map Condition.status = some v

theorem storing_skip (h : stored? t = none) : storing (run ++ [t]) = storing run := by
  simp [storing, List.filter_append, h]

theorem storing_concat (h : stored? t = some st) : storing (run ++ [t]) = storing run ++ [t] := by
  simp [storing, List.filter_append, h]

theorem spell_concat (h : stored? t = some st) :
    spell type v (run ++ [t]) =
      if (st.condition? type).map Condition.status = some v then spell type v run ++ [t] else [] := by
  unfold spell
  rw [storing_concat h, List.rtakeWhile_concat, h]
  simp [Status.said?]

/-! ### dated statuses -/

/-- The status `o` comes from the last pass that has stored one, and the time of each of its conditions was read in the
first pass of the spell of its value. -/
structure Dated (run : List (List (Answered Effect.Answer))) (o : Option Status) : Prop where
  last : (storing run).getLast?.bind stored? = o
  apart : ∀ st, o = some st → st.Apart
  since : ∀ type c, Status.said? o type = some c →
    ∃ t, (spell type c.status run).head? = some t ∧ ⟨.clock, c.since⟩ ∈ t

namespace Dated

theorem said?_eq_some_iff (h : Dated run o) {c : Condition} :
    Status.said? o type = some c ↔ ∃ st, o = some st ∧ c ∈ st.conditions ∧ c.type = type := by
  unfold Status.said?
  rw [Option.bind_eq_some_iff]
  constructor
  · rintro ⟨st, hst, hc⟩
    exact ⟨st, hst, (h.apart st hst).condition?_eq_some_iff.1 hc⟩
  · rintro ⟨st, hst, hc⟩
    exact ⟨st, hst, (h.apart st hst).condition?_eq_some_iff.2 hc⟩

theorem nil : Dated [] none where
  last := rfl
  apart _ h := by cases h
  since _ _ h := by cases h

/-- A value that is not there has no spell. -/
theorem spell_eq_nil (h : Dated run o) (other : ∀ c, Status.said? o type = some c → c.status ≠ v) :
    spell type v run = [] := by
  unfold spell
  rw [List.rtakeWhile_eq_nil_iff]
  intro some shows
  have last : stored? ((storing run).getLast some) = o := by
    rw [← h.last, List.getLast?_eq_some_getLast some]
    rfl
  rw [last, decide_eq_true_eq, Option.map_eq_some_iff] at shows
  obtain ⟨c, hc, hv⟩ := shows
  exact other c hc hv

theorem skip (h : Dated run o) (hs : stored? t = none) : Dated (run ++ [t]) o where
  last := by rw [storing_skip hs, h.last]
  apart := h.apart
  since type c hc := by
    obtain ⟨u, first, read⟩ := h.since type c hc
    refine ⟨u, ?_, read⟩
    unfold spell at first ⊢
    rw [storing_skip hs, first]

theorem concat (h : Dated run o) (hs : stored? t = some st)
    (moves : ∀ type, Moves t (Status.said? o type) (st.condition? type)) (apart : st.Apart) :
    Dated (run ++ [t]) (some st) where
  last := by rw [storing_concat hs, List.getLast?_concat, Option.bind_some, hs]
  apart st' h' := by
    obtain rfl := Option.some.inj h'
    exact apart
  since type c hc := by
    have hc : st.condition? type = some c := hc
    have move := moves type
    rw [hc] at move
    rw [spell_concat hs, hc, Option.map_some, if_pos rfl]
    rcases move.since with ⟨old, ho, same, since⟩ | ⟨other, read⟩
    · -- the spell goes on, and it has begun where the one of the old condition has
      obtain ⟨u, first, read⟩ := h.since type old ho
      rw [same] at first
      rw [since]
      exact ⟨u, by rw [List.head?_append, first]; rfl, read⟩
    · -- a spell begins
      rw [h.spell_eq_nil other]
      exact ⟨t, rfl, read⟩

/-- **A pass keeps statuses dated**, whether it stores one or not. -/
theorem visit (h : Dated run (w.status? key)) (visit : Visits config key w t w') (keyed : w.Keyed) :
    Dated (run ++ [t]) (w'.status? key) := by
  obtain ⟨hs, kept⟩ | ⟨st, hs, now, moves, apart⟩ := kept_or_stored visit keyed
  · rw [kept]
    exact h.skip hs
  · rw [now]
    exact h.concat hs moves (apart h.apart)

end Dated

theorem dated_of_run {more : List (List (Answered Effect.Answer))} (course : Course (Visits config key) w more w')
    (keyed : w.Keyed) (start : Dated run (w.status? key)) : Dated (run ++ more) (w'.status? key) ∧ w'.Keyed := by
  induction course generalizing run with
  | nil w => exact ⟨by rwa [List.append_nil], keyed⟩
  | @cons w v w' t more visit rest ih =>
    rw [List.append_cons]
    exact ih (Beside.keyed_of_course visit.2 keyed) (start.visit visit keyed)

/-- **Since when conditions hold.** However often the passes over a service without status fail, and whatever others do
to all but its status: at any time the status is that of the last pass that stored one, no two of its conditions have
one type, and the time of each was read in the first pass of the spell of its value. After one more pass the time of a
condition is the same if there was one with its type and value before, whatever else has changed, and it was read in
that pass if there was none. -/
theorem since_of_run (keyed : w.Keyed) (blank : w.status? key = none) (course : Course (Visits config key) w run w') :
    w'.status? key = (storing run).getLast?.bind stored? ∧
      (∀ st, w'.status? key = some st → (st.conditions.map Condition.type).Nodup ∧
        ∀ c ∈ st.conditions, ∃ t, (spell c.type c.status run).head? = some t ∧ ⟨.clock, c.since⟩ ∈ t) ∧
      ∀ t w'' st', Visits config key w' t w'' → w''.status? key = some st' → ∀ c' ∈ st'.conditions,
        (∃ st, w'.status? key = some st ∧ ∃ c ∈ st.conditions, c.type = c'.type ∧ c.status = c'.status ∧
          c'.since = c.since) ∨
        (∀ st, w'.status? key = some st → ∀ c ∈ st.conditions, c.type = c'.type → c.status ≠ c'.status) ∧
          ⟨.clock, c'.since⟩ ∈ t := by
  have start : Dated [] (w.status? key) := by
    rw [blank]
    exact .nil
  obtain ⟨dated, keyed'⟩ : Dated run (w'.status? key) ∧ w'.Keyed := dated_of_run course keyed start
  refine ⟨dated.last.symm, fun st hst => ⟨dated.apart st hst, fun c hc => ?_⟩, fun t w'' st' visit hst' c' hc' => ?_⟩
  · exact dated.since c.type c (dated.said?_eq_some_iff.2 ⟨st, hst, hc, rfl⟩)
  · obtain ⟨-, kept⟩ | ⟨st, -, now, moves, apart⟩ := kept_or_stored visit keyed'
    · exact .inl ⟨st', kept ▸ hst', c', hc', rfl, rfl, rfl⟩
    · obtain rfl : st = st' := Option.some.inj (now.symm.trans hst')
      have move := moves c'.type
      rw [(apart dated.apart).condition?_eq_some_iff.2 ⟨hc', rfl⟩] at move
      rcases move.since with ⟨old, said, same, since⟩ | ⟨other, read⟩
      · obtain ⟨st₀, hst₀, hold, type_eq⟩ := dated.said?_eq_some_iff.1 said
        exact .inl ⟨st₀, hst₀, old, hold, type_eq, same, since⟩
      · refine .inr ⟨fun st₀ hst₀ c hc type_eq => ?_, read⟩
        exact other c (dated.said?_eq_some_iff.2 ⟨st₀, hst₀, hc, type_eq⟩)

namespace Shop

def evening : Instant := noon.tick

/-- The shop as it opens, without an explainer. -/
def opened : Service := (service none).withStatus (settled {})

/-- The shop with an explainer from the evening on. -/
def explained : Status :=
  Ingress.settled (({} : IngressConfig).url "fraud" "shop") [.predictor, .explainer] (some 2) evening evening
    (Workload.note "cluster.local" Shop.key .explainer (.seen (.available 1)) evening
      (Workload.note "cluster.local" Shop.key .predictor (.seen (.available 1)) evening (settled {})))

/-- A pass over the shop that reads `s`, finds that predictor at all times, and stores the status `st`. -/
def round (s : Service) (explainer : Option Deployment) (now : Instant) (st : Status) : List (Answered Effect.Answer) :=
  ⟨.fetch Shop.key, .ok (some s)⟩ :: List.map asked
    [⟨.deployment (Shop.key.workload .predictor), .ok (some serving)⟩, ⟨.clock, now⟩,
      ⟨.deployment (Shop.key.workload .explainer), .ok explainer⟩, ⟨.clock, now⟩, ⟨.clock, now⟩, ⟨.clock, now⟩] ++
    [⟨.fetch Shop.key, .ok (some s)⟩, ⟨.write (s.withStatus st), .ok ()⟩]

def sunday : List (List (Answered Effect.Answer)) :=
  [round (service none) none noon (settled {}), round opened (some serving) evening explained]

end Shop

/-- The predictor has served since noon, the explainer since the evening. -/
theorem since_of_run_shop :
    let w : Store := ({} : Store).set Shop.key (Shop.service none)
    let w' : Store := (w.set Shop.key Shop.opened).set Shop.key (Shop.opened.withStatus Shop.explained)
    w.Keyed ∧ w.status? Shop.key = none ∧ Course (Visits {} Shop.key) w Shop.sunday w' ∧
      (spell "PredictorReady" .yes Shop.sunday).length = 2 ∧ (spell "ExplainerReady" .yes Shop.sunday).length = 1 ∧
      (Shop.explained.condition? "PredictorReady").map Condition.since = some Shop.noon ∧
      (Shop.explained.condition? "ExplainerReady").map Condition.since = some Shop.evening ∧
      ∀ c ∈ Shop.explained.conditions,
        ∃ t, (spell c.type c.status Shop.sunday).head? = some t ∧ ⟨.clock, c.since⟩ ∈ t := by
  intro w w'
  have keyed : w.Keyed := by
    refine Store.Keyed.set ?_ rfl
    intro key s h
    cases h
  have alone {w m w'} (served : Served w m w') : Amid Shop.key w m w' := ⟨w, w', .rfl, served, .rfl⟩
  have looks (w : Store) (l : List (Answered Probe.Answer)) : Course (Beside Shop.key) w (l.map asked) w := by
    induction l with
    | nil => exact .nil w
    | cons m l ih =>
      obtain ⟨_ | _, a⟩ := m
      · exact .cons Others.rfl ih
      · exact .cons Others.rfl ih
  have round (w : Store) (s : Service) (explainer : Option Deployment) (now : Instant) (st : Status)
      (hs : s.key? = some Shop.key) (held : w.get? Shop.key = some s) :
      Course (Beside Shop.key) w (Shop.round s explainer now st)
        (w.set Shop.key ((s.withStatus st).withVersion (some "7"))) := by
    have read : Beside Shop.key w ⟨.fetch Shop.key, .ok (some s)⟩ w := alone (held ▸ .fetch w Shop.key)
    have write : Beside Shop.key w ⟨.write (s.withStatus st), .ok ()⟩ _ :=
      alone (.write w (s.withStatus st) Shop.key s (some "7") hs held)
    exact .cons read (Course.append_iff.2 ⟨w, looks w _, .cons read (.cons write (.nil _))⟩)
  have course : Course (Visits {} Shop.key) w Shop.sunday w' :=
    .cons ⟨⟨_, .cons (.cons (.cons (.cons (.cons (.cons (.cons (.cons (.cons (.nil _)))))))))⟩,
        round w (Shop.service none) none Shop.noon _ rfl rfl⟩
      (.cons ⟨⟨_, .cons (.cons (.cons (.cons (.cons (.cons (.cons (.cons (.cons (.nil _)))))))))⟩,
        round _ Shop.opened (some Shop.serving) Shop.evening _ rfl rfl⟩ (.nil _))
  obtain ⟨-, since, -⟩ := since_of_run keyed rfl course
  exact ⟨keyed, rfl, course, by decide, by decide, by decide, by decide, (since Shop.explained rfl).2⟩

end Pass

end ModelServing
