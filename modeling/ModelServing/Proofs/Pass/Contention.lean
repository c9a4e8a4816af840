import ModelServing.Proofs.Pass.Steps
import ModelServing.Proofs.Store

/-!
# Passes among other clients

A pass reads its service, works on a copy of it, reads again, and writes, while anybody may change the service between
any two of its calls.

* `only_reconcilers` says that the reconcilers never read or write services, `path_work_write` what has happened when
  a pass is about to write, and `exists_of_write` what has happened when it has written;
* `write_replaces_read` says that a write that succeeds has replaced just what the pass first read, because the request
  that wrote it carried the version of that read.
-/

namespace ModelServing.Pass

open Prog

/-! ### until the write -/

/-- The calls between the reads of a pass. -/
def Call.Inner : Call → Prop
  | .component _ _ | .ingress _ | .publish _ => True
  | _ => False

/-- The calls that do not reach the store. -/
def Effect.Inner : Effect → Prop
  | .deployment _ | .clock | .publish _ => True
  | _ => False

theorem only_probe {α : Type} (p : Prog Probe Probe.Answer α) : Only Effect.Inner (p.expand probe) := by
  have anything : Only (fun _ => True) p := by
    induction p with
    | done a => exact trivial
    | ask c next ih => exact ⟨trivial, ih⟩
  refine anything.expand fun c _ => ?_
  cases c <;> exact ⟨trivial, fun _ => trivial⟩

theorem only_answer (config : Config) {c : Call} (h : c.Inner) : Only Effect.Inner (answer config c) := by
  cases c with
  | component k s => exact only_probe _
  | ingress s => exact only_probe _
  | publish e => exact ⟨trivial, fun _ => trivial⟩
  | _ => exact h.elim

theorem only_tell {α : Type} (e : Option Event) (a : α) : Only Call.Inner (tell e a) := by
  cases e with
  | none => exact trivial
  | some e => exact ⟨trivial, fun _ => trivial⟩

theorem only_andThen {α β : Type} {P : Call → Prop} {p : Routine (Except Failure α)}
    {f : α → Routine (Except Failure β)} (hp : Only P p) (hf : ∀ a, Only P (f a)) : Only P (andThen p f) := by
  refine hp.bind fun x => ?_
  cases x with
  | error e => exact trivial
  | ok a => exact hf a

theorem only_components (origin : Reference) (ks : List Kind) (s : Service) :
    Only Call.Inner (components origin ks s) := by
  induction ks generalizing s with
  | nil => exact trivial
  | cons k ks ih =>
    refine ⟨trivial, fun r => ?_⟩
    rcases r with ⟨s', _ | e⟩
    · exact ih s'
    · exact only_tell _ _

theorem only_ingress (origin : Reference) (s : Service) : Only Call.Inner (ingress origin s) := by
  refine ⟨trivial, fun r => ?_⟩
  rcases r with ⟨s', _ | e⟩
  · exact trivial
  · exact only_tell _ _

theorem only_reconcilers (config : Config) (s : Service) : Only Effect.Inner (shipped config (reconcilers s)) :=
  (only_andThen (only_components _ _ _) fun _ => only_ingress _ _).expand fun _ => only_answer config

/-- What follows the answer to the write is told, and nothing else. -/
theorem only_recorded (config : Config) (d : Service) (old : Option Status) (a : Except Failure Unit) :
    Only Effect.Inner (shipped config (andThen (recorded d old a) fun _ => .done (.ok Action.awaitChange))) := by
  have told : Only Call.Inner (recorded d old a) := by
    unfold recorded
    split
    · exact only_tell _ _
    · exact only_tell _ _
  have whole : Only Call.Inner (andThen (recorded d old a) fun _ => .done (.ok Action.awaitChange)) :=
    only_andThen told fun _ => trivial
  exact whole.expand fun _ => only_answer config

variable {config : Config} {key : Key} {s d : Service} {t : List (Answered Effect.Answer)}

/-- **When a pass is about to write**, its reconcilers have run to their end and left what it writes, it has read again
and found another status, and what it will do with the answer is known. -/
theorem path_work_write {next : Except Failure Unit → Prog Effect Effect.Answer (Except Failure Action)}
    (path : Path (shipped config (work key s)) t (.ask (.write d) next)) :
    ∃ looks stored, t = looks ++ [⟨.fetch key, .ok (some stored)⟩] ∧
      Path (shipped config (reconcilers s)) looks (.done (.ok d)) ∧
      next = fun a => shipped config (andThen (recorded d stored.status a) fun _ => .done (.ok .awaitChange)) := by
  rw [work_eq, andThen, shipped_bind, path_bind_iff] at path
  rcases path with ⟨c, next', h, hq⟩ | ⟨looks, x, t₂, rfl, reconciled, h⟩
  · obtain ⟨inner, -⟩ := ((only_reconcilers config s).path h).2
    cases hq
    exact inner.elim
  rcases x with e | desired
  · cases (path_done_iff.1 h).2
  have h : Path (shipped config (andThen (commit key desired) fun _ => .done (.ok Action.awaitChange))) t₂
      (.ask (.write d) next) := h
  rw [commit_eq] at h
  -- the second read comes first, and a write is all that is left only if it found something
  rcases path_ask_iff.1 h with ⟨-, hq⟩ | ⟨e | _ | stored, t', rfl, h'⟩
  · cases hq
  · cases (path_done_iff.1 h').2
  · cases (path_done_iff.1 h').2
  have h' : Path (shipped config (andThen (overwrite desired stored) fun _ => .done (.ok Action.awaitChange))) t'
      (.ask (.write d) next) := h'
  unfold overwrite at h'
  split at h'
  · cases (path_done_iff.1 h').2
  · rcases path_ask_iff.1 h' with ⟨rfl, hq⟩ | ⟨a, t'', rfl, h''⟩
    · cases hq
      exact ⟨looks, stored, rfl, reconciled, rfl⟩
    · obtain ⟨inner, -⟩ := ((only_recorded config desired stored.status a).path h'').2
      exact inner.elim

/-- **A pass that writes**, wherever it is by now, has read its service, run the reconcilers on it to their end and read
again, and it writes what they left; nothing that follows reaches the store. -/
theorem exists_of_write {a : Except Failure Unit} {q : Prog Effect Effect.Answer (Except Failure Action)}
    (path : Path (shipped config (reconcileKey key)) t q) (write : ⟨.write d, a⟩ ∈ t) :
    ∃ s looks stored later, t = ⟨.fetch key, .ok (some s)⟩ :: looks ++
        ⟨.fetch key, .ok (some stored)⟩ :: ⟨.write d, a⟩ :: later ∧
      Path (shipped config (reconcilers s)) looks (.done (.ok d)) ∧ ∀ m ∈ later, m.1.Inner := by
  obtain ⟨upto, later, rfl⟩ := List.append_of_mem write
  obtain ⟨m, path₁, path₂⟩ := path_append_iff.1 path
  obtain ⟨next, rfl, rest⟩ := path_cons_iff.1 path₂
  -- the first read has found something, or there is nothing to write
  rcases path_ask_iff.1 path₁ with ⟨-, hq⟩ | ⟨e | _ | s, t', rfl, worked⟩
  · cases hq
  · cases (path_done_iff.1 worked).2
  · rcases path_ask_iff.1 worked with ⟨-, hq⟩ | ⟨_, _, -, h⟩
    · cases hq
    · cases (path_done_iff.1 h).2
  · obtain ⟨looks, stored, rfl, reconciled, rfl⟩ := path_work_write worked
    have inner : ∀ m ∈ later, m.1.Inner := ((only_recorded config d stored.status a).path rest).1
    exact ⟨s, looks, stored, later, by simp, reconciled, inner⟩

/-! ### after the write -/

/-- A path through a telling at the end of a pass: the event is told before the pass ends, and no other. -/
theorem published_of_path_tell {α : Type} {e : Option Event} {a : Except Failure α} {b : Action}
    {q : Prog Effect Effect.Answer (Except Failure Action)} (ha : a.isOk = true)
    (path : Path (shipped config (andThen (tell e a) fun _ => .done (.ok b))) t q) :
    published t <+: e.toList ∧ ∀ r, q = .done r → r = .ok b ∧ published t = e.toList := by
  rcases a with _ | a
  · cases ha
  cases e with
  | none =>
    obtain ⟨rfl, rfl⟩ := path_done_iff.1 path
    refine ⟨List.nil_prefix, ?_⟩
    rintro r hr
    cases hr
    exact ⟨rfl, rfl⟩
  | some e =>
    rcases path_ask_iff.1 path with ⟨rfl, rfl⟩ | ⟨_, t', rfl, h⟩
    · refine ⟨List.nil_prefix, ?_⟩
      rintro r hr
      cases hr
    · obtain ⟨rfl, rfl⟩ := path_done_iff.1 h
      refine ⟨List.prefix_rfl, ?_⟩
      rintro r hr
      cases hr
      exact ⟨rfl, rfl⟩

/-! ### among others -/

/-- **A write that succeeds replaces just what the pass read first.** Whatever others do between the calls of a pass: if
its write succeeds, the request that the client sent for it was for the object of the key, over the version of the first
read, with the whole status; the object is still the one of that read, nobody having touched it since; that is also what
the status was compared to; the status says the generation that the object has; and the events of the pass are those of
the move from the replaced status to the written one. -/
theorem write_replaces_read {w₀ w₁ w₂ : Shared} {between after : List Moment} {v : String}
    {p : Prog Effect Effect.Answer (Except Failure Action)}
    (path : Path (shipped config (reconcileKey key))
      (Moment.calls (.call ⟨.fetch key, .ok (some s)⟩ :: between ++ .call ⟨.write d, .ok ()⟩ :: after)) p)
    (course : Course Shared.Step w₀ (.call ⟨.fetch key, .ok (some s)⟩ :: between) w₁)
    (write : Shared.Step w₁ (.call ⟨.write d, .ok ()⟩) w₂) (version : s.metadata.resourceVersion = some v) :
    w₁.store.get? key = some s ∧ .change key ∉ between ∧
      (∃ r reply, Path (Client.writeStatus d) [⟨r, reply⟩] (.done (.ok ())) ∧ r.Writes key ∧ r.version? = some v ∧
        r.payload.body.get? "status" = some (Json.orNull (d.status.map Status.toJson))) ∧
      (∃ looks, Moment.calls between = looks ++ [⟨.fetch key, .ok (some s)⟩]) ∧
      (∃ st v', d = s.withStatus st ∧ st.observedGeneration = s.metadata.generation ∧
        w₂.store.get? key = some (d.withVersion (some v'))) ∧
      published (Moment.calls between) = [] ∧
      published (Moment.calls after) <+: (Event.flipped? s.reference s.name (.between s.status d.status)).toList ∧
      ∀ r, p = .done r → r = .ok .awaitChange ∧
        published (Moment.calls after) = (Event.flipped? s.reference s.name (.between s.status d.status)).toList := by
  obtain ⟨w, first, since⟩ := Course.cons_iff.1 course
  obtain ⟨rfl, held⟩ := Shared.get?_of_fetch first
  -- the pass up to the write, the write, and the pass after it
  simp only [List.cons_append, Moment.calls_call, Moment.calls_append] at path
  obtain ⟨_, hread, worked⟩ := path_cons_iff.1 path
  cases hread
  obtain ⟨m, upto, onwards⟩ := path_append_iff.1 worked
  obtain ⟨next, rfl, told⟩ := path_cons_iff.1 onwards
  obtain ⟨looks, stored, reads, reconciled, rfl⟩ := path_work_write upto
  obtain ⟨l, st, rfl, rfl, hgen⟩ := exists_of_path_reconcilers reconciled
  have hid : (s.withStatus st).key? = some key := w.keyed key s held
  obtain ⟨still, untouched⟩ : Shared.Held key s w₁ ∧ .change key ∉ between :=
    Shared.held_of_write held version since (.nil _) write hid version
  -- the second read is one of the moments in between
  have again : .call ⟨.fetch key, .ok (some stored)⟩ ∈ between := Moment.mem_calls.1 (by simp [reads])
  obtain rfl : stored = s := Option.some.inj (Shared.found_of_write held version since again write hid version)
  obtain ⟨r, reply, old, v', sent, writes, hold, -, hnew⟩ := Shared.get?_of_write write hid
  have carried : r.version? = some v := (Client.version?_of_path sent).trans version
  obtain rfl : old = stored := Option.some.inj (hold.symm.trans still)
  obtain ⟨told_some, told_all⟩ := published_of_path_tell rfl told
  refine ⟨still, untouched, ⟨r, reply, sent, writes, carried, Client.status_of_path sent⟩, ⟨_, reads⟩,
    ⟨st, v', rfl, hgen, hnew⟩, ?_, told_some, told_all⟩
  rw [reads, published_append, published_map_asked]
  rfl

namespace Shop

/-- A pass up to its write, while a neighbour appears. -/
def between : List Moment :=
  .change ⟨"shop", "neighbour"⟩ :: calls.map .call ++ [.call ⟨.fetch Shop.key, .ok (some (service was))⟩]

def before : Shared := Shared.empty.put Shop.key (service was) "7" rfl

/-- What the server answers to a write. -/
def stored : String := "\x7b\"metadata\":\x7b\x7d,\"spec\":\x7b\"predictor\":\x7b\x7d\x7d\x7d"

set_option maxRecDepth 4000 in
/-- The request of the write. -/
theorem exists_sent : ∃ r, Path (Client.writeStatus next) [⟨r, .answer 200 stored⟩] (.done (.ok ())) := by
  obtain ⟨r, request⟩ : ∃ r, Client.statusRequest next "shop" = .ok r := Request.exists_of_isOk (by decide +kernel)
  obtain ⟨s, held⟩ := Option.isSome_iff_exists.1
    (show ((Json.parse? stored).bind Service.ofJson?).isSome = true by decide +kernel)
  have read : Reply.read Service.ofJson? (.answer 200 stored) = .ok s :=
    Reply.read_answer_eq_ok_iff.2 ⟨by decide, held⟩
  exact ⟨r, Client.path_writeStatus_iff.2 ⟨"shop", r, _, s, rfl, by decide, request, read, rfl⟩⟩

end Shop

/-- The shop has a new neighbour and is ready no more. -/
theorem write_replaces_read_shop : ∃ w₁ w₂ : Shared,
    Course Shared.Step Shop.before (.call ⟨.fetch Shop.key, .ok (some (Shop.service Shop.was))⟩ :: Shop.between) w₁ ∧
      Shared.Step w₁ (.call ⟨.write Shop.next, .ok ()⟩) w₂ ∧
      w₁.store.get? Shop.key = some (Shop.service Shop.was) ∧
      (∃ r reply, Path (Client.writeStatus Shop.next) [⟨r, reply⟩] (.done (.ok ())) ∧ r.version? = some "7") ∧
      published [⟨.publish Shop.notReady, ()⟩] =
        (Event.flipped? (Shop.service Shop.was).reference (Shop.service Shop.was).name
          (.between Shop.was Shop.next.status)).toList := by
  let neighbour : Service := { Shop.service none with metadata := { name := some "neighbour", ns := some "shop" } }
  let w₁ := Shop.before.put ⟨"shop", "neighbour"⟩ neighbour "1" rfl
  have course : Course Shared.Step Shop.before
      (.call ⟨.fetch Shop.key, .ok (some (Shop.service Shop.was))⟩ :: Shop.between) w₁ :=
    .cons (.fetch _ Shop.key) (.cons (.put _ _ neighbour "1" rfl List.not_mem_nil)
      (.cons (.deployment _ _ _) (.cons (.clock _ _) (.cons (.deployment _ _ _) (.cons (.clock _ _)
        (.cons (.clock _ _) (.cons (.clock _ _) (.cons (.fetch _ Shop.key) (.nil _)))))))))
  obtain ⟨r, sent⟩ := Shop.exists_sent
  have writes : r.Writes Shop.key := Client.writes_of_path sent rfl rfl rfl
  have seen : Store.stale r.version? (Shop.service Shop.was).metadata.resourceVersion = false := by
    rw [Client.version?_of_path sent]
    rfl
  have write : Shared.Step w₁ (.call ⟨.write Shop.next, .ok ()⟩) _ :=
    .write _ _ r _ _ Shop.key (Shop.service Shop.was) "8" sent writes rfl seen (by decide)
  have path : Path (shipped {} (reconcileKey Shop.key))
      (Moment.calls (.call ⟨.fetch Shop.key, .ok (some (Shop.service Shop.was))⟩ :: Shop.between ++
        .call ⟨.write Shop.next, .ok ()⟩ :: [.call ⟨.publish Shop.notReady, ()⟩])) (.done (.ok .awaitChange)) :=
    .cons (.cons (.cons (.cons (.cons (.cons (.cons (.cons (.cons (.cons (.nil _))))))))))
  obtain ⟨still, -, ⟨r', reply, request, -, carried, -⟩, -, -, -, -, told⟩ := write_replaces_read path course write rfl
  exact ⟨w₁, _, course, write, still, ⟨r', reply, request, carried⟩, (told _ rfl).2⟩

end ModelServing.Pass
