import Mathlib.Data.List.Nodup
import ModelServing.Proofs.Pass.Steps

/-!
# The times that one pass gives to conditions

A condition keeps the time of the first one of its type in the list, if that has the same value, and else has a time
that was read from the clock.

* `Status.Apart` says that no two conditions have one type;
* `Moves t o o'` says what may become of the condition of a type in a run with the calls `t`, and `Moves.since` what
  that means for its time;
* `Stamped t types s s'` says that `s'` is `s` with one condition placed for each of the types, and that all others are
  as they were: since a pass places no type twice, no value is lost and found again within it;
* `moves_of_path` says that this is what the reconcilers do to the conditions of every type.
-/

namespace ModelServing

open Prog

/-! ### one condition for each type -/

namespace Condition

variable {c : Condition} {l : List Condition}

theorem map_type_place (c : Condition) (l : List Condition) :
    (place c l).map Condition.type =
      if c.type ∈ l.map Condition.type then l.map Condition.type else l.map Condition.type ++ [c.type] := by
  induction l with
  | nil => simp [place]
  | cons old r ih =>
    by_cases ho : old.type = c.type
    · simp [place, ho]
    · have other : c.type ≠ old.type := fun h => ho h.symm
      rw [place, if_neg ho, List.map_cons, ih, List.map_cons]
      by_cases hr : c.type ∈ r.map Condition.type
      · rw [if_pos hr, if_pos (List.mem_cons_of_mem _ hr)]
      · rw [if_neg hr, if_neg (by simp [other, hr])]
        rfl

theorem nodup_place (h : (l.map Condition.type).Nodup) : ((place c l).map Condition.type).Nodup := by
  rw [map_type_place]
  split
  · exact h
  · rename_i new
    rw [List.nodup_append]
    refine ⟨h, List.nodup_singleton _, ?_⟩
    intro a ha b hb
    rw [List.mem_singleton.1 hb]
    rintro rfl
    exact new ha

theorem first_of_mem (h : (l.map Condition.type).Nodup) (hc : c ∈ l) : first c.type l = some c := by
  induction l with
  | nil => cases hc
  | cons old r ih =>
    rw [List.map_cons, List.nodup_cons] at h
    rcases List.mem_cons.1 hc with rfl | hr
    · exact if_pos rfl
    · have other : old.type ≠ c.type := fun same => h.1 (same ▸ List.mem_map_of_mem hr)
      rw [first, if_neg other]
      exact ih h.2 hr

theorem mem_of_first {type : String} (h : first type l = some c) : c ∈ l ∧ c.type = type := by
  induction l with
  | nil => cases h
  | cons old r ih =>
    unfold first at h
    split at h
    · rename_i same
      obtain rfl := Option.some.inj h
      exact ⟨List.mem_cons_self, same⟩
    · obtain ⟨hr, same⟩ := ih h
      exact ⟨List.mem_cons_of_mem _ hr, same⟩

end Condition

/-- No two conditions have the same type. -/
def Status.Apart (s : Status) : Prop := (s.conditions.map Condition.type).Nodup

theorem Status.Apart.prune {s : Status} (h : s.Apart) (requested : List Kind) : (Ingress.prune requested s).Apart :=
  h.sublist (List.filter_sublist.map _)

theorem Status.Apart.condition?_eq_some_iff {s : Status} (h : s.Apart) {c : Condition} {type : String} :
    s.condition? type = some c ↔ c ∈ s.conditions ∧ c.type = type := by
  constructor
  · exact Condition.mem_of_first
  · rintro ⟨hc, rfl⟩
    exact Condition.first_of_mem h hc

theorem Service.apart_statusOrEmpty {s : Service} (h : ∀ st, s.status = some st → st.Apart) :
    s.statusOrEmpty.Apart := by
  unfold statusOrEmpty
  cases hs : s.status with
  | none => exact List.nodup_nil
  | some st => exact h st hs

@[simp] theorem Finding.condition_since (f : Finding) (k : Kind) (workload : String) (now : Instant) :
    (f.condition k workload now).since = now := by
  cases f with
  | waiting => rfl
  | seen o => cases o <;> rfl

@[simp] theorem Ingress.routeCondition_since (e : Kind) (a : Option String) (now : Instant) :
    (routeCondition e a now).since = now := by
  cases a <;> rfl

@[simp] theorem Ingress.summary_since (l : List Report) (now : Instant) : (summary l now).since = now := by
  unfold summary
  split <;> rfl

namespace Pass

variable {t t' : List (Answered Effect.Answer)}

/-! ### what becomes of a condition -/

/-- What becomes of the condition of a type while the calls in `t` are made: it is kept, or dropped, or another one is
placed over it whose time was read from the clock. -/
inductive Moves (t : List (Answered Effect.Answer)) (o : Option Condition) : Option Condition → Prop
  | kept : Moves t o o
  | dropped : Moves t o none
  | placed (c : Condition) (read : ⟨.clock, c.since⟩ ∈ t) : Moves t o (some (o.elim c c.follow))

/-- **The time of a condition** is that of the one before, if that had the same value, and has been read else. -/
theorem Moves.since {o : Option Condition} {c : Condition} (h : Moves t o (some c)) :
    (∃ old, o = some old ∧ old.status = c.status ∧ c.since = old.since) ∨
      (∀ old, o = some old → old.status ≠ c.status) ∧ ⟨.clock, c.since⟩ ∈ t := by
  generalize hn : some c = n at h
  cases h with
  | kept =>
    subst hn
    exact .inl ⟨c, rfl, rfl, rfl⟩
  | dropped => cases hn
  | placed c' read =>
    obtain rfl := Option.some.inj hn
    cases o with
    | none => exact .inr ⟨by simp, read⟩
    | some old =>
      show (∃ x, _ ∧ _ = (c'.follow old).status ∧ (c'.follow old).since = _) ∨
        (∀ x, _ → _ ≠ (c'.follow old).status) ∧ ⟨.clock, (c'.follow old).since⟩ ∈ t
      rw [Condition.follow_status]
      by_cases same : old.status = c'.status
      · exact .inl ⟨old, rfl, same, by rw [Condition.follow, if_pos same]⟩
      · refine .inr ⟨?_, by rwa [Condition.follow, if_neg same]⟩
        intro x hx
        rwa [← Option.some.inj hx]

theorem Moves.mono {o o' : Option Condition} (h : Moves t o o') (more : t ⊆ t') : Moves t' o o' := by
  cases h with
  | kept => exact .kept
  | dropped => exact .dropped
  | placed c read => exact .placed c (more read)

/-- `s'` is `s` with one condition placed for each of the types, whose time was read in `t`. -/
structure Stamped (t : List (Answered Effect.Answer)) (types : List String) (s s' : Status) : Prop where
  placed : ∀ type ∈ types, ∃ c, ⟨.clock, c.since⟩ ∈ t ∧ s'.condition? type = some ((s.condition? type).elim c c.follow)
  kept : ∀ type, type ∉ types → s'.condition? type = s.condition? type
  apart : s.Apart → s'.Apart

namespace Stamped

variable {types types' : List String} {s s' s'' : Status}

theorem nil : Stamped t [] s s := ⟨by simp, fun _ _ => rfl, id⟩

/-- Whatever else changes, the conditions alone count. -/
theorem place {c : Condition} {type : String} (ht : c.type = type) (hs : s'.conditions = c.place s.conditions)
    (read : ⟨.clock, c.since⟩ ∈ t) : Stamped t [type] s s' where
  placed x hx := by
    obtain rfl := List.mem_singleton.1 hx
    refine ⟨c, read, ?_⟩
    unfold Status.condition?
    rw [hs, Condition.first_place, if_pos ht.symm]
  kept x hx := by
    have other : x ≠ c.type := fun h => hx (List.mem_singleton.2 (h.trans ht))
    unfold Status.condition?
    rw [hs, Condition.first_place, if_neg other]
  apart h := by
    unfold Status.Apart
    rw [hs]
    exact Condition.nodup_place h

theorem mono (h : Stamped t types s s') (more : t ⊆ t') : Stamped t' types s s' where
  placed type ht := by
    obtain ⟨c, read, hc⟩ := h.placed type ht
    exact ⟨c, more read, hc⟩
  kept := h.kept
  apart := h.apart

theorem append (h : Stamped t types s s') (h' : Stamped t types' s' s'') (different : ∀ type ∈ types, type ∉ types') :
    Stamped t (types ++ types') s s'' where
  placed type ht := by
    rcases List.mem_append.1 ht with ht | ht
    · obtain ⟨c, read, hc⟩ := h.placed type ht
      exact ⟨c, read, by rw [h'.kept type (different type ht), hc]⟩
    · obtain ⟨c, read, hc⟩ := h'.placed type ht
      have before : s'.condition? type = s.condition? type := h.kept type fun hs => different type hs ht
      exact ⟨c, read, by rw [hc, before]⟩
  kept type ht := by
    rw [List.mem_append, not_or] at ht
    rw [h'.kept type ht.2, h.kept type ht.1]
  apart := fun hs => h'.apart (h.apart hs)

theorem note {clusterDomain : String} {id : Key} {k : Kind} {f : Finding} {now : Instant} (read : ⟨.clock, now⟩ ∈ t) :
    Stamped t [k.conditionType] s (Workload.note clusterDomain id k f now s) :=
  place (f.condition_type k (id.workload k).name now) rfl (by rwa [Finding.condition_since])

theorem settled {url : String} {requested : List Kind} {generation : Option Int64} {now later : Instant}
    (read : ⟨.clock, now⟩ ∈ t) (read' : ⟨.clock, later⟩ ∈ t) :
    Stamped t [Condition.ingressReady, Condition.ready] (Ingress.prune requested s)
      (Ingress.settled url requested generation now later s) := by
  have routed : Stamped t [Condition.ingressReady] (Ingress.prune requested s)
      (Ingress.route url requested now (Ingress.prune requested s)) :=
    place (Ingress.routeCondition_type _ _ now) rfl (by rwa [Ingress.routeCondition_since])
  have summed : Stamped t [Condition.ready] (Ingress.route url requested now (Ingress.prune requested s))
      (Ingress.settled url requested generation now later s) :=
    place (Ingress.summary_type _ later) rfl (by rwa [Ingress.summary_since])
  exact routed.append summed (by decide)

/-- **Every type moves once** where the conditions of the requested components are placed, then those of the others are
forgotten, and then those of the ingress and of the whole are placed. -/
theorem moves {requested : List Kind} (h : Stamped t (requested.map Kind.conditionType) s s')
    (h' : Stamped t [Condition.ingressReady, Condition.ready] (Ingress.prune requested s') s'') (type : String) :
    Moves t (s.condition? type) (s''.condition? type) := by
  by_cases ht : ∃ k : Kind, type = k.conditionType
  · obtain ⟨k, rfl⟩ := ht
    have settled : k.conditionType ∉ [Condition.ingressReady, Condition.ready] := by
      simp [k.conditionType_ne_ingressReady, k.conditionType_ne_ready]
    rw [h'.kept _ settled]
    by_cases hk : k ∈ requested
    · obtain ⟨c, read, hc⟩ := h.placed _ (List.mem_map_of_mem hk)
      have kept : ∀ x, x ∉ requested → k.conditionType ≠ x.conditionType := by
        rintro x hx same
        exact hx (Kind.conditionType_inj.1 same ▸ hk)
      rw [Ingress.condition?_prune_kept kept, hc]
      exact .placed c read
    · rw [Ingress.condition?_prune_dropped hk]
      exact .dropped
  · have other : ∀ k : Kind, type ≠ k.conditionType := fun k hk => ht ⟨k, hk⟩
    have before : (Ingress.prune requested s').condition? type = s.condition? type := by
      rw [Ingress.condition?_prune_kept fun k _ => other k, h.kept]
      rw [List.mem_map]
      rintro ⟨k, -, hk⟩
      exact other k hk.symm
    by_cases hs : type ∈ [Condition.ingressReady, Condition.ready]
    · obtain ⟨c, read, hc⟩ := h'.placed type hs
      rw [hc, before]
      exact .placed c read
    · rw [h'.kept type hs, before]
      exact .kept

end Stamped

/-! ### the reconcilers -/

variable {config : Config} {origin : Reference} {id : Key} {k : Kind} {ks : List Kind} {s d : Service}

/-- A reconciler of a component that succeeds notes something, at a time that it has read. -/
theorem exists_note_of_path {clusterDomain : String} {l : List (Answered Probe.Answer)} {s' : Service}
    (hid : s.key? = some id) (path : Path (Workload.reconcile clusterDomain k s) l (.done ⟨s', none⟩)) :
    ∃ f now, ⟨.clock, now⟩ ∈ l ∧ s' = s.withStatus (Workload.note clusterDomain id k f now s.statusOrEmpty) := by
  rcases (Workload.path_reconcile_iff hid).1 path with ⟨-, now, rfl, h⟩ | ⟨-, e, -, h⟩ | ⟨-, found, now, rfl, h⟩
  · exact ⟨.waiting, now, by simp, (Revision.mk.inj h).1⟩
  · cases h
  · exact ⟨.seen (.ofDeployment found), now, by simp, (Revision.mk.inj h).1⟩

theorem stamped_of_path_components (hid : s.key? = some id) (different : ks.Nodup)
    (path : Path (shipped config (components origin ks s)) t (.done (.ok d))) :
    Stamped t (ks.map Kind.conditionType) s.statusOrEmpty d.statusOrEmpty := by
  induction ks generalizing s t with
  | nil =>
    obtain ⟨h, rfl⟩ := path_components_nil_iff.1 path
    cases h
    exact .nil
  | cons k ks ih =>
    obtain ⟨fresh, different'⟩ := List.nodup_cons.1 different
    obtain ⟨l, ⟨s', f⟩, t₂, rfl, step, ⟨rfl, rest⟩ | ⟨e, -, h, -⟩⟩ := path_components_cons_iff.1 path
    · obtain ⟨f, now, read, rfl⟩ := exists_note_of_path hid step
      have read' : ⟨.clock, now⟩ ∈ l.map asked ++ t₂ := List.mem_append_left _ (List.mem_map.2 ⟨_, read, rfl⟩)
      have others := (ih (by simpa using hid) different' rest).mono (List.subset_append_right (l.map asked) t₂)
      refine (Stamped.note read').append others ?_
      intro type ht hks
      obtain rfl := List.mem_singleton.1 ht
      obtain ⟨x, hx, same⟩ := List.mem_map.1 hks
      exact fresh (Kind.conditionType_inj.1 same ▸ hx)
    · cases h

/-- **The reconcilers move the condition of every type once**, and leave no two of one type if there were none. -/
theorem moves_of_path (hid : s.key? = some id) (path : Path (shipped config (reconcilers s)) t (.done (.ok d))) :
    (∀ type, Moves t (s.statusOrEmpty.condition? type) (d.statusOrEmpty.condition? type)) ∧
      (s.statusOrEmpty.Apart → d.statusOrEmpty.Apart) := by
  obtain ⟨_, h, -⟩ | ⟨t₁, s₁, t₂, rfl, h₁, h₂⟩ := path_andThen_iff.1 path
  · cases h
  have components := (stamped_of_path_components hid s.spec.nodup_requested h₁).mono (List.subset_append_left t₁ t₂)
  obtain ⟨-, -, metadata, spec⟩ := exists_of_path_components h₁
  have hid₁ : s₁.key? = some id := (Service.key?_congr metadata).trans hid
  obtain ⟨l, rev, _, rfl, step, ⟨hf, hr, rfl⟩ | ⟨e, -, h, -⟩⟩ := path_ingress_iff.1 h₂
  · cases hr
    obtain ⟨-, -, rfl⟩ | ⟨-, now, later, hl, rfl⟩ := (Ingress.path_reconcile_iff hid₁).1 step
    · cases hf
    · have read : ∀ x ∈ [now, later], ⟨.clock, x⟩ ∈ t₁ ++ (l.map asked ++ []) := by simp [hl, asked]
      have settled : Stamped (t₁ ++ (l.map asked ++ [])) [Condition.ingressReady, Condition.ready]
          (Ingress.prune s.spec.requested s₁.statusOrEmpty)
          (Ingress.settled (config.ingress.url id.name id.ns) s.spec.requested s₁.metadata.generation now later
            s₁.statusOrEmpty) := .settled (read now (by simp)) (read later (by simp))
      rw [spec]
      exact ⟨components.moves settled, fun apart => settled.apart ((components.apart apart).prune _)⟩
  · cases h

end Pass

end ModelServing
