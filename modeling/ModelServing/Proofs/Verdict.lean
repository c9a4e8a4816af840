import ModelServing.Ingress

/-!
# Verdicts

What a condition says, apart from since when: passes at different times agree on it.

* `Verdict` is value, reason and message; `Status.verdict?` is what the first condition of a type says;
* `verdict?_place` and `verdict?_prune` say what placing and pruning do to the verdicts of all types, without the times
  and places of the conditions in the list;
* `place_eq_self` and `prune_eq_self` are the other direction: where the verdicts are there already, nothing at all
  changes, times and places included.
-/

namespace ModelServing

/-- What a condition says. -/
structure Verdict where
  value : Truth
  reason : String
  message : String
deriving DecidableEq

namespace Condition

def verdict (c : Condition) : Verdict := ⟨c.status, c.reason, c.message⟩

@[simp] theorem verdict_follow (c old : Condition) : (c.follow old).verdict = c.verdict := by
  unfold follow
  split <;> rfl

/-- A condition that follows one of its type with the same verdict is that one. -/
theorem follow_eq_of_verdict {c old : Condition} (ht : old.type = c.type) (hv : old.verdict = c.verdict) :
    c.follow old = old := by
  obtain ⟨type, status, reason, message, since⟩ := c
  obtain ⟨type', status', reason', message', since'⟩ := old
  simp only [verdict, Verdict.mk.injEq] at ht hv
  obtain ⟨rfl, rfl, rfl⟩ := hv
  subst ht
  simp [follow]

/-! ### the first condition of a type -/

theorem first_eq_none_iff {type : String} {l : List Condition} : first type l = none ↔ ∀ c ∈ l, c.type ≠ type := by
  induction l with
  | nil => simp [first]
  | cons old r ih =>
    by_cases h : old.type = type
    · simp [first, h]
    · simp [first, h, ih]

theorem first_filter {p : Condition → Bool} {type : String} {l : List Condition}
    (h : ∀ c, c.type = type → p c = true) : first type (l.filter p) = first type l := by
  induction l with
  | nil => rfl
  | cons old r ih =>
    by_cases ht : old.type = type
    · simp [h old ht, first, ht]
    · by_cases hp : p old = true
      · simp [hp, first, ht, ih]
      · simp [hp, first, ht, ih]

theorem first_filter_none {p : Condition → Bool} {type : String} {l : List Condition}
    (h : ∀ c, c.type = type → p c = false) : first type (l.filter p) = none := by
  rw [first_eq_none_iff]
  intro c hc ht
  simp [h c ht] at hc

/-- **A verdict that is there already changes nothing**: the list is the same, times and places included. -/
theorem place_eq_self {c : Condition} {l : List Condition} (h : (first c.type l).map verdict = some c.verdict) :
    place c l = l := by
  induction l with
  | nil => cases h
  | cons old r ih =>
    by_cases ht : old.type = c.type
    · have hv : old.verdict = c.verdict := by simpa [first, ht] using h
      simp [place, ht, follow_eq_of_verdict ht hv]
    · simp only [first, ht, if_false] at h
      simp [place, ht, ih h]

/-- The types of conditions that this library writes. -/
def wellKnown : List String := ready :: ingressReady :: Kind.all.map Kind.conditionType

end Condition

/-! ### the well-known types are different -/

theorem Condition.ingressReady_ne_ready : Condition.ingressReady ≠ Condition.ready := by decide

theorem Kind.conditionType_ne_ready (k : Kind) : k.conditionType ≠ Condition.ready := by cases k <;> decide

theorem Kind.conditionType_ne_ingressReady (k : Kind) : k.conditionType ≠ Condition.ingressReady := by
  cases k <;> decide

namespace Status

/-- What the first condition of a type says. -/
def verdict? (s : Status) (type : String) : Option Verdict := (s.condition? type).map Condition.verdict

theorem verdict?_place (s : Status) (c : Condition) (type : String) :
    (s.place c).verdict? type = if type = c.type then some c.verdict else s.verdict? type := by
  unfold verdict?
  rw [condition?_place]
  split
  · cases s.condition? type <;> simp
  · rfl

@[simp] theorem verdict?_observe (s : Status) (k : Kind) (c : ComponentStatus) (type : String) :
    (s.observe k c).verdict? type = s.verdict? type := rfl

@[simp] theorem components_place (s : Status) (c : Condition) : (s.place c).components = s.components := rfl

@[simp] theorem components_observe (s : Status) (k : Kind) (c : ComponentStatus) :
    (s.observe k c).components = s.components.set k c := rfl

theorem place_eq_self {s : Status} {c : Condition} (h : s.verdict? c.type = some c.verdict) : s.place c = s := by
  unfold place
  rw [Condition.place_eq_self h]

theorem observe_eq_self {s : Status} {k : Kind} {c : ComponentStatus} (h : s.components.get k = some c) :
    s.observe k c = s := by
  have : s.components.set k c = s.components := by
    apply KindMap.ext_get
    intro x
    rw [KindMap.get_set]
    split
    · simp_all
    · rfl
  unfold observe
  rw [this]

theorem verdict?_eq_none_iff {s : Status} {type : String} :
    s.verdict? type = none ↔ ∀ c ∈ s.conditions, c.type ≠ type := by
  simp [verdict?, condition?, Condition.first_eq_none_iff]

end Status

namespace Ingress

theorem condition?_prune_kept {requested : List Kind} {s : Status} {type : String}
    (h : ∀ k, k ∉ requested → type ≠ k.conditionType) : (prune requested s).condition? type = s.condition? type := by
  unfold Status.condition? prune
  rw [Condition.first_filter]
  rintro c rfl
  simp only [List.all_eq_true, decide_eq_true_eq]
  intro k _
  by_cases hk : k ∈ requested
  · exact .inl hk
  · exact .inr (h k hk)

theorem condition?_prune_dropped {requested : List Kind} {s : Status} {k : Kind} (h : k ∉ requested) :
    (prune requested s).condition? k.conditionType = none := by
  unfold Status.condition? prune
  rw [Condition.first_filter_none]
  intro c hc
  simp only [List.all_eq_false]
  exact ⟨k, k.mem_all, by simp [h, hc]⟩

theorem verdict?_prune_kept {requested : List Kind} {s : Status} {type : String}
    (h : ∀ k, k ∉ requested → type ≠ k.conditionType) : (prune requested s).verdict? type = s.verdict? type := by
  unfold Status.verdict?
  rw [condition?_prune_kept h]

theorem verdict?_prune_dropped {requested : List Kind} {s : Status} {k : Kind} (h : k ∉ requested) :
    (prune requested s).verdict? k.conditionType = none := by
  unfold Status.verdict?
  rw [condition?_prune_dropped h, Option.map_none]

theorem verdict?_prune (requested : List Kind) (s : Status) (k : Kind) :
    (prune requested s).verdict? k.conditionType = if k ∈ requested then s.verdict? k.conditionType else none := by
  split
  · rename_i hk
    apply verdict?_prune_kept
    rintro k' hk' he
    exact hk' (Kind.conditionType_inj.1 he ▸ hk)
  · exact verdict?_prune_dropped ‹_›

/-- **Where nothing is left of components that are not requested, pruning changes nothing.** -/
theorem prune_eq_self {requested : List Kind} {s : Status} (hc : ∀ k, k ∉ requested → s.components.get k = none)
    (hv : ∀ k, k ∉ requested → s.verdict? k.conditionType = none) : prune requested s = s := by
  have components : s.components.restrict requested = s.components := by
    apply KindMap.ext_get
    intro k
    rw [KindMap.get_restrict]
    split
    · rfl
    · exact (hc k ‹_›).symm
  have conditions : (s.conditions.filter fun c =>
      Kind.all.all fun k => decide (k ∈ requested ∨ c.type ≠ k.conditionType)) = s.conditions := by
    rw [List.filter_eq_self]
    intro c hcs
    simp only [List.all_eq_true, decide_eq_true_eq]
    intro k _
    by_cases hk : k ∈ requested
    · exact .inl hk
    · exact .inr (Status.verdict?_eq_none_iff.1 (hv k hk) c hcs)
  unfold prune
  rw [components, conditions]

end Ingress

end ModelServing
