import Mathlib.Data.List.DropRight
import ModelServing.Proofs.Pass.Stamps

/-!
# Conditions and their history

What is left of any number of conditions that were placed in a status, one after the other.

* `Condition.about` are those of one type, `Condition.spell` the last ones in a row with one value, and
  `Condition.latest?` is what conditions of one type come to: the last one, since the first one of its spell;
* `condition?_placed` says that the status has just that under every type, where the condition that was there first
  counts as placed first; `types_placed` says in which order the types stand;
* `Recalls` is the same with the condition that was there first set apart;
* `Status.edited` mixes placements with the forgetting of components, and `Apart.edited` says that no two conditions
  ever come to have one type;
* `placed_recalls` is all of this together.
-/

namespace ModelServing

namespace Condition

variable {type : String} {v : Truth} {c : Condition} {cs : List Condition} {old : Option Condition}

/-! ### conditions of one type -/

/-- The conditions of a type, in order. -/
def about (type : String) (cs : List Condition) : List Condition := cs.filter fun c => decide (c.type = type)

/-- The last conditions in a row that have the value. -/
def spell (v : Truth) (cs : List Condition) : List Condition := cs.rtakeWhile fun c => decide (c.status = v)

/-- What conditions of one type come to: the last one, since the time of the first one in a row with its value. -/
def latest? (cs : List Condition) : Option Condition :=
  cs.getLast?.bind fun last => (spell last.status cs).head?.map fun first => { last with since := first.since }

theorem about_concat :
    about type (cs ++ [c]) = if type = c.type then about type cs ++ [c] else about type cs := by
  unfold about
  rw [List.filter_append]
  by_cases h : c.type = type
  · simp [h]
  · simp [h, Ne.symm h]

theorem about_eq_nil_iff : about type cs = [] ↔ ∀ c ∈ cs, c.type ≠ type := by
  simp [about]

theorem spell_concat : spell v (cs ++ [c]) = if c.status = v then spell v cs ++ [c] else [] := by
  unfold spell
  rw [List.rtakeWhile_concat]
  simp

theorem spell_cons (o : Condition) :
    spell v (o :: cs) = if spell v cs = cs ∧ o.status = v then o :: cs else spell v cs := by
  induction cs using List.reverseRecOn with
  | nil =>
    have alone : spell v ([] ++ [o]) = if o.status = v then spell v [] ++ [o] else [] := spell_concat
    simpa [spell] using alone
  | append_singleton cs c ih =>
    rw [← List.cons_append, spell_concat, spell_concat, ih]
    by_cases hc : c.status = v
    · by_cases all : spell v cs = cs ∧ o.status = v
      · simp [hc, all]
      · simp [hc, all]
    · simp [hc]

/-- One more condition follows what the ones before it come to. -/
theorem latest?_concat : latest? (cs ++ [c]) = some ((latest? cs).elim c c.follow) := by
  unfold latest?
  rw [List.getLast?_concat, Option.bind_some, spell_concat, if_pos rfl]
  induction cs using List.reverseRecOn with
  | nil => simp [spell]
  | append_singleton cs old _ =>
    rw [List.getLast?_concat, Option.bind_some, spell_concat, spell_concat, if_pos rfl]
    by_cases same : old.status = c.status
    · -- the spell of the old condition goes on
      obtain ⟨first, rest, hs⟩ : ∃ first rest, spell c.status cs ++ [old] = first :: rest :=
        List.exists_cons_of_ne_nil (by simp)
      rw [same, if_pos rfl, hs]
      simp [follow]
    · rw [if_neg same]
      cases hs : spell old.status cs <;> simp [follow, same]

theorem exists_latest? (placed : cs ≠ []) : ∃ c, latest? cs = some c := by
  obtain none | ⟨cs, c, rfl⟩ := List.eq_nil_or_concat' cs
  · exact absurd none placed
  · exact ⟨_, latest?_concat⟩

/-! ### the first condition set apart -/

/-- What is left where `old` was found under a type and the conditions `cs` were placed over it: it says what the last
of them says. Its time is that of `old`, if all of them, and `old` itself, have one value, and else that of the first
one of the last ones in a row with its value. -/
structure Recalls (old : Option Condition) (cs : List Condition) (c : Condition) : Prop where
  last : cs.getLast?.map verdict = some c.verdict
  kept : ∀ o, old = some o → o.status = c.status → spell c.status cs = cs → c.since = o.since
  dated : (spell c.status cs ≠ cs ∨ ∀ o, old = some o → o.status ≠ c.status) →
    (spell c.status cs).head?.map since = some c.since

theorem recalls_of_latest? (placed : cs ≠ []) (h : latest? (old.toList ++ cs) = some c) : Recalls old cs c := by
  obtain ⟨last, hlast, h⟩ := Option.bind_eq_some_iff.1 h
  obtain ⟨first, hfirst, rfl⟩ := Option.map_eq_some_iff.1 h
  rw [List.getLast?_append_of_ne_nil _ placed] at hlast
  have words : cs.getLast?.map verdict = some (verdict { last with since := first.since }) := by rw [hlast]; rfl
  cases old with
  | none => exact ⟨words, by simp, fun _ => congrArg (Option.map since) hfirst⟩
  | some o =>
    rw [Option.toList_some, List.singleton_append, spell_cons] at hfirst
    split at hfirst
    · -- the spell goes back to the condition that was there first
      rename_i all
      obtain rfl := Option.some.inj hfirst
      refine ⟨words, ?_, ?_⟩
      · intro o' ho _ _
        rw [← Option.some.inj ho]
      · rintro (broken | other)
        · exact absurd all.1 broken
        · exact absurd all.2 (other o rfl)
    · rename_i notAll
      refine ⟨words, ?_, fun _ => congrArg (Option.map since) hfirst⟩
      intro o' ho same whole
      obtain rfl := Option.some.inj ho
      exact absurd ⟨whole, same⟩ notAll

end Condition

/-! ### placements -/

namespace Status

variable {s : Status} {type : String} {c : Condition} {cs : List Condition}

/-- The types of the conditions, in order. -/
def types (s : Status) : List String := s.conditions.map Condition.type

/-- The status after the conditions were placed in it, one after the other. -/
def placed (s : Status) (cs : List Condition) : Status := cs.foldl place s

theorem placed_concat : s.placed (cs ++ [c]) = (s.placed cs).place c := List.foldl_append

/-- **The condition of a type is what its history comes to**, beginning with the condition that was there first. -/
theorem condition?_placed :
    (s.placed cs).condition? type = Condition.latest? ((s.condition? type).toList ++ Condition.about type cs) := by
  induction cs using List.reverseRecOn with
  | nil =>
    show s.condition? type = _
    cases s.condition? type with
    | none => rfl
    | some c => exact (@Condition.latest?_concat c []).symm
  | append_singleton cs c ih =>
    rw [placed_concat, condition?_place, Condition.about_concat]
    split
    · rw [← List.append_assoc, Condition.latest?_concat, ih]
    · exact ih

/-- **New types come behind the old ones**, in the order in which they were first placed. -/
theorem types_placed :
    (s.placed cs).types =
      s.types ++ ((cs.map Condition.type).filter fun type => decide (type ∉ s.types)).eraseDups := by
  induction cs using List.reverseRecOn with
  | nil => simp [placed]
  | append_singleton cs c ih =>
    have step : (s.placed (cs ++ [c])).types =
        if c.type ∈ (s.placed cs).types then (s.placed cs).types else (s.placed cs).types ++ [c.type] := by
      rw [placed_concat]
      exact Condition.map_type_place c _
    rw [step, ih, List.map_append, List.filter_append]
    generalize (cs.map Condition.type).filter (fun type => decide (type ∉ s.types)) = news
    by_cases old : c.type ∈ s.types
    · simp [old]
    · rw [List.eraseDups_append]
      by_cases again : c.type ∈ news
      · simp [old, again, List.removeAll]
      · simp [old, again, List.removeAll, List.eraseDups_cons]

theorem Apart.place (h : s.Apart) (c : Condition) : (s.place c).Apart := Condition.nodup_place h

theorem Apart.placed (h : s.Apart) (cs : List Condition) : (s.placed cs).Apart := by
  induction cs generalizing s with
  | nil => exact h
  | cons c cs ih => exact ih (h.place c)

/-! ### placements and forgetting -/

/-- What is done to the conditions of a status: one is placed, or those of components that are not requested are
forgotten. -/
inductive Edit where
  | place (c : Condition)
  | prune (requested : List Kind)

def edit (s : Status) : Edit → Status
  | .place c => s.place c
  | .prune requested => Ingress.prune requested s

/-- The status after a list of edits. -/
def edited (s : Status) (edits : List Edit) : Status := edits.foldl edit s

theorem Apart.edited (h : s.Apart) (edits : List Edit) : (s.edited edits).Apart := by
  induction edits generalizing s with
  | nil => exact h
  | cons e edits ih =>
    cases e with
    | place c => exact ih (h.place c)
    | prune requested => exact ih (h.prune requested)

/-- **A status recalls its history.** Where no two conditions have one type, and any conditions are placed one after the
other, there still are no two of one type, and the types stand in the order of the old ones, followed by the new ones as
they were first placed. Every type that was placed recalls the conditions that were placed for it, beginning with the
one that was there, and all others have the condition that they had. No two conditions ever come to have one type while
components are forgotten in between. -/
theorem placed_recalls (apart : s.Apart) (cs : List Condition) :
    (s.placed cs).Apart ∧
    (s.placed cs).types =
      s.types ++ ((cs.map Condition.type).filter fun type => decide (type ∉ s.types)).eraseDups ∧
    (∀ type ∈ cs.map Condition.type, ∃ c, (s.placed cs).condition? type = some c ∧
      Condition.Recalls (s.condition? type) (Condition.about type cs) c) ∧
    (∀ type, type ∉ cs.map Condition.type → (s.placed cs).condition? type = s.condition? type) ∧
    ∀ edits, (s.edited edits).Apart := by
  refine ⟨apart.placed cs, types_placed, fun type placed => ?_, fun type other => ?_, apart.edited⟩
  · have present : Condition.about type cs ≠ [] := by
      obtain ⟨c, hc, rfl⟩ := List.mem_map.1 placed
      exact fun none => Condition.about_eq_nil_iff.1 none c hc rfl
    obtain ⟨c, hc⟩ : ∃ c, Condition.latest? ((s.condition? type).toList ++ Condition.about type cs) = some c :=
      Condition.exists_latest? (List.append_ne_nil_of_right_ne_nil _ present)
    exact ⟨c, condition?_placed.trans hc, Condition.recalls_of_latest? present hc⟩
  · have none : Condition.about type cs = [] :=
      Condition.about_eq_nil_iff.2 fun c hc same => other (List.mem_map.2 ⟨c, hc, same⟩)
    have unplaced : s.condition? type = (s.placed []).condition? type := rfl
    rw [unplaced, condition?_placed, condition?_placed, none]
    rfl

end Status

namespace Pass.Shop

/-- A status with a condition of somebody else's. -/
def early : Status where
  conditions := [⟨Condition.ready, .yes, "", "open", noon⟩, ⟨"Owner", .no, "", "", noon⟩]

/-- What happens in a shop that closes for lunch, by clocks that do not agree. -/
def turns : List Condition :=
  [⟨Condition.ready, .no, "", "lunch", noon.tick.tick⟩, ⟨"PredictorReady", .yes, "", "", noon⟩,
    ⟨Condition.ready, .yes, "", "open", noon.tick⟩, ⟨Condition.ready, .yes, "", "busy", noon⟩]

end Pass.Shop

namespace Status

/-- The shop is open since it came back from lunch, and no longer since the morning. -/
theorem placed_recalls_shop :
    Pass.Shop.early.Apart ∧
    (Pass.Shop.early.placed Pass.Shop.turns).types = ["Ready", "Owner", "PredictorReady"] ∧
    (∃ c, (Pass.Shop.early.placed Pass.Shop.turns).condition? "Ready" = some c ∧
      Condition.Recalls (Pass.Shop.early.condition? "Ready") (Condition.about "Ready" Pass.Shop.turns) c ∧
      c = ⟨"Ready", .yes, "", "busy", Pass.Shop.noon.tick⟩) ∧
    (Pass.Shop.early.placed Pass.Shop.turns).condition? "Owner" = Pass.Shop.early.condition? "Owner" := by
  have apart : Pass.Shop.early.Apart := by
    unfold Apart
    decide
  obtain ⟨-, types, recalls, kept, -⟩ := placed_recalls apart Pass.Shop.turns
  obtain ⟨c, hc, recalled⟩ := recalls "Ready" (by decide)
  exact ⟨apart, types.trans (by decide), ⟨c, hc, recalled, Option.some.inj (hc.symm.trans (by decide))⟩,
    kept "Owner" (by decide)⟩

end Status

end ModelServing
