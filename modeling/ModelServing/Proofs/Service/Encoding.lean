import ModelServing.Proofs.Json.Arranged
import ModelServing.Proofs.Time.Rfc3339
import ModelServing.Service.Encoding

/-!
# Services read back

What is written of specs and statuses is read back, with the members of all objects in any order, as they come and as
data.

* `Table.arranged`, `ComponentSpec.arranged` and `Spec.arranged` put the parameters of a spec into the order of a rule:
  they are the only part of a spec or a status in which the order of members is seen;
* `Spec.Same` says that two specs ask for the same, `Spec.same_arranged` that the order makes no difference;
* `Spec.ofJson?_arranged` and `Status.read?_arranged` are the results, with one such equation for every part.
-/

namespace ModelServing

variable (o : Arrangement)

/-! ### numbers -/

theorem UInt32.ofJson?_toNat (n : UInt32) : UInt32.ofJson? (.int n.toNat) = some n := by
  have := n.toNat_lt
  simp only [UInt32.ofJson?, Json.intWithin?]
  rw [if_pos (by omega)]
  simp

theorem Int32.ofJson?_toInt (n : Int32) : Int32.ofJson? (.int n.toInt) = some n := by
  have := n.le_toInt
  have := n.toInt_lt
  simp only [Int32.ofJson?, Json.intWithin?]
  rw [if_pos (by omega)]
  simp

theorem Int64.ofJson?_toInt (n : Int64) : Int64.ofJson? (.int n.toInt) = some n := by
  have := n.le_toInt
  have := n.toInt_lt
  simp only [Int64.ofJson?, Json.intWithin?]
  rw [if_pos (by omega)]
  simp

/-! ### tables -/

namespace Table

variable {α : Type}

/-- The entries in the order of a rule. -/
def arranged (t : Table String α) : Table String α := ⟨o.apply t.entries, o.nodup_apply t.nodup⟩

theorem put_of_not_mem {k : String} {a : α} {l : List (String × α)} (h : k ∉ l.map Prod.fst) :
    put k a l = l ++ [(k, a)] := by
  induction l with
  | nil => rfl
  | cons e l ih =>
    simp only [List.map_cons, List.mem_cons, not_or] at h
    rw [put, if_neg (Ne.symm h.1), ih h.2, List.cons_append]

theorem entries_foldl_insert (t : Table String α) (l : List (String × α))
    (h : ((t.entries ++ l).map Prod.fst).Nodup) :
    (l.foldl (fun t e => t.insert e.1 e.2) t).entries = t.entries ++ l := by
  induction l generalizing t with
  | nil => simp
  | cons e l ih =>
    have fresh : e.1 ∉ t.entries.map Prod.fst := by
      rw [List.map_append, List.nodup_append] at h
      exact fun old => h.2.2 _ old _ (by simp) rfl
    have step : (t.insert e.1 e.2).entries = t.entries ++ [e] := put_of_not_mem fresh
    rw [List.foldl_cons, ih _ (by simpa [step] using h), step, List.append_assoc, List.singleton_append]

/-- Entries for different keys are put in as they come. -/
theorem ofList_entries (t : Table String α) : ofList t.entries = t := by
  have entries : (ofList t.entries).entries = t.entries :=
    entries_foldl_insert empty t.entries (by simpa [empty] using t.nodup)
  generalize ofList t.entries = t' at entries
  cases t
  cases t'
  simpa using entries

theorem ofJson?_arranged (t : Table String String) : Table.ofJson? (t.toJson.arranged o) = some (t.arranged o) := by
  have members : t.toJson.arranged o = .obj ((t.arranged o).entries.map fun e => (e.1, .str e.2)) := by
    rw [toJson, Json.arranged_obj, o.map, o.map, List.map_map]
    rfl
  have entries : Json.mapMembers? Json.str? ((t.arranged o).entries.map fun e => (e.1, .str e.2)) =
      some (t.arranged o).entries := by
    rw [Json.mapMembers?, List.mapM_map]
    exact (mapM_eq_some_map (g := id) fun _ _ => rfl).trans (by rw [List.map_id])
  simp only [Table.ofJson?, members, Json.obj?, entries, Option.bind_eq_bind, Option.bind_some, ofList_entries]

theorem find_eq_some_iff {k : String} {a : α} {l : List (String × α)} (h : (l.map Prod.fst).Nodup) :
    find k l = some a ↔ (k, a) ∈ l := by
  induction l with
  | nil => simp [find]
  | cons e l ih =>
    obtain ⟨k', a'⟩ := e
    rw [List.map_cons, List.nodup_cons] at h
    by_cases hk : k' = k
    · subst hk
      have gone : (k', a) ∉ l := fun later => h.1 (List.mem_map.2 ⟨_, later, rfl⟩)
      simp [find, gone, eq_comm]
    · simp [find, hk, ih h.2, Ne.symm hk]

@[simp] theorem get?_arranged (t : Table String α) (k : String) : (t.arranged o).get? k = t.get? k := by
  ext a
  rw [get?, get?, find_eq_some_iff (t.arranged o).nodup, find_eq_some_iff t.nodup]
  exact (o.perm t.entries).mem_iff

theorem arranged_of_isEmpty {t : Table String α} (h : t.isEmpty = true) : t.arranged o = empty := by
  obtain ⟨l, nodup⟩ := t
  obtain rfl : l = [] := by simpa [isEmpty] using h
  simp [arranged, empty, o.apply_nil]

@[simp] theorem arranged_asWritten (t : Table String α) : t.arranged .asWritten = t := rfl

end Table

/-! ### specs -/

namespace ComponentSpec

/-- The component spec with its parameters arranged. -/
def arranged (c : ComponentSpec) : ComponentSpec := { c with parameters := c.parameters.arranged o }

theorem ofJson?_arranged (c : ComponentSpec) : ofJson? (c.toJson.arranged o) = some (c.arranged o) := by
  have number := Json.optional_arranged o (w := fun n : UInt32 => .int n.toNat) (g := id) UInt32.ofJson?_toNat (by simp)
  have parameters := Json.orElse_arranged o (Table.arranged_of_isEmpty o) (c.parameters.ofJson?_arranged o)
  rw [ofJson?, toJson, Json.record?_arranged o]
  · simp only [List.map_cons, List.map_nil, Option.bind_eq_bind, Option.bind_some, number, parameters,
      Json.optional_str, Option.map_id_fun, id_eq]
    rfl
  · rfl
  · decide

theorem toJson_arranged_ne_null (c : ComponentSpec) : c.toJson.arranged o ≠ .null := by
  simp [toJson, Json.ofMembers, Json.arranged_obj]

/-- Two component specs with the same settings, and the same parameters by key. -/
structure Same (c d : ComponentSpec) : Prop where
  minReplicas : c.minReplicas = d.minReplicas
  maxReplicas : c.maxReplicas = d.maxReplicas
  serviceAccountName : c.serviceAccountName = d.serviceAccountName
  parameters : ∀ key, c.parameters.get? key = d.parameters.get? key

theorem same_arranged (c : ComponentSpec) : (c.arranged o).Same c := ⟨rfl, rfl, rfl, Table.get?_arranged o c.parameters⟩

end ComponentSpec

namespace Spec

/-- The spec with the parameters of every component arranged. -/
def arranged (s : Spec) : Spec :=
  ⟨s.predictor.arranged o, s.transformer.map (·.arranged o), s.explainer.map (·.arranged o)⟩

/-- **A spec is read back**, up to the order of its parameters. -/
theorem ofJson?_arranged (s : Spec) : ofJson? (s.toJson.arranged o) = some (s.arranged o) := by
  have component := Json.optional_arranged o (w := ComponentSpec.toJson) (ComponentSpec.ofJson?_arranged o)
    (ComponentSpec.toJson_arranged_ne_null o)
  rw [ofJson?, toJson, Json.record?_arranged o]
  · simp only [List.map_cons, List.map_nil, Option.bind_eq_bind, Option.bind_some, Option.map_some, Json.require,
      ComponentSpec.ofJson?_arranged, component]
    rfl
  · rfl
  · decide

/-- Two specs that ask for the same of the same components. -/
def Same (s t : Spec) : Prop := ∀ k, Option.Rel ComponentSpec.Same (s.component? k) (t.component? k)

theorem same_arranged (s : Spec) : (s.arranged o).Same s := by
  have optional (c : Option ComponentSpec) : Option.Rel ComponentSpec.Same (c.map (·.arranged o)) c := by
    cases c with
    | none => exact .none
    | some c => exact .some (c.same_arranged o)
  rintro (_ | _ | _)
  · exact .some (s.predictor.same_arranged o)
  · exact optional s.transformer
  · exact optional s.explainer

theorem arranged_asWritten (s : Spec) : s.arranged .asWritten = s := by
  obtain ⟨predictor, _ | transformer, _ | explainer⟩ := s <;> rfl

end Spec

/-! ### statuses -/

theorem ComponentStatus.ofJson?_arranged (c : ComponentStatus) : ofJson? (c.toJson.arranged o) = some c := by
  rw [ofJson?, toJson, Json.record?_arranged o]
  · simp only [List.map_cons, List.map_nil, Option.bind_eq_bind, Option.bind_some, Option.map_some, Json.orElse,
      Json.arranged_int, Int32.ofJson?_toInt, Json.optional_str]
  · rfl
  · decide

theorem Truth.read?_text (mode : Json.Mode) (v : Truth) : Truth.read? mode (.str v.text) = some v := ofText?_text v

theorem Instant.ofJson?_text {i : Instant} (era : inEra i.date.year = true) :
    Instant.ofJson? (.str i.text) = some i := by
  rw [Instant.ofJson?, Json.str?, Option.bind_some, parse?_text era]

theorem Condition.read?_arranged (mode : Json.Mode) {c : Condition} (era : Instant.inEra c.since.date.year = true) :
    read? mode (c.toJson.arranged o) = some c := by
  have members : c.toJson = Json.ofMembers [("type", some (.str c.type)), ("status", some c.status.toJson),
    ("reason", some (.str c.reason)), ("message", some (.str c.message)),
    ("lastTransitionTime", some (.str c.since.text))] := rfl
  rw [read?, members, Json.record?_arranged o]
  · simp only [List.map_cons, List.map_nil, Option.bind_eq_bind, Option.bind_some, Option.map_some, Json.require,
      Json.orElse, Truth.toJson, Json.arranged_str, Json.str?, Truth.read?_text, Instant.ofJson?_text era]
  · rfl
  · decide

namespace KindMap

variable {α : Type}

theorem mem_toList {m : KindMap α} {k : Kind} {a : α} : (k, a) ∈ m.toList ↔ m.get k = some a := by
  simp [toList, Kind.mem_all]

/-- Members that are named for different kinds are read as the map that has just these entries. -/
theorem exists_ofMembers? {read : Json → Option α} {write : α → Json} (back : ∀ a, read (write a) = some a)
    {ms : List (String × α)} (nodup : (ms.map Prod.fst).Nodup) (named : ∀ e ∈ ms, ∃ k : Kind, k.name = e.1) :
    ∃ m, ofMembers? read (ms.map fun e => (e.1, write e.2)) = some m ∧ ∀ k a, m.get k = some a ↔ (k.name, a) ∈ ms := by
  induction ms with
  | nil => exact ⟨⟨none, none, none⟩, rfl, fun k a => by cases k <;> simp [get]⟩
  | cons e ms ih =>
    obtain ⟨name, a⟩ := e
    obtain ⟨k, rfl⟩ := named _ (List.mem_cons_self ..)
    rw [List.map_cons, List.nodup_cons] at nodup
    obtain ⟨rest, read_rest, get_rest⟩ := ih nodup.2 fun e he => named e (List.mem_cons_of_mem _ he)
    have gone (b : α) : (k.name, b) ∉ ms := fun later => nodup.1 (List.mem_map.2 ⟨_, later, rfl⟩)
    have fresh : rest.get k = none := Option.eq_none_iff_forall_ne_some.2 fun b h => gone b ((get_rest k b).1 h)
    refine ⟨rest.set k a, ?_, fun x b => ?_⟩
    · simp [ofMembers?, Kind.ofName?_name, back, read_rest, fresh]
    · rw [get_set]
      split
      · rename_i same
        simp [same, gone b, eq_comm]
      · rename_i other
        simp [get_rest, Kind.name_inj, other]

theorem ofJson?_arranged {read : Json → Option α} {write : α → Json}
    (back : ∀ a, read ((write a).arranged o) = some a) (m : KindMap α) :
    ofJson? read ((m.toJson write).arranged o) = some m := by
  have members : (m.toJson write).arranged o =
      .obj ((o.apply (m.toList.map fun e => (e.1.name, e.2))).map fun e => (e.1, (write e.2).arranged o)) := by
    rw [toJson, Json.arranged_obj, ← o.map fun a => (write a).arranged o,
      List.map_map, List.map_map]
    rfl
  have nodup : ((m.toList.map fun e => (e.1.name, e.2)).map Prod.fst).Nodup := by
    obtain ⟨_ | p, _ | t, _ | e⟩ := m <;> simp [toList, Kind.all, get, Kind.name]
  obtain ⟨m', read, get⟩ := exists_ofMembers? back (o.nodup_apply nodup) (by
    intro e he
    rw [(o.perm _).mem_iff, List.mem_map] at he
    obtain ⟨e, -, rfl⟩ := he
    exact ⟨e.1, rfl⟩)
  rw [ofJson?, members, Json.obj?, Option.bind_some, read]
  refine congrArg some (ext_get fun k => ?_)
  ext a
  rw [get, (o.perm _).mem_iff, ← mem_toList, List.mem_map]
  constructor
  · rintro ⟨⟨k', a'⟩, h, same⟩
    obtain ⟨hk, rfl⟩ := Prod.mk.inj same
    rwa [← Kind.name_inj.1 hk]
  · intro h
    exact ⟨(k, a), h, rfl⟩

theorem eq_of_isEmpty {m : KindMap α} (h : m.isEmpty = true) : m = ⟨none, none, none⟩ := by
  obtain ⟨_ | p, _ | t, _ | e⟩ := m <;> simp [isEmpty] at h ⊢

end KindMap

namespace Status

/-- The years of all conditions can be told. -/
def InEra (s : Status) : Prop := ∀ c ∈ s.conditions, Instant.inEra c.since.date.year = true

/-- **A status is read back**, whatever order members come in. -/
theorem read?_arranged (mode : Json.Mode) {s : Status} (era : s.InEra) : read? mode (s.toJson.arranged o) = some s := by
  have list : Json.list? (Condition.read? mode) ((Json.arr (s.conditions.map Condition.toJson)).arranged o) =
      some s.conditions := by
    rw [Json.arranged_arr, List.map_map, Json.list?, Json.arr?, Option.bind_some, List.mapM_map]
    exact (mapM_eq_some_map (g := id) fun c hc => c.read?_arranged o mode (era c hc)).trans (by rw [List.map_id])
  have conditions := Json.orElse_arranged o (List.isEmpty_iff (l := s.conditions)).1 list
  have components := Json.orElse_arranged o KindMap.eq_of_isEmpty
    (s.components.ofJson?_arranged o (ComponentStatus.ofJson?_arranged o))
  have generation := Json.optional_arranged o (w := fun n : Int64 => .int n.toInt) (g := id) Int64.ofJson?_toInt
    (by simp) s.observedGeneration
  rw [read?, toJson, Json.record?_arranged o]
  · simp only [List.map_cons, List.map_nil, Option.bind_eq_bind, Option.bind_some, conditions, components, generation,
      Json.optional_str, Option.map_id_fun, id_eq]
  · rfl
  · decide

theorem toJson_arranged_ne_null (s : Status) : s.toJson.arranged o ≠ .null := by
  simp [toJson, Json.ofMembers, Json.arranged_obj]

end Status

end ModelServing
