import ModelServing.Json
import Mathlib.Data.List.Nodup

/-!
# The order of members

The members of an object may come back in another order than they were written in. Records are read by name, so that
the order does not matter to them.

* `Arrangement` is a rule for the order of members: `asWritten` leaves it as it is, `byName` sorts them;
* `Json.arranged` puts the members of every object inside a value into the order of a rule;
* `Json.record?_arranged` gives the fields of a record that was written without those that are absent;
* `Json.optional_arranged` and `Json.orElse_arranged` read one of them.
-/

namespace ModelServing

theorem mapM_eq_some_map {α β : Type} {f : α → Option β} {g : α → β} {l : List α} (h : ∀ a ∈ l, f a = some (g a)) :
    l.mapM f = some (l.map g) := by
  induction l with
  | nil => rfl
  | cons a l ih =>
    rw [List.mapM_cons, h a (by simp), ih fun b hb => h b (by simp [hb])]
    rfl

/-- A rule for the order of members, which looks at nothing but their names. -/
structure Arrangement where
  apply : {α : Type} → List (String × α) → List (String × α)
  perm : ∀ {α : Type} (ms : List (String × α)), (apply ms).Perm ms
  map : ∀ {α β : Type} (f : α → β) (ms : List (String × α)),
    apply (ms.map fun m => (m.1, f m.2)) = (apply ms).map fun m => (m.1, f m.2)

namespace Arrangement

/-- The order as it is. -/
def asWritten : Arrangement where
  apply ms := ms
  perm ms := .refl ms
  map _ _ := rfl

/-- The order of the names. -/
def byName : Arrangement where
  apply ms := ms.mergeSort fun a b => decide (a.1 ≤ b.1)
  perm ms := List.mergeSort_perm ms _
  map f _ := (List.map_mergeSort (f := fun m : String × _ => (m.1, f m.2)) fun _ _ _ _ => rfl).symm

variable (o : Arrangement) {α : Type}

theorem apply_nil : o.apply ([] : List (String × α)) = [] := (o.perm []).eq_nil

theorem apply_singleton (m : String × α) : o.apply [m] = [m] := List.perm_singleton.1 (o.perm [m])

theorem nodup_apply {ms : List (String × α)} (h : (ms.map Prod.fst).Nodup) : ((o.apply ms).map Prod.fst).Nodup :=
  ((o.perm ms).map Prod.fst).nodup_iff.2 h

end Arrangement

namespace Json

mutual

/-- The value with the members of all objects inside it arranged. -/
def arranged (o : Arrangement) : Json → Json
  | .arr items => .arr (arrangedItems o items)
  | .obj members => .obj (o.apply (arrangedMembers o members))
  | j => j

/-- The items of an array, arranged. -/
def arrangedItems (o : Arrangement) : List Json → List Json
  | [] => []
  | x :: xs => arranged o x :: arrangedItems o xs

/-- The members of an object with their values arranged. -/
def arrangedMembers (o : Arrangement) : List (String × Json) → List (String × Json)
  | [] => []
  | (name, x) :: ms => (name, arranged o x) :: arrangedMembers o ms

end

variable (o : Arrangement)

theorem arrangedItems_eq_map (items : List Json) : arrangedItems o items = items.map (arranged o) := by
  induction items with
  | nil => rfl
  | cons x xs ih => rw [arrangedItems, ih, List.map_cons]

theorem arrangedMembers_eq_map (members : List (String × Json)) :
    arrangedMembers o members = members.map fun m => (m.1, arranged o m.2) := by
  induction members with
  | nil => rfl
  | cons m ms ih => rw [arrangedMembers, ih, List.map_cons]

theorem arranged_arr (items : List Json) : (arr items).arranged o = .arr (items.map (arranged o)) := by
  rw [arranged, arrangedItems_eq_map]

theorem arranged_obj (members : List (String × Json)) :
    (obj members).arranged o = .obj (o.apply (members.map fun m => (m.1, arranged o m.2))) := by
  rw [arranged, arrangedMembers_eq_map]

@[simp] theorem arranged_int (i : Int) : (int i).arranged o = .int i := rfl

@[simp] theorem arranged_str (s : String) : (str s).arranged o = .str s := rfl

mutual

theorem arranged_asWritten : ∀ j : Json, j.arranged .asWritten = j
  | .null => rfl
  | .bool _ => rfl
  | .int _ => rfl
  | .float _ => rfl
  | .str _ => rfl
  | .arr items => congrArg arr (arrangedItems_asWritten items)
  | .obj members => congrArg obj (arrangedMembers_asWritten members)
  | .unreadable => rfl

theorem arrangedItems_asWritten : ∀ items : List Json, arrangedItems .asWritten items = items
  | [] => rfl
  | x :: xs => by rw [arrangedItems, arranged_asWritten x, arrangedItems_asWritten xs]

theorem arrangedMembers_asWritten : ∀ members : List (String × Json), arrangedMembers .asWritten members = members
  | [] => rfl
  | (name, x) :: ms => by rw [arrangedMembers, arranged_asWritten x, arrangedMembers_asWritten ms]

end

/-! ### reading by name -/

section single?

variable {ms : List (String × Json)} {name : String}

theorem single?_of_not_mem (h : name ∉ ms.map Prod.fst) : single? ms name = some none := by
  have nothing : ms.filter (·.1 == name) = [] := by
    rw [List.filter_eq_nil_iff]
    intro m hm hn
    exact h (List.mem_map.2 ⟨m, hm, by simpa using hn⟩)
  simp only [single?, nothing]

theorem single?_of_mem {v : Json} (nodup : (ms.map Prod.fst).Nodup) (h : (name, v) ∈ ms) :
    single? ms name = some (some v) := by
  have one : ms.filter (·.1 == name) = [(name, v)] := by
    induction ms with
    | nil => cases h
    | cons m ms ih =>
      rw [List.map_cons, List.nodup_cons] at nodup
      rcases List.mem_cons.1 h with rfl | later
      · have nothing : ms.filter (·.1 == name) = [] := by
          rw [List.filter_eq_nil_iff]
          intro m hm hn
          exact nodup.1 (List.mem_map.2 ⟨m, hm, by simpa using hn⟩)
        simp [nothing]
      · have other : m.1 ≠ name := fun hn => nodup.1 (hn ▸ List.mem_map.2 ⟨_, later, rfl⟩)
        simp [other, ih nodup.2 later]
  simp only [single?, one]

end single?

/-- The names of the fields that are there are names of fields, in order. -/
theorem names_sublist (fields : List (String × Option Json)) :
    ((fields.filterMap fun f => f.2.map (f.1, ·)).map Prod.fst).Sublist (fields.map Prod.fst) := by
  induction fields with
  | nil => exact .slnil
  | cons f fields ih =>
    obtain ⟨name, _ | v⟩ := f
    · simpa using ih.cons name
    · simpa using ih

/-- **Fields come back by name.** A record that was written without its absent fields has all the others, in whatever
order its members come. -/
theorem record?_arranged {least : Nat} {names : List String} {fields : List (String × Option Json)}
    (hn : names = fields.map Prod.fst) (nodup : names.Nodup) :
    ((ofMembers fields).arranged o).record? least names = some (fields.map fun f => f.2.map (arranged o)) := by
  subst hn
  rw [ofMembers, arranged_obj, record?]
  generalize hms : o.apply ((fields.filterMap fun f => f.2.map (f.1, ·)).map fun m => (m.1, arranged o m.2)) = ms
  have members : ∀ name v, (name, v) ∈ ms ↔ ∃ w, (name, some w) ∈ fields ∧ w.arranged o = v := by
    intro name v
    subst hms
    rw [(o.perm _).mem_iff]
    simp
  have distinct : (ms.map Prod.fst).Nodup := by
    subst hms
    apply o.nodup_apply
    rw [List.map_map]
    exact (names_sublist fields).nodup nodup
  rw [List.mapM_map]
  refine mapM_eq_some_map ?_
  rintro ⟨name, _ | v⟩ hf
  · refine single?_of_not_mem fun h => ?_
    obtain ⟨⟨_, v⟩, hv, rfl⟩ := List.mem_map.1 h
    obtain ⟨w, hw, -⟩ := (members _ _).1 hv
    cases List.inj_on_of_nodup_map nodup hf hw rfl
  · exact single?_of_mem distinct ((members _ _).2 ⟨v, hf, rfl⟩)

variable {α β : Type}

theorem optional_of_ne_null {r : Json → Option α} {j : Json} (h : j ≠ .null) :
    optional r (some j) = (r j).map some := by
  unfold optional
  split
  · rename_i absent
    cases absent
  · rename_i null
    exact absurd (Option.some.inj null) h
  · rename_i there
    rw [Option.some.inj there]

/-- A field that may be absent, and is not null where it stands. -/
theorem optional_arranged {w : α → Json} {r : Json → Option β} {g : α → β}
    (back : ∀ a, r ((w a).arranged o) = some (g a)) (there : ∀ a, (w a).arranged o ≠ .null) (a : Option α) :
    optional r ((a.map w).map (arranged o)) = some (a.map g) := by
  cases a with
  | none => rfl
  | some a =>
    rw [Option.map_some, Option.map_some, optional_of_ne_null (there a), back, Option.map_some, Option.map_some]

theorem optional_str (s : Option String) : optional str? ((s.map str).map (arranged o)) = some s := by
  cases s <;> rfl

/-- A field that is absent where it would be the default. -/
theorem orElse_arranged {read : Json → Option α} {default a : α} {absent : Bool} {j : Json}
    (left : absent = true → a = default) (back : read (j.arranged o) = some a) :
    orElse read default ((if absent then none else some j : Option Json).map (arranged o)) = some a := by
  cases absent with
  | true => rw [left rfl]; rfl
  | false => exact back

end Json

end ModelServing
