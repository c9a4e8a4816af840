/-!
# Tables

A finite map as the list of its entries: each key stands once, in the order in which the keys first came.

* `Table.get?` reads an entry, `Table.insert` writes one in place or at the end, `Table.erase` drops one;
* `get?_insert` and `get?_erase` say what a write does to every key, so that nothing else has to look at the list.
-/

namespace ModelServing

/-- A finite map from `κ` to `α`, with every key at most once. -/
structure Table (κ α : Type) where
  entries : List (κ × α)
  nodup : (entries.map Prod.fst).Nodup
deriving DecidableEq

namespace Table

/-- The table without entries. -/
def empty {κ α : Type} : Table κ α := ⟨[], List.nodup_nil⟩

instance {κ α : Type} : Inhabited (Table κ α) := ⟨empty⟩

/-- Whether the table has no entries. -/
def isEmpty {κ α : Type} (t : Table κ α) : Bool := t.entries.isEmpty

/-- The keys, in order. -/
def keys {κ α : Type} (t : Table κ α) : List κ := t.entries.map Prod.fst

variable {κ α : Type} [DecidableEq κ]

/-! ### entries as lists -/

/-- The value of the first entry for `k`. -/
def find (k : κ) : List (κ × α) → Option α
  | [] => none
  | (k', a) :: r => if k' = k then some a else find k r

/-- The first entry for `k` replaced, or a new one at the end. -/
def put (k : κ) (a : α) : List (κ × α) → List (κ × α)
  | [] => [(k, a)]
  | (k', a') :: r => if k' = k then (k, a) :: r else (k', a') :: put k a r

theorem mem_keys_put {k x : κ} {a : α} {l : List (κ × α)} :
    x ∈ (put k a l).map Prod.fst ↔ x = k ∨ x ∈ l.map Prod.fst := by
  induction l with
  | nil => simp [put]
  | cons e r ih =>
    obtain ⟨k', a'⟩ := e
    by_cases h : k' = k
    · subst h; simp [put]
    · simp only [put, h, if_false, List.map_cons, List.mem_cons, ih]
      constructor
      · rintro (h1 | h1 | h1) <;> simp [h1]
      · rintro (h1 | h1 | h1) <;> simp [h1]

theorem nodup_put {k : κ} {a : α} {l : List (κ × α)} (h : (l.map Prod.fst).Nodup) :
    ((put k a l).map Prod.fst).Nodup := by
  induction l with
  | nil => simp [put]
  | cons e r ih =>
    obtain ⟨k', a'⟩ := e
    simp only [List.map_cons, List.nodup_cons] at h
    by_cases hk : k' = k
    · subst hk; simpa [put] using h
    · simp only [put, hk, if_false, List.map_cons, List.nodup_cons, mem_keys_put]
      exact ⟨by simpa [hk] using h.1, ih h.2⟩

theorem find_put {k x : κ} {a : α} {l : List (κ × α)} :
    find x (put k a l) = if x = k then some a else find x l := by
  induction l with
  | nil =>
    by_cases h : x = k
    · simp [put, find, h]
    · simp [put, find, h, Ne.symm h]
  | cons e r ih =>
    obtain ⟨k', a'⟩ := e
    by_cases hk : k' = k
    · subst hk
      by_cases hx : x = k' <;> simp [put, find, hx, eq_comm]
    · by_cases hx : x = k
      · subst hx; simp [put, find, hk, ih]
      · by_cases hx' : k' = x <;> simp [put, find, hk, hx, hx', ih]

/-! ### operations -/

/-- The value of `k`, if it has one. -/
def get? (t : Table κ α) (k : κ) : Option α := find k t.entries

/-- Whether `k` has an entry. -/
def contains (t : Table κ α) (k : κ) : Bool := (t.get? k).isSome

/-- `k` set to `a`; an entry that was there keeps its place. -/
def insert (t : Table κ α) (k : κ) (a : α) : Table κ α := ⟨put k a t.entries, nodup_put t.nodup⟩

/-- The table without the entry of `k`. -/
def erase (t : Table κ α) (k : κ) : Table κ α :=
  ⟨t.entries.filter (fun e => e.1 ≠ k),
    (List.Sublist.map Prod.fst List.filter_sublist).nodup t.nodup⟩

/-- The table of a list of entries; of two entries for one key the later one counts. -/
def ofList (l : List (κ × α)) : Table κ α := l.foldl (fun t e => t.insert e.1 e.2) empty

@[simp] theorem get?_empty (k : κ) : (empty : Table κ α).get? k = none := rfl

theorem get?_insert (t : Table κ α) (k x : κ) (a : α) :
    (t.insert k a).get? x = if x = k then some a else t.get? x := find_put

theorem get?_erase (t : Table κ α) (k x : κ) :
    (t.erase k).get? x = if x = k then none else t.get? x := by
  obtain ⟨l, hl⟩ := t
  simp only [get?, erase]
  clear hl
  induction l with
  | nil => simp [find]
  | cons e r ih =>
    obtain ⟨k', a'⟩ := e
    by_cases hk : k' = k
    · subst hk
      by_cases hx : x = k'
      · subst hx; simpa using ih
      · have : ¬ k' = x := fun h => hx h.symm
        simpa [find, hx, this] using ih
    · by_cases hx : k' = x
      · subst hx; simp [find, hk]
      · simpa [find, hk, hx] using ih

end Table

end ModelServing
