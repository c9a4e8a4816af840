import ModelServing.Failure
import ModelServing.Service
import ModelServing.Text.Digits

/-!
# Stores

Services by key, in memory, with the rule that a status is written only over the version that its writer has seen.

* `Store.put` and `Store.delete` are what other clients do;
* `Store.write` stores the status of a service and moves its version on, or refuses;
* `get?_write` says that a write changes the written key alone, and there only status and version.
-/

namespace ModelServing

/-- The version after a change: the next number, or the same version if it is no number. -/
def nextVersion (s : String) : String :=
  match Text.word? s with
  | some n => toString (n + 1)
  | none => s

/-- Services by key. -/
structure Store where
  services : Table Key Service := Table.empty

namespace Store

/-- The stored service. -/
def get? (st : Store) (key : Key) : Option Service := st.services.get? key

/-- The service stored under its own key; one without namespace has none. -/
def put (st : Store) (s : Service) : Store :=
  match s.key? with
  | some key => ⟨st.services.insert key s⟩
  | none => st

/-- Nothing stored under the key. -/
def delete (st : Store) (key : Key) : Store := ⟨st.services.erase key⟩

/-- Whether both versions are known and they differ. -/
def stale (seen stored : Option String) : Bool :=
  match seen, stored with
  | some a, some b => a != b
  | _, _ => false

/-- `stored` with the status of `s` and the next version. -/
def committed (stored s : Service) : Service :=
  { stored with
    status := s.status
    metadata := { stored.metadata with resourceVersion := stored.metadata.resourceVersion.map nextVersion } }

/-- The status of `s` stored, unless the object is gone or has another version. -/
def write (st : Store) (s : Service) : Except Failure Store :=
  match s.key? with
  | none => .error (.unscoped s.name)
  | some key =>
    match st.get? key with
    | none => .error (.internal Failure.unnamed "status write for missing object")
    | some stored =>
      if stale s.metadata.resourceVersion stored.metadata.resourceVersion then
        .error (.client (.refused Refusal.modified))
      else .ok ⟨st.services.insert key (committed stored s)⟩

theorem get?_delete (st : Store) (key k : Key) :
    (st.delete key).get? k = if k = key then none else st.get? k := Table.get?_erase _ _ _

theorem get?_write {st st' : Store} {s : Service} (h : st.write s = .ok st') :
    ∃ key stored, s.key? = some key ∧ st.get? key = some stored ∧
      ∀ k, st'.get? k = if k = key then some (committed stored s) else st.get? k := by
  unfold write at h
  split at h
  · cases h
  · rename_i key hkey
    split at h
    · cases h
    · rename_i stored hstored
      split at h
      · cases h
      · cases h
        exact ⟨key, stored, hkey, hstored, fun k => Table.get?_insert _ _ _ _⟩

end Store

end ModelServing
