import ModelServing.Service
import ModelServing.Table

/-!
# Agendas

Which pass is due when.

* a key has at most one pass due, at the earliest time that was called for: `time?_call`;
* `Agenda.first?` is the pass that is due first, of several at one time the one whose key comes first as a text.
-/

namespace ModelServing

/-- The keys with the times, in milliseconds, at which their passes are due. -/
structure Agenda where
  due : Table Key Nat := Table.empty

namespace Agenda

/-- When the pass of a key is due. -/
def time? (a : Agenda) (key : Key) : Option Nat := a.due.get? key

/-- How far ahead a pass can be put down, a little less than `2 ^ 36` milliseconds. -/
def reach : Nat := 68719476735

/-- The agenda after a pass is called for, none if it would have to be put down too far ahead. -/
def call (a : Agenda) (now : Nat) (key : Key) (time : Nat) : Option Agenda :=
  if (a.time? key).any (· ≤ time) then some a
  else if now + reach < time then none
  else some ⟨a.due.insert key time⟩

/-- The agenda without the pass of a key. -/
def drop (a : Agenda) (key : Key) : Agenda := ⟨a.due.erase key⟩

/-- Whether `x` comes before `y`: by time, then by key. -/
def before (x y : Key × Nat) : Bool :=
  decide (x.2 < y.2) || (x.2 == y.2 && decide (x.1.text < y.1.text))

/-- The pass that is due first. -/
def first? (a : Agenda) : Option (Key × Nat) :=
  a.due.entries.foldl (fun best e =>
    match best with
    | none => some e
    | some b => if before e b then some e else some b) none

theorem time?_call {a a' : Agenda} {now time : Nat} {key : Key} (h : a.call now key time = some a') (x : Key) :
    a'.time? x = if x = key then some (((a.time? key).map (min · time)).getD time) else a.time? x := by
  unfold call at h
  split at h
  · rename_i hle
    cases h
    by_cases hx : x = key
    · subst hx
      cases ht : a.time? x with
      | none => simp [ht] at hle
      | some t =>
        have : t ≤ time := by simpa [ht] using hle
        simp [Nat.min_eq_left this]
    · simp [hx]
  · rename_i hle
    split at h
    · cases h
    · cases h
      by_cases hx : x = key
      · subst hx
        cases ht : a.time? x with
        | none => simp [time?, Table.get?_insert]
        | some t =>
          have : time < t := by simpa [ht] using hle
          simp [time?, Table.get?_insert, Nat.min_eq_right (Nat.le_of_lt this)]
      · simp [time?, Table.get?_insert, hx]

theorem time?_drop (a : Agenda) (key x : Key) : (a.drop key).time? x = if x = key then none else a.time? x :=
  Table.get?_erase a.due key x

end Agenda

end ModelServing
