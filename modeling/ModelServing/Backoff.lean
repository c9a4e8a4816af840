import ModelServing.Service
import ModelServing.Time.Duration

/-!
# Backoff

How long to wait before a service whose pass failed is tried again: the base, doubled with every failure in a row, and
at most the maximum.

* `Backoff.delay` is the delay after `n` earlier failures;
* `Backoff.next` records a failure and gives its delay, `Backoff.forget` starts afresh;
* `failures_record` and `failures_forget` say what both do to the count of every key.
-/

namespace ModelServing

/-- The failures in a row of every key, a key without failures being absent. -/
structure Backoff where
  base : Duration
  max : Duration
  counts : Table Key UInt32 := Table.empty

namespace Backoff

/-- The number of failures in a row of a key. -/
def failures (b : Backoff) (key : Key) : UInt32 := (b.counts.get? key).getD 0

/-- One more failure; the count stops at the largest number. -/
def succ (n : UInt32) : UInt32 := if n = 0xFFFFFFFF then n else n + 1

/-- The factor by which the base grows after `n` failures: doubled each time, thirty-one times at most. -/
def factor (n : UInt32) : UInt32 := UInt32.ofNat (Nat.pow 2 (min n.toNat 31))

/-- The delay after `n` earlier failures. -/
def delay (b : Backoff) (n : UInt32) : Duration := min (b.base.mul (factor n)) b.max

/-- Records a failure of `key`. -/
def record (b : Backoff) (key : Key) : Backoff :=
  { b with counts := b.counts.insert key (succ (b.failures key)) }

/-- The delay before `key` is tried again, and the failure recorded. -/
def next (b : Backoff) (key : Key) : Duration × Backoff := (b.delay (b.failures key), b.record key)

/-- Forgets the failures of `key`. -/
def forget (b : Backoff) (key : Key) : Backoff := { b with counts := b.counts.erase key }

@[simp] theorem failures_record (b : Backoff) (key k : Key) :
    (b.record key).failures k = if k = key then succ (b.failures key) else b.failures k := by
  unfold record failures
  simp only [Table.get?_insert]
  split <;> rfl

@[simp] theorem failures_forget (b : Backoff) (key k : Key) :
    (b.forget key).failures k = if k = key then 0 else b.failures k := by
  unfold forget failures
  simp only [Table.get?_erase]
  split <;> rfl

/-- The next delay depends on the limits and on the failures of its key alone. -/
theorem next_congr {b b' : Backoff} {key : Key} (base : b.base = b'.base) (max : b.max = b'.max)
    (failures : b.failures key = b'.failures key) : (b.next key).1 = (b'.next key).1 := by
  unfold next delay
  rw [base, max, failures]

end Backoff

end ModelServing
