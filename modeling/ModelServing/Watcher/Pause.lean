/-!
# Pauses

How long watchers are left alone after a failure.

* `Pause.delay` is the delay after so many failures in a row;
* `Pause.fail` begins a pause, `Pause.succeed` forgets the failures, `Pause.isOver` says whether it is over;
* a failure long after the one before counts as the first.
-/

namespace ModelServing

/-- The failures in a row, when the last one was, and until when the pause after it lasts; times are in milliseconds. -/
structure Pause where
  failures : Nat := 0
  last : Nat := 0
  finish : Nat := 0

namespace Pause

/-- The delay after `n` failures before the one at hand, at most half a minute. The first is 0.8 seconds; the others
double it as a binary fraction, which lies just above, and are rounded up to a millisecond. -/
def delay (n : Nat) : Nat := if n < 6 then 800 * Nat.pow 2 n + min n 1 else 30000

/-- The time after which a failure counts as the first again. -/
def memory : Nat := 120000

/-- The pause after a failure now. -/
def fail (p : Pause) (now : Nat) : Pause :=
  let failures := if p.last + memory < now then 0 else p.failures
  ⟨failures + 1, now, now + delay failures⟩

/-- The pause after something was heard. -/
def succeed (p : Pause) : Pause := { p with failures := 0 }

/-- Whether watchers may go on. -/
def isOver (p : Pause) (now : Nat) : Bool := decide (p.finish ≤ now)

theorem delay_pos (n : Nat) : 0 < delay n := by
  unfold delay
  split
  · have : 0 < Nat.pow 2 n := Nat.pow_pos (by decide)
    omega
  · decide

theorem isOver_fail (p : Pause) (now : Nat) : (p.fail now).isOver now = false :=
  decide_eq_false (Nat.not_le.2 (Nat.lt_add_of_pos_right (delay_pos _)))

end Pause

end ModelServing
