/-!
# Durations

A duration is a number of seconds of 64 bits and a number of nanoseconds below one second.

* `Duration.toNanos` is its value in nanoseconds, by which durations are compared (`Duration.le_iff`, `toNanos_inj`);
* `Duration.mul` multiplies by a 32-bit number and stops at `Duration.longest`: `toNanos_mul` says that the result is
  the exact product or the longest duration, whichever is less.
-/

namespace ModelServing

/-- A length of time. -/
@[ext] structure Duration where
  secs : UInt64
  nanos : UInt32
  nanos_lt : nanos.toNat < 1000000000
deriving DecidableEq

namespace Duration

/-- The length in nanoseconds. -/
def toNanos (d : Duration) : Nat := d.secs.toNat * 1000000000 + d.nanos.toNat

/-- The length in milliseconds, rounded up. -/
def toMillis (d : Duration) : Nat := (d.toNanos + 999999) / 1000000

/-- The longest duration. -/
def longest : Duration := ⟨0xFFFFFFFFFFFFFFFF, 999999999, by decide⟩

/-- A whole number of seconds. -/
def ofSecs (s : UInt64) : Duration := ⟨s, 0, by decide⟩

instance : Inhabited Duration := ⟨ofSecs 0⟩

/-- The duration of `n` nanoseconds, or the longest one if `n` is more than that. -/
def ofNanos (n : Nat) : Duration :=
  if n / 1000000000 < UInt64.size then
    ⟨UInt64.ofNat (n / 1000000000), UInt32.ofNat (n % 1000000000), by
      have h : n % 1000000000 < 1000000000 := Nat.mod_lt _ (by decide)
      rw [UInt32.toNat_ofNat_of_lt' (Nat.lt_trans h (by decide))]
      exact h⟩
  else longest

/-- A whole number of milliseconds. -/
def ofMillis (n : UInt64) : Duration := ofNanos (n.toNat * 1000000)

/-- `d` taken `k` times: nanoseconds are carried into the seconds, and a result that does not fit is the longest
duration. -/
def mul (d : Duration) (k : UInt32) : Duration :=
  let carried := d.nanos.toNat * k.toNat
  let secs := d.secs.toNat * k.toNat + carried / 1000000000
  if secs < UInt64.size then
    ⟨UInt64.ofNat secs, UInt32.ofNat (carried % 1000000000), by
      have h : carried % 1000000000 < 1000000000 := Nat.mod_lt _ (by decide)
      rw [UInt32.toNat_ofNat_of_lt' (Nat.lt_trans h (by decide))]
      exact h⟩
  else longest

/-- The order of lengths: by seconds, then by nanoseconds. -/
instance : LE Duration := ⟨fun a b => a.secs < b.secs ∨ (a.secs = b.secs ∧ a.nanos ≤ b.nanos)⟩

instance (a b : Duration) : Decidable (a ≤ b) :=
  inferInstanceAs (Decidable (a.secs < b.secs ∨ (a.secs = b.secs ∧ a.nanos ≤ b.nanos)))

instance : Min Duration := ⟨fun a b => if a ≤ b then a else b⟩

/-- Seconds, a point, and nine digits. -/
def text (d : Duration) : String :=
  let ns := toString d.nanos.toNat
  toString d.secs.toNat ++ "." ++ String.ofList (List.replicate (9 - ns.length) '0') ++ ns

theorem le_iff {a b : Duration} : a ≤ b ↔ a.toNanos ≤ b.toNanos := by
  have ha := a.nanos_lt
  have hb := b.nanos_lt
  show (a.secs < b.secs ∨ (a.secs = b.secs ∧ a.nanos ≤ b.nanos)) ↔ _
  rw [UInt64.lt_iff_toNat_lt, ← UInt64.toNat_inj, UInt32.le_iff_toNat_le]
  unfold toNanos
  omega

theorem toNanos_min (a b : Duration) : (min a b).toNanos = min a.toNanos b.toNanos := by
  show (if a ≤ b then a else b).toNanos = _
  by_cases h : a ≤ b
  · rw [if_pos h]; exact (Nat.min_eq_left (le_iff.1 h)).symm
  · rw [if_neg h]; exact (Nat.min_eq_right (Nat.le_of_not_le fun h' => h (le_iff.2 h'))).symm

theorem toNanos_inj {a b : Duration} : a.toNanos = b.toNanos ↔ a = b := by
  constructor
  · intro h
    have ha := a.nanos_lt
    have hb := b.nanos_lt
    unfold toNanos at h
    have h1 : a.secs.toNat = b.secs.toNat := by omega
    have h2 : a.nanos.toNat = b.nanos.toNat := by omega
    exact Duration.ext (UInt64.toNat_inj.1 h1) (UInt32.toNat_inj.1 h2)
  · rintro rfl; rfl

theorem toNanos_ofSecs (s : UInt64) : (ofSecs s).toNanos = s.toNat * 1000000000 := by
  simp [toNanos, ofSecs]

theorem ofSecs_le_iff {a b : UInt64} : ofSecs a ≤ ofSecs b ↔ a.toNat ≤ b.toNat := by
  rw [le_iff, toNanos_ofSecs, toNanos_ofSecs]
  omega

theorem toNanos_longest : longest.toNanos = 18446744073709551615999999999 := by decide

theorem toNanos_le_longest (d : Duration) : d.toNanos ≤ longest.toNanos := by
  have h1 := d.nanos_lt
  have h2 := d.secs.toNat_lt
  rw [toNanos_longest]
  unfold toNanos
  omega

theorem toNanos_mul (d : Duration) (k : UInt32) :
    (d.mul k).toNanos = min (d.toNanos * k.toNat) longest.toNanos := by
  have e : d.toNanos * k.toNat = d.secs.toNat * k.toNat * 1000000000 + d.nanos.toNat * k.toNat := by
    unfold toNanos
    rw [Nat.add_mul, Nat.mul_right_comm]
  have size : UInt64.size = 18446744073709551616 := rfl
  unfold mul
  simp only
  split
  · rename_i h
    rw [Nat.min_eq_left, e]
    · have hm : d.nanos.toNat * k.toNat % 1000000000 < 1000000000 := Nat.mod_lt _ (by decide)
      show (UInt64.ofNat _).toNat * 1000000000 + (UInt32.ofNat _).toNat = _
      rw [UInt64.toNat_ofNat_of_lt' h, UInt32.toNat_ofNat_of_lt' (Nat.lt_trans hm (by decide))]
      omega
    · rw [e, toNanos_longest]; omega
  · rename_i h
    rw [Nat.min_eq_right]
    rw [e, toNanos_longest]
    omega

end Duration

end ModelServing
