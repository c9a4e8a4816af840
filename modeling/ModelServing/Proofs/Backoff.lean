import Mathlib.Algebra.Order.Ring.Nat
import Mathlib.Data.List.Induction
import ModelServing.Backoff

/-!
# How long failures in a row wait

* `toNanos_delay` is the delay after some failures in exact arithmetic, where only the maximum cuts anything off;
* `Ask` is what a backoff can be asked, `after` the backoff after a list of askings in any order, and `inARow` counts
  the failures of a key in such a list since the key was forgotten last;
* `failures_after` says that a backoff has counted just these, as far as its counts go;
* `delay_of_asks` gives the delay of every key after every list of askings.
-/

namespace ModelServing.Backoff

/-! ### one delay -/

theorem toNat_factor (n : UInt32) : (factor n).toNat = 2 ^ min n.toNat 31 := by
  have small : 2 ^ min n.toNat 31 < UInt32.size :=
    lt_of_le_of_lt (Nat.pow_le_pow_right (by decide) (Nat.min_le_right _ _)) (by decide)
  exact UInt32.toNat_ofNat_of_lt' small

/-- **The delay after `n` failures**, in nanoseconds: a product that is too large for a duration is larger than any
maximum, so that nothing is lost by stopping there. -/
theorem toNanos_delay (b : Backoff) (n : UInt32) :
    (b.delay n).toNanos = min b.max.toNanos (b.base.toNanos * 2 ^ min n.toNat 31) := by
  have limit : b.max.toNanos ≤ Duration.longest.toNanos := b.max.toNanos_le_longest
  unfold delay
  rw [Duration.toNanos_min, Duration.toNanos_mul, toNat_factor]
  omega

/-- The count goes up by one until it cannot. -/
theorem toNat_succ (n : UInt32) : (succ n).toNat = min (n.toNat + 1) 4294967295 := by
  have bound := n.toNat_lt
  unfold succ
  split
  · rename_i h
    rw [h]
    rfl
  · rename_i h
    have other : n.toNat ≠ 4294967295 := fun h' => h (UInt32.toNat_inj.1 h')
    rw [UInt32.toNat_add, UInt32.toNat_one]
    omega

/-! ### lists of askings -/

/-- What a backoff is asked. -/
inductive Ask where
  /-- To count a failure of the key, and to tell its delay. -/
  | next (key : Key)
  /-- To forget the failures of the key. -/
  | forget (key : Key)
deriving DecidableEq

namespace Ask

def key : Ask → Key
  | next key | forget key => key

end Ask

def ask (b : Backoff) : Ask → Backoff
  | .next key => (b.next key).2
  | .forget key => b.forget key

/-- The backoff after a list of askings. -/
def after (b : Backoff) (asks : List Ask) : Backoff := asks.foldl ask b

/-- How often a key has failed in a list since it was forgotten last. -/
def inARow (key : Key) (asks : List Ask) : Nat :=
  ((asks.filter fun a => decide (a.key = key)).reverse.takeWhile fun a => decide (a ≠ .forget key)).length

section Lists

variable {key k : Key} {asks more : List Ask} {a : Ask}

theorem after_append (b : Backoff) (asks more : List Ask) : b.after (asks ++ more) = (b.after asks).after more :=
  List.foldl_append

theorem inARow_concat_next : inARow key (asks ++ [.next k]) = inARow key asks + (if k = key then 1 else 0) := by
  unfold inARow
  by_cases hk : k = key
  · simp [Ask.key, hk]
  · simp [Ask.key, hk]

theorem inARow_concat_forget : inARow key (asks ++ [.forget k]) = if k = key then 0 else inARow key asks := by
  unfold inARow
  by_cases hk : k = key
  · simp [Ask.key, hk]
  · simp [Ask.key, hk]

/-- Nothing is taken off a row but by forgetting it. -/
theorem inARow_le_append (kept : .forget key ∉ more) : inARow key asks ≤ inARow key (asks ++ more) := by
  induction more using List.reverseRecOn with
  | nil => rw [List.append_nil]
  | append_singleton more a ih =>
    rw [List.mem_append, List.mem_singleton, not_or] at kept
    rw [← List.append_assoc]
    refine (ih kept.1).trans ?_
    cases a with
    | next k =>
      rw [inARow_concat_next]
      exact Nat.le_add_right _ _
    | forget k =>
      have other : k ≠ key := fun h => kept.2 (by rw [h])
      rw [inARow_concat_forget, if_neg other]

theorem inARow_own : inARow key (asks.filter fun a => decide (a.key = key)) = inARow key asks := by
  unfold inARow
  rw [List.filter_filter]
  simp

theorem limits_after (b : Backoff) (asks : List Ask) : (b.after asks).base = b.base ∧ (b.after asks).max = b.max := by
  induction asks using List.reverseRecOn with
  | nil => exact ⟨rfl, rfl⟩
  | append_singleton asks a ih =>
    rw [after_append]
    cases a <;> exact ih

/-- **The counts are the failures in a row**, up to the largest count. -/
theorem failures_after (base max : Duration) (asks : List Ask) (key : Key) :
    ((({ base, max } : Backoff).after asks).failures key).toNat = min (inARow key asks) 4294967295 := by
  induction asks using List.reverseRecOn with
  | nil => rfl
  | append_singleton asks a ih =>
    rw [after_append]
    cases a with
    | next k =>
      show (((_ : Backoff).record k).failures key).toNat = _
      rw [failures_record, inARow_concat_next]
      by_cases hk : key = k
      · subst hk
        rw [if_pos rfl, if_pos rfl, toNat_succ, ih]
        omega
      · rw [if_neg hk, if_neg (Ne.symm hk), ih, Nat.add_zero]
    | forget k =>
      show (((_ : Backoff).forget k).failures key).toNat = _
      rw [failures_forget, inARow_concat_forget]
      by_cases hk : key = k
      · rw [if_pos hk, if_pos hk.symm]
        rfl
      · rw [if_neg hk, if_neg (Ne.symm hk), ih]

/-- The delay that a key is told after a list of askings, from no failures at all. -/
def delayAfter (base max : Duration) (key : Key) (asks : List Ask) : Duration :=
  ((({ base, max } : Backoff).after asks).next key).1

theorem toNanos_delayAfter (base max : Duration) (key : Key) (asks : List Ask) :
    (delayAfter base max key asks).toNanos = min max.toNanos (base.toNanos * 2 ^ min (inARow key asks) 31) := by
  obtain ⟨hb, hm⟩ := limits_after { base, max } asks
  have count := failures_after base max asks key
  have power : min (min (inARow key asks) 4294967295) 31 = min (inARow key asks) 31 := by omega
  show (((_ : Backoff).delay _).toNanos) = _
  rw [toNanos_delay, hb, hm, count, power]

/-- A key never waits longer than the maximum, and never shorter than the base if that is not above the maximum. -/
theorem delayAfter_le (base max : Duration) (key : Key) (asks : List Ask) : delayAfter base max key asks ≤ max := by
  rw [Duration.le_iff, toNanos_delayAfter]
  exact Nat.min_le_left _ _

theorem le_delayAfter {base max : Duration} (bounds : base ≤ max) (key : Key) (asks : List Ask) :
    base ≤ delayAfter base max key asks := by
  rw [Duration.le_iff] at bounds ⊢
  rw [toNanos_delayAfter]
  exact Nat.le_min.2 ⟨bounds, Nat.le_mul_of_pos_right _ (Nat.pow_pos (by decide))⟩

/-- **The delay of a key after any list of askings** is the base, doubled with every failure in a row but no more than
thirty-one times, or the maximum, if that is less. It is the base doubled with every failure wherever thirty-one times
are enough to reach the maximum, it never gets shorter while the key is not forgotten, and it is the same without the
askings for other keys. -/
theorem delay_of_asks (base max : Duration) (key : Key) (asks : List Ask) :
    (delayAfter base max key asks).toNanos = min max.toNanos (base.toNanos * 2 ^ min (inARow key asks) 31) ∧
      delayAfter base max key asks ≤ max ∧
      (max.toNanos ≤ base.toNanos * 2 ^ 31 →
        (delayAfter base max key asks).toNanos = min max.toNanos (base.toNanos * 2 ^ inARow key asks)) ∧
      (∀ more, .forget key ∉ more → delayAfter base max key asks ≤ delayAfter base max key (asks ++ more)) ∧
      delayAfter base max key (asks.filter fun a => decide (a.key = key)) = delayAfter base max key asks := by
  have nanos := toNanos_delayAfter base max key asks
  refine ⟨nanos, ?_, fun reached => ?_, fun more kept => ?_, ?_⟩
  · rw [Duration.le_iff, nanos]
    exact Nat.min_le_left _ _
  · rw [nanos]
    rcases Nat.le_total (inARow key asks) 31 with few | many
    · rw [Nat.min_eq_left few]
    · -- both products have reached the maximum
      have further : base.toNanos * 2 ^ 31 ≤ base.toNanos * 2 ^ inARow key asks :=
        Nat.mul_le_mul_left _ (Nat.pow_le_pow_right (by decide) many)
      rw [Nat.min_eq_right many, Nat.min_eq_left reached, Nat.min_eq_left (reached.trans further)]
  · have row : inARow key asks ≤ inARow key (asks ++ more) := inARow_le_append kept
    have power : 2 ^ min (inARow key asks) 31 ≤ 2 ^ min (inARow key (asks ++ more)) 31 :=
      Nat.pow_le_pow_right (by decide) (min_le_min row le_rfl)
    rw [Duration.le_iff, nanos, toNanos_delayAfter]
    exact min_le_min le_rfl (Nat.mul_le_mul_left _ power)
  · rw [← Duration.toNanos_inj, toNanos_delayAfter, inARow_own, nanos]

/-- A shop that has failed twice, while its neighbour failed and was forgotten, waits four times the base. -/
theorem delay_of_asks_shop :
    let shop : Key := ⟨"shop", "fraud"⟩
    let neighbour : Key := ⟨"shop", "neighbour"⟩
    let delay := delayAfter (Duration.ofSecs 5) (Duration.ofSecs 300) shop
    let morning := [.next shop, .next neighbour, .forget neighbour, .next shop]
    delay morning = Duration.ofSecs 20 ∧ delay morning ≤ delay (morning ++ [.next shop, .forget neighbour]) := by
  intro shop neighbour delay morning
  obtain ⟨-, -, doubled, grows, -⟩ := delay_of_asks (Duration.ofSecs 5) (Duration.ofSecs 300) shop morning
  refine ⟨?_, grows _ (by decide)⟩
  rw [← Duration.toNanos_inj, doubled (by decide)]
  decide

end Lists

end ModelServing.Backoff
