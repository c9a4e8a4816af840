import ModelServing.Text.Blank
import ModelServing.Text.Digits
import Mathlib.Algebra.Order.Ring.Nat

/-!
# Digits read back

The digits of a number stand for that number, with zeros in front or without, and a reader of digits stops behind them.

* `natOf_toDigits` and `natOf_zeros_append` say what digits stand for, `natOf_append_zeros` what zeros behind them do;
* `Digits ds` says that a list consists of digits, `Stops r` that no digit comes next;
* `Digits.takeWhile_append` and `Digits.dropWhile_append` cut a text behind its digits, and `skipBlanks_append` skips
  none of them.
-/

namespace ModelServing.Text

theorem natOf_eq_ofDigitChars (ds : List Char) : natOf ds = Nat.ofDigitChars 10 ds 0 := by
  rw [Nat.ofDigitChars_eq_foldl, natOf]
  congr
  funext n c
  rw [digit, Nat.mul_comm]

@[simp] theorem natOf_toDigits (n : Nat) : natOf (Nat.toDigits 10 n) = n := by
  rw [natOf_eq_ofDigitChars, Nat.ofDigitChars_ten_toDigits]

theorem natOf_zeros_append (k : Nat) (ds : List Char) : natOf (List.replicate k '0' ++ ds) = natOf ds := by
  simp [natOf_eq_ofDigitChars, Nat.ofDigitChars_append, Nat.ofDigitChars_replicate_zero]

theorem natOf_append_zeros (ds : List Char) (k : Nat) : natOf (ds ++ List.replicate k '0') = 10 ^ k * natOf ds := by
  simp [natOf_eq_ofDigitChars, Nat.ofDigitChars_append, Nat.ofDigitChars_replicate_zero]

theorem head?_toDigits_ne_zero {n : Nat} (h : n ≠ 0) : (Nat.toDigits 10 n).head? ≠ some '0' := by
  induction n using Nat.strongRecOn with
  | ind n ih =>
    by_cases small : n < 10
    · rw [Nat.toDigits_of_lt_base small]
      simpa [Nat.digitChar_eq_zero] using h
    · rw [Nat.toDigits_of_base_le (by decide) (by omega), List.head?_append,
        Option.or_of_isSome (by simp [Nat.toDigits_ne_nil])]
      exact ih (n / 10) (by omega) (by omega)

/-- Nothing but digits. -/
def Digits (ds : List Char) : Prop := ∀ c ∈ ds, c.isDigit = true

/-- No digit comes next. -/
def Stops (r : List Char) : Prop := ∀ c ∈ r.head?, c.isDigit = false

theorem digits_toDigits (n : Nat) : Digits (Nat.toDigits 10 n) := fun _ hc =>
  Nat.isDigit_of_mem_toDigits (by decide) (by decide) hc

theorem digits_zeros (k : Nat) : Digits (List.replicate k '0') := by
  intro c hc
  rw [List.eq_of_mem_replicate hc]
  rfl

theorem Digits.append {ds es : List Char} (hd : Digits ds) (he : Digits es) : Digits (ds ++ es) := by
  intro c hc
  exact (List.mem_append.1 hc).elim (hd c) (he c)

theorem stops_nil : Stops [] := by simp [Stops]

theorem stops_cons {c : Char} {r : List Char} : Stops (c :: r) ↔ c.isDigit = false := by simp [Stops]

theorem stops_take {r : List Char} (h : Stops r) (n : Nat) : Stops (r.take n) := by
  intro c hc
  rw [List.head?_take] at hc
  split at hc
  · cases hc
  · exact h c hc

theorem Digits.takeWhile_append {ds r : List Char} (hd : Digits ds) (hr : Stops r) :
    (ds ++ r).takeWhile Char.isDigit = ds := by
  rw [List.takeWhile_append_of_pos hd]
  cases r with
  | nil => simp
  | cons c r => simp [stops_cons.1 hr]

theorem Digits.dropWhile_append {ds r : List Char} (hd : Digits ds) (hr : Stops r) :
    (ds ++ r).dropWhile Char.isDigit = r := by
  rw [List.dropWhile_append_of_pos hd]
  cases r with
  | nil => rfl
  | cons c r => simp [stops_cons.1 hr]

/-! ### no blanks -/

theorem not_blank_of_isDigit {c : Char} (h : c.isDigit = true) : ¬ Blank c := by
  simp only [Char.isDigit, Bool.and_eq_true, decide_eq_true_eq, ge_iff_le, UInt32.le_iff_toNat_le] at h
  have : 48 ≤ c.toNat ∧ c.toNat ≤ 57 := h
  unfold Blank
  omega

theorem skipBlanks_cons {c : Char} (h : ¬ Blank c) (r : List Char) : skipBlanks (c :: r) = c :: r := by
  simp [skipBlanks, h]

theorem skipBlanks_append {ds : List Char} (hd : Digits ds) (hne : ds ≠ []) (r : List Char) :
    skipBlanks (ds ++ r) = ds ++ r := by
  obtain ⟨c, ds, rfl⟩ := List.exists_cons_of_ne_nil hne
  exact skipBlanks_cons (not_blank_of_isDigit (hd c (by simp))) (ds ++ r)

end ModelServing.Text
