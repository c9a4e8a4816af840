import ModelServing.Proofs.Text.Digits
import ModelServing.Time.Rfc3339

/-!
# Instants read back

The text of an instant is read as that instant, to the nanosecond and with its leap second, whatever year of the era it
lies in.

* `number?_append` is about a block of digits; `year?_append`, `field?_append`, `separator?_cons` and `fraction?_append`
  are about the readers of the fields, each on what is written for its field and with the rest of the text behind it;
* `date?_append` puts the date together, `parse?_text` the instant.
-/

namespace ModelServing

theorem Date.ofFields?_self (d : Date) : Date.ofFields? d.year d.month d.day = some d := by
  simp [Date.ofFields?, d.month_ok, d.day_ok]

namespace Instant

open Text

/-! ### digits with zeros in front -/

theorem digits_padded (width n : Nat) : Digits (padded width n) := (digits_zeros _).append (digits_toDigits n)

theorem natOf_padded (width n : Nat) : natOf (padded width n) = n := by
  rw [padded, natOf_zeros_append, natOf_toDigits]

theorem length_padded {width n : Nat} (hw : 0 < width) (h : n < 10 ^ width) : (padded width n).length = width := by
  have := (Nat.length_toDigits_le_iff (b := 10) (by decide) hw).2 h
  simp only [padded, List.length_append, List.length_replicate]
  omega

theorem padded_ne_nil (width n : Nat) : padded width n ≠ [] := by
  simp [padded, Nat.toDigits_ne_nil]

/-! ### the fields -/

/-- A block of digits is read as a whole if it fills the width, or if no digit follows. -/
theorem number?_append {width : Nat} {ds r : List Char} (hd : Digits ds) (hne : ds ≠ [])
    (hl : ds.length = width ∨ ds.length ≤ width ∧ Stops r) : number? width (ds ++ r) = some (natOf ds, r) := by
  have read : ((ds ++ r).take width).takeWhile Char.isDigit = ds := by
    rw [List.take_append, List.take_of_length_le (by omega)]
    apply hd.takeWhile_append
    rcases hl with full | ⟨-, stops⟩
    · simp [full, stops_nil]
    · exact stops_take stops _
  simp only [number?, read, if_neg hne, List.drop_left]

theorem number?_padded {width k n : Nat} {r : List Char}
    (hl : (padded k n).length = width ∨ (padded k n).length ≤ width ∧ Stops r) :
    number? width (padded k n ++ r) = some (n, r) := by
  rw [number?_append (digits_padded k n) (padded_ne_nil k n) hl, natOf_padded]

theorem field?_append {n : Nat} (h : n < 100) (r : List Char) : field? (padded 2 n ++ r) = some (n, r) := by
  rw [field?, skipBlanks_append (digits_padded 2 n) (padded_ne_nil 2 n),
    number?_padded (.inl (length_padded (by decide) h))]

theorem separator?_cons {c : Char} (h : ¬ Blank c) (r : List Char) : separator? c (c :: r) = some r := by
  simp [separator?, skipBlanks_cons h]

/-- A year without a sign is a number of at most four digits. -/
theorem year?_of_digits {ds : List Char} (hd : Digits ds) (hne : ds ≠ []) (r : List Char) :
    year? (ds ++ r) = (number? 4 (ds ++ r)).map fun (n, r) => ((n : Int), r) := by
  obtain ⟨c, ds, rfl⟩ := List.exists_cons_of_ne_nil hne
  have isDigit : c.isDigit = true := hd c (by simp)
  rw [year?, skipBlanks_append hd hne, List.cons_append]
  split
  · rename_i h
    cases h
    exact absurd isDigit (by decide)
  · rename_i h
    cases h
    exact absurd isDigit (by decide)
  · rfl

theorem year?_append (year : Int) {r : List Char} (hr : Stops r) : year? (yearChars year ++ r) = some (year, r) := by
  have signed (n : Nat) : number? (padded 4 n ++ r).length (padded 4 n ++ r) = some (n, r) :=
    number?_padded (.inr ⟨by simp, hr⟩)
  unfold yearChars
  split
  · rw [year?_of_digits (digits_padded 4 _) (padded_ne_nil 4 _),
      number?_padded (.inl (length_padded (by decide) (by omega)))]
    simp only [Option.map_some, Option.some.injEq, Prod.mk.injEq, and_true]
    omega
  · split
    · simp only [year?, List.cons_append, skipBlanks_cons (show ¬ Blank '-' by decide), signed, Option.map_some,
        Option.some.injEq, Prod.mk.injEq, and_true]
      omega
    · simp only [year?, List.cons_append, skipBlanks_cons (show ¬ Blank '+' by decide), signed, Option.map_some,
        Option.some.injEq, Prod.mk.injEq, and_true]
      omega

/-- The places that are written for a second are its nanoseconds, the last ones being zeros. -/
theorem fraction?_places {k n : Nat} (hk : 0 < k) (hk9 : k ≤ 9) (hn : n < 10 ^ k) {r : List Char} (hr : Stops r) :
    fraction? ('.' :: padded k n ++ r) = some (10 ^ (9 - k) * n, r) := by
  have places : (padded k n ++ List.replicate 9 '0').take 9 = padded k n ++ List.replicate (9 - k) '0' := by
    rw [List.take_append, List.take_of_length_le (by rw [length_padded hk hn]; exact hk9), length_padded hk hn,
      List.take_replicate, Nat.min_eq_left (by omega)]
  simp only [fraction?, List.cons_append, (digits_padded k n).takeWhile_append hr, if_neg (padded_ne_nil k n), places,
    natOf_append_zeros, natOf_padded, List.drop_left]

theorem fraction?_append {nanos : Nat} (h : nanos < 1000000000) {r : List Char} (hr : Stops r)
    (hp : r.head? ≠ some '.') : fraction? (fractionChars nanos ++ r) = some (nanos, r) := by
  unfold fractionChars
  split
  · rename_i none
    subst none
    cases r with
    | nil => rfl
    | cons c r =>
      have : c ≠ '.' := by simpa using hp
      simp [fraction?, this]
  · split
    · rw [fraction?_places (by decide) (by decide) (by omega) hr]
      congr 2; omega
    · split
      · rw [fraction?_places (by decide) (by decide) (by omega) hr]
        congr 2; omega
      · rw [fraction?_places (by decide) (by decide) (by omega) hr]
        congr 2; omega

/-! ### the instant -/

theorem date?_append {d : Date} (era : inEra d.year = true) (r : List Char) :
    date? (yearChars d.year ++ '-' :: padded 2 d.month ++ '-' :: padded 2 d.day ++ r) = some (d, r) := by
  have hm := d.month_ok
  have hd : d.day < 100 := by
    have := d.day_ok.2
    have : daysIn d.year d.month ≤ 31 := by unfold daysIn; split <;> split <;> omega
    omega
  have stops (r : List Char) : Stops ('-' :: r) := stops_cons.2 rfl
  simp only [date?, List.append_assoc, List.cons_append, year?_append d.year (stops _),
    separator?_cons (show ¬ Blank '-' by decide), field?_append (show d.month < 100 by omega), field?_append hd, era,
    Option.bind_eq_bind, Option.bind_some, if_true, Date.ofFields?_self]

theorem earlier_zero (i : Instant) : i.earlier 0 = i := by
  obtain ⟨date, hour, minute, second, nanos, hh, hm, hs, hn⟩ := i
  have day : (((hour * 60 + minute : Nat) : Int) - 0) % 1440 = (hour * 60 + minute : Nat) := by omega
  simp only [earlier, day, if_neg (show ¬ ((hour * 60 + minute : Nat) : Int) - 0 < 0 by omega),
    if_neg (show ¬ (1440 : Int) ≤ ((hour * 60 + minute : Nat) : Int) - 0 by omega), Int.toNat_natCast, mk.injEq,
    true_and, and_true]
  omega

theorem ofFields?_self (i : Instant) : ofFields? i.date i.hour i.minute i.second i.nanos = some i := by
  simp [ofFields?, i.hour_lt, i.minute_lt, i.second_le, i.nanos_lt]

/-- **An instant is read back.** -/
theorem parse?_text {i : Instant} (era : inEra i.date.year = true) : parse? i.text = some i := by
  have hh := i.hour_lt
  have hm := i.minute_lt
  have hs := i.second_le
  have date := date?_append era ('T' :: padded 2 i.hour ++ ':' :: padded 2 i.minute ++ ':' :: padded 2 i.second ++
    fractionChars i.nanos ++ ['Z'])
  have places := fraction?_append i.nanos_lt (r := ['Z']) (stops_cons.2 rfl) (by decide)
  have zone : offset? (skipBlanks ['Z']) = some (0, []) := by rw [skipBlanks_cons (by decide)]; rfl
  simp only [List.append_assoc, List.cons_append] at date
  simp only [parse?, text, String.toList_ofList, ofChars?, chars, List.append_assoc, List.cons_append, date,
    true_or, if_true, field?_append (show i.hour < 100 by omega), field?_append (show i.minute < 100 by omega),
    field?_append (show i.second < 100 by omega), separator?_cons (show ¬ Blank ':' by decide), places, zone,
    Option.bind_eq_bind, Option.bind_some, ofFields?_self, earlier_zero, era]
  rfl

/-- A leap second is a second of its own. -/
example : (parse? "2016-12-31T23:59:60.500Z").map (fun i => (i.second, i.nanos)) = some (60, 500000000) := by decide

end Instant

end ModelServing
