import ModelServing.Text.Blank
import ModelServing.Text.Digits
import ModelServing.Time.Instant

/-!
# Instants as text

The timestamps of RFC 3339.

* `Instant.text` writes one with the offset `Z` and as few of 0, 3, 6 or 9 places of the second as are exact; a year
  beyond four digits has its sign;
* `Instant.parse?` reads one: date, `T` or a blank, time, any number of places, and `Z` or an offset of less than a day.
  Blanks may stand before every field, fields may lack their leading zeros, a year with a sign may have any number of
  digits, and places beyond the ninth are dropped. Years go from -262143 to 262142, here and in universal time.
-/

namespace ModelServing

namespace Instant

/-! ### writing -/

/-- A number with leading zeros up to `width` digits. -/
def padded (width n : Nat) : List Char :=
  let ds := Nat.toDigits 10 n
  List.replicate (width - ds.length) '0' ++ ds

/-- The year: four digits, or a sign and at least four. -/
def yearChars (year : Int) : List Char :=
  if 0 ≤ year ∧ year ≤ 9999 then padded 4 year.toNat
  else (if year < 0 then '-' else '+') :: padded 4 year.natAbs

/-- The places of the second, with their point. -/
def fractionChars (nanos : Nat) : List Char :=
  if nanos = 0 then []
  else if nanos % 1000000 = 0 then '.' :: padded 3 (nanos / 1000000)
  else if nanos % 1000 = 0 then '.' :: padded 6 (nanos / 1000)
  else '.' :: padded 9 nanos

/-- The characters of an instant. -/
def chars (i : Instant) : List Char :=
  yearChars i.date.year ++ '-' :: padded 2 i.date.month ++ '-' :: padded 2 i.date.day ++
    'T' :: padded 2 i.hour ++ ':' :: padded 2 i.minute ++ ':' :: padded 2 i.second ++
    fractionChars i.nanos ++ ['Z']

/-- The instant as text. -/
def text (i : Instant) : String := String.ofList i.chars

/-! ### reading -/

/-- A number of one to `width` digits, and the rest. -/
def number? (width : Nat) (cs : List Char) : Option (Nat × List Char) :=
  let ds := (cs.take width).takeWhile Char.isDigit
  if ds = [] then none else some (Text.natOf ds, cs.drop ds.length)

/-- A number of one to two digits after blanks. -/
def field? (cs : List Char) : Option (Nat × List Char) := number? 2 (Text.skipBlanks cs)

/-- A year after blanks: up to four digits, or a sign and any number of them. -/
def year? (cs : List Char) : Option (Int × List Char) :=
  match Text.skipBlanks cs with
  | '-' :: r => (number? r.length r).map fun (n, r) => (-(n : Int), r)
  | '+' :: r => (number? r.length r).map fun (n, r) => ((n : Int), r)
  | r => (number? 4 r).map fun (n, r) => ((n : Int), r)

/-- The separator `c` after blanks. -/
def separator? (c : Char) (cs : List Char) : Option (List Char) :=
  match Text.skipBlanks cs with
  | c' :: r => if c' = c then some r else none
  | [] => none

/-- The places of a second as nanoseconds. -/
def fraction? : List Char → Option (Nat × List Char)
  | '.' :: r =>
    let ds := r.takeWhile Char.isDigit
    if ds = [] then none
    else some (Text.natOf ((ds ++ List.replicate 9 '0').take 9), r.drop ds.length)
  | r => some (0, r)

/-- Two digits. -/
def twoDigits? : List Char → Option (Nat × List Char)
  | a :: b :: r => if a.isDigit ∧ b.isDigit then some (Text.natOf [a, b], r) else none
  | _ => none

/-- The minutes by which the written time is ahead of universal time. -/
def offset? (cs : List Char) : Option (Int × List Char) :=
  let signed (ahead : Bool) (r : List Char) : Option (Int × List Char) := do
    let (hours, r) ← twoDigits? r
    let (minutes, r) ← twoDigits? (r.dropWhile fun c => decide (c = ':' ∨ Text.Blank c))
    if hours < 24 ∧ minutes < 60 then
      some (if ahead then ((hours * 60 + minutes : Nat) : Int) else -((hours * 60 + minutes : Nat) : Int), r)
    else none
  match cs with
  | 'Z' :: r => some (0, r)
  | 'z' :: r => some (0, r)
  | '+' :: r => signed true r
  | '-' :: r => signed false r
  | '−' :: r => signed false r
  | u :: t :: c :: r => if u.toLower = 'u' ∧ t.toLower = 't' ∧ c.toLower = 'c' then some (0, r) else none
  | _ => none

/-- Whether a year can be told. -/
def inEra (year : Int) : Bool := decide (-262143 ≤ year ∧ year ≤ 262142)

/-- The date in front of a text. -/
def date? (cs : List Char) : Option (Date × List Char) := do
  let (year, r) ← year? cs
  let r ← separator? '-' r
  let (month, r) ← field? r
  let r ← separator? '-' r
  let (day, r) ← field? r
  if inEra year then
    let date ← Date.ofFields? year month day
    some (date, r)
  else none

/-- The instant of a list of characters. -/
def ofChars? (cs : List Char) : Option Instant := do
  let (date, r) ← date? cs
  let r ← match r with
    | c :: r => if c = 'T' ∨ c = 't' ∨ c = ' ' then some r else none
    | [] => none
  let (hour, r) ← field? r
  let r ← separator? ':' r
  let (minute, r) ← field? r
  let r ← separator? ':' r
  let (second, r) ← field? r
  let (nanos, r) ← fraction? r
  let (ahead, r) ← offset? (Text.skipBlanks r)
  if Text.skipBlanks r = [] then
    let clock ← ofFields? date hour minute second nanos
    let universal := clock.earlier ahead
    if inEra universal.date.year then some universal else none
  else none

/-- The instant that a text stands for. -/
def parse? (s : String) : Option Instant := ofChars? s.toList

end Instant

end ModelServing
