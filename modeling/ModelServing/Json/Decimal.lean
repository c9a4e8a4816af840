/-!
# Decimals of binary fractions

The numbers with a fraction or an exponent in a JSON text stand for 64-bit binary fractions. A `Decimal` keeps such a
number as the shortest decimal that reads back as it, so that equal numbers are equal values.

* `nearest` takes a ratio to the binary fraction `m * 2 ^ q` next to it (ties to the even `m`);
* `shortest` takes a binary fraction to the decimal with the fewest digits among those that round to it, and of these
  to the nearest;
* `shift?` moves the point of a binary fraction, by at most 308 places at a time and rounded every time;
* `Decimal.ofParts?` is the decimal of a number that is given by digits and exponent, `Decimal.text` writes a decimal:
  positional up to sixteen places before and five zeros behind the point, with a signed exponent beyond.
-/

namespace ModelServing

/-- The number `± digits * 10 ^ exponent`. -/
structure Decimal where
  negative : Bool
  digits : Nat
  exponent : Int
deriving DecidableEq, Inhabited

namespace Decimal

/-- `num / den` times `base ^ e`, as a ratio. -/
def scale (num den base : Nat) (e : Int) : Nat × Nat :=
  if 0 ≤ e then (num * base.pow e.toNat, den) else (num, den * base.pow (-e).toNat)

/-- `num / den` to the nearest whole number, ties to even. -/
def roundHalfEven (num den : Nat) : Nat :=
  let n := num / den
  let twice := 2 * (num % den)
  if twice < den then n
  else if twice = den then n + n % 2
  else n + 1

/-- The least whole number of 53 binary digits, which is `2 ^ 52`. -/
def leastFull : Nat := 4503599627370496

/-- The binary fraction `m * 2 ^ q` nearest to `num / den`, with `m < 2 ^ 53` and `-1074 ≤ q`; `none` above the
largest one. -/
def nearest (num den : Nat) : Option (Nat × Int) :=
  if num = 0 then some (0, -1074)
  else
    let guess : Int := (num.log2 : Int) - (den.log2 : Int) - 52
    let start : Int := max guess (-1074)
    let wide := scale num den 2 (-start)
    let q : Int := if wide.1 < wide.2 * leastFull then max (start - 1) (-1074) else start
    let ratio := scale num den 2 (-q)
    let m := roundHalfEven ratio.1 ratio.2
    let fit : Nat × Int := if m = 2 * leastFull then (leastFull, q + 1) else (m, q)
    if fit.2 ≤ 971 then some fit else none

/-- The exponent of the leading digit of `num / den`: the greatest `e` with `10 ^ e ≤ num / den`, looked for downwards
from `e`. -/
def leading (num den : Nat) : Nat → Int → Int
  | 0, e => e
  | fuel + 1, e =>
    let ratio := scale num den 10 (-e)
    if ratio.2 ≤ ratio.1 then e else leading num den fuel (e - 1)

/-- Whether the ratio `a` lies between the ratios `lo` and `hi`, ends included iff `ends`. -/
def within (a lo hi : Nat × Nat) (ends : Bool) : Bool :=
  if ends then decide (lo.1 * a.2 ≤ a.1 * lo.2) && decide (a.1 * hi.2 ≤ hi.1 * a.2)
  else decide (lo.1 * a.2 < a.1 * lo.2) && decide (a.1 * hi.2 < hi.1 * a.2)

/-- On the grid of the multiples of `10 ^ x`, the neighbour of `v` that lies between `lo` and `hi`, the nearer of two,
and of two as near the even one. -/
def onGrid (v lo hi : Nat × Nat) (ends : Bool) (x : Int) : Option Nat :=
  let ratio := scale v.1 v.2 10 (-x)
  let below := ratio.1 / ratio.2
  let above := below + 1
  let hit := fun d : Nat => within (scale d 1 10 x) lo hi ends
  match hit below, hit above with
  | true, true => some (roundHalfEven ratio.1 ratio.2)
  | true, false => some below
  | false, true => some above
  | false, false => none

/-- The first grid with a hit, from `10 ^ x` down. -/
def firstGrid (v lo hi : Nat × Nat) (ends : Bool) : Nat → Int → Nat × Int
  | 0, x => (0, x)
  | fuel + 1, x =>
    match onGrid v lo hi ends x with
    | some d => (d, x)
    | none => firstGrid v lo hi ends fuel (x - 1)

/-- Trailing zeros moved from the digits to the exponent. -/
def trim : Nat → Nat → Int → Nat × Int
  | 0, d, x => (d, x)
  | fuel + 1, d, x => if d % 10 = 0 ∧ d ≠ 0 then trim fuel (d / 10) (x + 1) else (d, x)

/-- The shortest decimal that rounds to `m * 2 ^ q`, as digits and exponent. -/
def shortest (m : Nat) (q : Int) : Nat × Int :=
  if m = 0 then (0, 0)
  else
    let v := scale m 1 2 q
    let hi := scale (2 * m + 1) 1 2 (q - 1)
    let lo := if m = leastFull ∧ -1074 < q then scale (4 * m - 1) 1 2 (q - 2) else scale (2 * m - 1) 1 2 (q - 1)
    let e := leading v.1 v.2 700 310
    let found := firstGrid v lo hi (m % 2 == 0) 20 e
    trim 20 found.1 found.2

/-! ### numbers in parts -/

/-- The most places by which the point is moved at a time. -/
def reach : Nat := 308

/-- The product of two binary fractions, rounded. -/
def product (a b : Nat × Int) : Option (Nat × Int) :=
  let ratio := scale (a.1 * b.1) 1 2 (a.2 + b.2)
  nearest ratio.1 ratio.2

/-- The quotient of two binary fractions, rounded. -/
def quotient (a b : Nat × Int) : Option (Nat × Int) :=
  let ratio := scale a.1 b.1 2 (a.2 - b.2)
  nearest ratio.1 ratio.2

/-- The binary fraction nearest to `10 ^ n`. -/
def power (n : Nat) : Option (Nat × Int) := nearest (Nat.pow 10 n) 1

/-- `f * 10 ^ e`: multiplied once, or divided as often as it takes; `none` beyond the largest binary fraction. What is
below `2 ^ 64` is zero after two divisions, so that the fuel `3` is enough for it. -/
def shift? : Nat → Nat × Int → Int → Option (Nat × Int)
  | 0, f, _ => some f
  | fuel + 1, f, e =>
    if f.1 = 0 then some f
    else if (reach : Int) < e then none
    else if 0 ≤ e then (power e.toNat).bind (product f)
    else if -(reach : Int) ≤ e then (power (-e).toNat).bind (quotient f)
    else do
      let step ← power reach
      let f ← quotient f step
      shift? fuel f (e + reach)

/-- The decimal that `± digits * 10 ^ exponent` stands for, rounded first to the digits and then at every move of the
point; `none` if it is out of range. -/
def ofParts? (negative : Bool) (digits : Nat) (exponent : Int) : Option Decimal := do
  let f ← nearest digits 1
  let f ← shift? 3 f exponent
  let d := shortest f.1 f.2
  some ⟨negative, d.1, d.2⟩

/-! ### writing -/

/-- The digits of a decimal, without sign. -/
def digitChars (d : Decimal) : List Char := Nat.toDigits 10 d.digits

/-- A decimal as text. -/
def text (d : Decimal) : String :=
  let ds := d.digitChars
  let point : Int := ds.length + d.exponent
  let body : List Char :=
    if d.digits = 0 then "0.0".toList
    else if 0 ≤ d.exponent ∧ point ≤ 16 then ds ++ List.replicate d.exponent.toNat '0' ++ ".0".toList
    else if 0 < point ∧ point ≤ 16 then ds.take point.toNat ++ '.' :: ds.drop point.toNat
    else if -5 < point ∧ point ≤ 0 then "0.".toList ++ List.replicate (-point).toNat '0' ++ ds
    else
      let sign := if 0 < point then ['+'] else []
      let exponent := sign ++ (toString (point - 1)).toList
      match ds with
      | [c] => c :: 'e' :: exponent
      | c :: rest => c :: '.' :: rest ++ 'e' :: exponent
      | [] => []
  String.ofList (if d.negative then '-' :: body else body)

end Decimal

end ModelServing
