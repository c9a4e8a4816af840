import ModelServing.Json
import ModelServing.Text.Digits

/-!
# Reading JSON

`Json.parse` reads one value with nothing but blanks around it. The grammar is that of RFC 8259: no leading zeros, no
bare control characters in strings. What the grammar allows and no value can hold is `Json.unreadable`: half a pair of
surrogates, a number beyond the binary fractions, an array or object inside 127 others. A text without a value either
ends too early or goes wrong before its end; `TextFault` tells the two apart, `Json.parse?` does not.

A number with a fraction or an exponent counts as many of its digits as stay below `2 ^ 64`. The readers of values,
items and members consume at least one character for every two steps of their `fuel`, so fuel of twice the length of
the text never runs out.
-/

namespace ModelServing

/-- Why a text holds no value: it ends before the value does, or something stands in it that no value has there. -/
inductive TextFault where
  | cutOff
  | malformed
deriving DecidableEq

end ModelServing

namespace ModelServing.Json.Reader

/-- The reason why something that has to come does not, given what comes instead. -/
def missing : List Char → TextFault
  | [] => .cutOff
  | _ :: _ => .malformed

/-- The text without the blanks in front. -/
def skipBlank : List Char → List Char
  | [] => []
  | c :: r => if c = ' ' ∨ c = '\n' ∨ c = '\t' ∨ c = '\r' then skipBlank r else c :: r

/-! ### strings -/

/-- The value of a hexadecimal digit. -/
def hexDigit (c : Char) : Except TextFault Nat :=
  if '0' ≤ c ∧ c ≤ '9' then .ok (c.toNat - '0'.toNat)
  else if 'a' ≤ c ∧ c ≤ 'f' then .ok (c.toNat - 'a'.toNat + 10)
  else if 'A' ≤ c ∧ c ≤ 'F' then .ok (c.toNat - 'A'.toNat + 10)
  else .error .malformed

/-- Four hexadecimal digits. -/
def hex4 : List Char → Except TextFault (Nat × List Char)
  | a :: b :: c :: d :: r => do
    let a ← hexDigit a
    let b ← hexDigit b
    let c ← hexDigit c
    let d ← hexDigit d
    .ok (((a * 16 + b) * 16 + c) * 16 + d, r)
  | _ => .error .cutOff

/-- The second of two surrogates, escaped, if it comes next. -/
def trailing? : List Char → Option (Nat × List Char)
  | '\\' :: 'u' :: r =>
    match hex4 r with
    | .ok (v, r) => if 0xDC00 ≤ v ∧ v < 0xE000 then some (v, r) else none
    | .error _ => none
  | _ => none

/-- The character of a `\u` escape, whose letter is already read: one unit, or two surrogates. A surrogate that has no
partner stands for no character. -/
def unicode (r : List Char) : Except TextFault (Option Char × List Char) := do
  let (u, r) ← hex4 r
  if 0xD800 ≤ u ∧ u < 0xDC00 then
    match trailing? r with
    | some (v, r) => .ok (some (Char.ofNat (0x10000 + (u - 0xD800) * 0x400 + (v - 0xDC00))), r)
    | none => .ok (none, r)
  else if 0xDC00 ≤ u ∧ u < 0xE000 then .ok (none, r)
  else .ok (some (Char.ofNat u), r)

/-- The character of an escape other than `\u`. -/
def escape? : Char → Option Char
  | '"' => some '"'
  | '\\' => some '\\'
  | '/' => some '/'
  | 'b' => some '\x08'
  | 'f' => some '\x0c'
  | 'n' => some '\n'
  | 'r' => some '\r'
  | 't' => some '\t'
  | _ => none

/-- One more character in front of those so far, if all of them can be read. -/
def more (c : Option Char) (acc : Option (List Char)) : Option (List Char) :=
  match c, acc with
  | some c, some cs => some (c :: cs)
  | _, _ => none

/-- The rest of a string whose opening quote is read; `acc` holds its characters so far, the last one first. -/
def string : Nat → Option (List Char) → List Char → Except TextFault (Option String × List Char)
  | 0, _, _ => .error .malformed
  | _ + 1, _, [] => .error .cutOff
  | fuel + 1, acc, c :: r =>
    if c = '"' then .ok (acc.map fun cs => String.ofList cs.reverse, r)
    else if c = '\\' then
      match r with
      | 'u' :: r => do
        let (c, r) ← unicode r
        string fuel (more c acc) r
      | e :: r =>
        match escape? e with
        | some c => string fuel (more (some c) acc) r
        | none => .error .malformed
      | [] => .error .cutOff
    else if c.toNat < 0x20 then .error .malformed
    else string fuel (more (some c) acc) r

/-- A string whose opening quote is read. -/
def text (r : List Char) : Except TextFault (Option String × List Char) := string (r.length + 1) (some []) r

/-! ### numbers -/

/-- The leading digits, and the rest. -/
def digits (cs : List Char) : List Char × List Char := (cs.takeWhile Char.isDigit, cs.dropWhile Char.isDigit)

/-- `n` with as many of the digits behind it as keep it below `2 ^ 64`, and the digits that are left. -/
def absorb (n : Nat) : List Char → Nat × List Char
  | [] => (n, [])
  | c :: r =>
    let m := n * 10 + Text.digit c
    if m < UInt64.size then absorb m r else (n, c :: r)

/-- The number of `whole` and `fraction`, its point moved by `power` places. -/
def inexact (negative : Bool) (whole fraction : List Char) (power : Int) : Json :=
  let (n, large) := absorb 0 whole
  let (n, small) := absorb n fraction
  let exponent : Int := power + large.length + small.length - fraction.length
  match Decimal.ofParts? negative n exponent with
  | some d => .float d
  | none => .unreadable

/-- A number without its sign: whole if it has neither point nor exponent and fits into 64 bits. -/
def number (negative : Bool) (cs : List Char) : Except TextFault (Json × List Char) := do
  let (whole, r) := digits cs
  if whole = [] then .error (missing r)
  else if whole.head? = some '0' ∧ 1 < whole.length then .error .malformed
  else
    let (fraction, r, hasPoint) := match r with
      | '.' :: r => let (f, r) := digits r; (f, r, true)
      | r => ([], r, false)
    if hasPoint ∧ fraction = [] then .error (missing r)
    else
      let (power, hasExponent, r) : Option Int × Bool × List Char := match r with
        | e :: r' =>
          if e = 'e' ∨ e = 'E' then
            let (minus, r') := match r' with
              | '+' :: t => (false, t)
              | '-' :: t => (true, t)
              | t => (false, t)
            let (ds, r') := digits r'
            if ds = [] then (none, true, r')
            else (some (if minus then -(Text.natOf ds : Int) else Text.natOf ds), true, r')
          else (some 0, false, r)
        | [] => (some 0, false, [])
      match power with
      | none => .error (missing r)
      | some power =>
        let n := Text.natOf whole
        let fits := if negative then n ≤ 9223372036854775808 ∧ n ≠ 0 else n < UInt64.size
        if !hasPoint && !hasExponent && decide fits then .ok (.int (if negative then -(n : Int) else n), r)
        else .ok (inexact negative whole fraction power, r)

/-! ### values -/

/-- What is behind a word that has to come next. -/
def word : List Char → List Char → Except TextFault (List Char)
  | [], r => .ok r
  | _ :: _, [] => .error .cutOff
  | e :: es, c :: r => if c = e then word es r else .error .malformed

/-- A value that is neither an array nor an object. -/
def scalar : List Char → Except TextFault (Json × List Char)
  | 'n' :: r => (word ['u', 'l', 'l'] r).map (.null, ·)
  | 't' :: r => (word ['r', 'u', 'e'] r).map (.bool true, ·)
  | 'f' :: r => (word ['a', 'l', 's', 'e'] r).map (.bool false, ·)
  | '"' :: r => (text r).map fun (s, r) => ((s.map Json.str).getD .unreadable, r)
  | '-' :: r => number true r
  | r => number false r

/-- The name of a member with its colon. -/
def name (cs : List Char) : Except TextFault (Option String × List Char) :=
  match skipBlank cs with
  | '"' :: r => do
    let (s, r) ← text r
    match skipBlank r with
    | ':' :: r => .ok (s, r)
    | r => .error (missing r)
  | r => .error (missing r)

/-- What is behind a value and the brackets around it that `closers` still have to close. With `fresh` the value comes
next, else it has just been read. -/
def skip : Nat → List Char → Bool → List Char → Except TextFault (List Char)
  | 0, _, _, _ => .error .malformed
  | fuel + 1, closers, true, cs =>
    match skipBlank cs with
    | '[' :: r =>
      match skipBlank r with
      | ']' :: r => skip fuel closers false r
      | r => skip fuel (']' :: closers) true r
    | '\x7b' :: r =>
      match skipBlank r with
      | '\x7d' :: r => skip fuel closers false r
      | r => (name r).bind fun m => skip fuel ('\x7d' :: closers) true m.2
    | r => (scalar r).bind fun v => skip fuel closers false v.2
  | _ + 1, [], false, cs => .ok cs
  | fuel + 1, closer :: closers, false, cs =>
    match skipBlank cs with
    | ',' :: r =>
      if closer = ']' then skip fuel (closer :: closers) true r
      else (name r).bind fun m => skip fuel (closer :: closers) true m.2
    | c :: r => if c = closer then skip fuel closers false r else .error .malformed
    | [] => .error .cutOff

/-- An array or object that stands inside too many others. -/
def buried (cs : List Char) : Except TextFault (Json × List Char) :=
  (skip (2 * cs.length + 2) [] true cs).map (.unreadable, ·)

/-- An object of its members, unless one of the names is no string. -/
def object (members : List (Option String × Json)) : Json :=
  match members.mapM fun m => m.1.map (·, m.2) with
  | some members => .obj members
  | none => .unreadable

mutual

/-- One value; `depth` counts down the values that may stand around it. -/
def value : Nat → Nat → List Char → Except TextFault (Json × List Char)
  | 0, _, _ => .error .malformed
  | fuel + 1, depth, cs =>
    match skipBlank cs with
    | '[' :: r =>
      match depth with
      | 0 => buried ('[' :: r)
      | depth + 1 =>
        match skipBlank r with
        | ']' :: r => .ok (.arr [], r)
        | r => (items fuel depth r).map fun (xs, r) => (.arr xs, r)
    | '\x7b' :: r =>
      match depth with
      | 0 => buried ('\x7b' :: r)
      | depth + 1 =>
        match skipBlank r with
        | '\x7d' :: r => .ok (.obj [], r)
        | r => (members fuel depth r).map fun (ms, r) => (object ms, r)
    | r => scalar r

/-- The items of an array up to its closing bracket. -/
def items : Nat → Nat → List Char → Except TextFault (List Json × List Char)
  | 0, _, _ => .error .malformed
  | fuel + 1, depth, cs =>
    (value fuel depth cs).bind fun (x, r) =>
      match skipBlank r with
      | ',' :: r => (items fuel depth r).map fun (xs, r) => (x :: xs, r)
      | ']' :: r => .ok ([x], r)
      | r => .error (missing r)

/-- The members of an object up to its closing brace. -/
def members : Nat → Nat → List Char → Except TextFault (List (Option String × Json) × List Char)
  | 0, _, _ => .error .malformed
  | fuel + 1, depth, cs =>
    (name cs).bind fun (name, r) => (value fuel depth r).bind fun (x, r) =>
      match skipBlank r with
      | ',' :: r => (members fuel depth r).map fun (ms, r) => ((name, x) :: ms, r)
      | '\x7d' :: r => .ok ([(name, x)], r)
      | r => .error (missing r)

end

end ModelServing.Json.Reader

namespace ModelServing

/-- The value that a text holds. -/
def Json.parse (text : String) : Except TextFault Json :=
  let cs := text.toList
  (Json.Reader.value (2 * cs.length + 2) 127 cs).bind fun (j, r) =>
    if Json.Reader.skipBlank r = [] then .ok j else .error .malformed

/-- The value that a text holds, if it holds one. -/
def Json.parse? (text : String) : Option Json := (Json.parse text).toOption

end ModelServing
