/-!
# Decimal digits

* `Text.natOf` is the number that a list of digits stands for, `natOf_append_singleton` its law;
* `Text.word?` reads a number of 64 bits: digits, with or without a plus sign in front.
-/

namespace ModelServing.Text

/-- The value of a digit. -/
def digit (c : Char) : Nat := c.toNat - '0'.toNat

/-- The number that a list of digits stands for. -/
def natOf (ds : List Char) : Nat := ds.foldl (fun n c => n * 10 + digit c) 0

/-- The characters behind a plus sign, if there is one. -/
def unsigned : List Char → List Char
  | '+' :: r => r
  | r => r

/-- A number of 64 bits. -/
def word? (s : String) : Option Nat :=
  let ds := unsigned s.toList
  if ds ≠ [] ∧ ds.all Char.isDigit = true ∧ natOf ds < UInt64.size then some (natOf ds) else none

theorem natOf_append_singleton (ds : List Char) (c : Char) : natOf (ds ++ [c]) = natOf ds * 10 + digit c := by
  simp [natOf]

end ModelServing.Text
