import ModelServing.Json
import ModelServing.Table
import ModelServing.Time.Rfc3339

/-!
# Values of plain types as JSON

Whole numbers in their widths, instants, maps from strings to strings, and the names of constants.

A value whose type stands behind it in its text is first kept as data and read later. That makes a difference to the
names of constants alone; `Json.Mode` says which way a value is read.
-/

namespace ModelServing

/-- A whole number of 32 bits without sign. -/
def UInt32.ofJson? (j : Json) : Option UInt32 := (Json.intWithin? 0 4294967295 j).map fun i => UInt32.ofNat i.toNat

/-- A whole number of 32 bits with sign. -/
def Int32.ofJson? (j : Json) : Option Int32 := (Json.intWithin? (-2147483648) 2147483647 j).map Int32.ofInt

/-- A whole number of 64 bits with sign. -/
def Int64.ofJson? (j : Json) : Option Int64 :=
  (Json.intWithin? (-9223372036854775808) 9223372036854775807 j).map Int64.ofInt

/-- The instant that a string stands for. -/
def Instant.ofJson? (j : Json) : Option Instant := j.str?.bind parse?

/-- The members with their values read. -/
def Json.mapMembers? {α : Type} (read : Json → Option α) (members : List (String × Json)) :
    Option (List (String × α)) :=
  members.mapM fun m => (read m.2).map (m.1, ·)

/-- A map from strings to strings. -/
def Table.ofJson? (j : Json) : Option (Table String String) := do
  let members ← j.obj?
  let entries ← Json.mapMembers? Json.str? members
  some (Table.ofList entries)

/-- A map from strings to strings, written. -/
def Table.toJson (t : Table String String) : Json := .obj (t.entries.map fun e => (e.1, .str e.2))

/-- How a value is read. -/
inductive Json.Mode where
  /-- As it comes. -/
  | direct
  /-- Kept as data until its type is known. -/
  | deferred
deriving DecidableEq

/-- The name of a constant: a string, or an object whose one member is null. In data an empty object counts as null. -/
def Json.constant? (mode : Json.Mode) : Json → Option String
  | .str s => some s
  | .obj [(s, .null)] => some s
  | .obj [(s, .obj [])] => if mode = .deferred then some s else none
  | _ => none

end ModelServing
